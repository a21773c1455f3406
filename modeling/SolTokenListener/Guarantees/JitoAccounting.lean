import SolTokenListener.Guarantees.JitoSteps
import SolTokenListener.Guarantees.JitoValidity

/-!
# The books of the JitoSOL bot are exact

For every schedule of ticks, with a crash at any call and any answers of the gateway: what the journal
says a position cost is the sum of the receipts recorded for it, every receipt is recorded once, and a
running journal is within the limits of its configuration. The configuration of a journal is the one
its fingerprint identifies, as far as the limits go; that the digest separates configurations is not
claimed here.
-/

namespace SolTokenListener.Guarantees.JitoAccounting

open Lib.Checked
open Lib.Interleaving
open Source.JitoConfig Source.JitoJournal
open Source.JitoEngine
open Guarantees.JitoRuns
open Guarantees.JitoAmounts Guarantees.JitoValidity
open Guarantees.JitoSteps

/-! ## Exact books -/

def receiptsOf (records : List TransactionRecord) (id : String) : List TransactionRecord :=
  records.filter (·.positionId = id)

/-- The position is charged with the receipts recorded for it. -/
structure Charged (records : List TransactionRecord) (position : Position) : Prop where
  fees : lamports position.feesLamports = ((receiptsOf records position.id).map feeOf).sum
  costs : lamports position.nonRefundableCostLamports =
    ((receiptsOf records position.id).map costOf).sum

/-- The profit of a completed position. -/
def Realized (position : Position) : Prop :=
  ∃ claimed profit, position.actualClaimedLamports = some claimed ∧
    position.realizedProfitLamports = some profit ∧
    signedValue profit = (lamports claimed : Int) - lamports position.stakeRentLamports -
      lamports position.inputLamports - lamports position.feesLamports -
      lamports position.nonRefundableCostLamports

structure Accounted (state : JournalState) : Prop where
  total : lamports state.totalFeesLamports = (state.transactions.map feeOf).sum
  once : (state.transactions.map (·.transaction.signature)).Nodup
  distinct : ((state.position.toList ++ state.completedPositions).map (·.id)).Nodup
  current : ∀ position, state.position = some position → Charged state.transactions position
  completed : ∀ position ∈ state.completedPositions,
    Charged state.transactions position ∧ Realized position

structure WithinLimits (config : JitoBotConfig) (state : JournalState) : Prop where
  total : lamports state.totalFeesLamports ≤ config.maxTotalFeesLamports
  cycle : ∀ position, state.position = some position →
    lamports position.feesLamports ≤ config.networkBudgetLamports
  loss : lamports state.realizedLossLamports ≤ config.maxRealizedLossLamports

/-- While it runs, the journal is within the limits of a configuration with its fingerprint. -/
def Limited (setting : JitoSetting) (state : JournalState) : Prop :=
  state.status = .running → ∃ config, setting.configFingerprint config = state.configFingerprint ∧
    WithinLimits config state

/-! ## What does not touch the books -/

variable {setting : JitoSetting} {state next : JournalState}

section Frame

theorem Accounted.same (accounted : Accounted state)
    (total : next.totalFeesLamports = state.totalFeesLamports)
    (position : next.position = state.position)
    (transactions : next.transactions = state.transactions)
    (completed : next.completedPositions = state.completedPositions) : Accounted next := by
  constructor
  · rw [total, transactions]
    exact accounted.total
  · rw [transactions]
    exact accounted.once
  · rw [position, completed]
    exact accounted.distinct
  · rw [position, transactions]
    exact accounted.current
  · rw [completed, transactions]
    exact accounted.completed

theorem Limited.same (limited : Limited setting state)
    (status : next.status = state.status)
    (fingerprint : next.configFingerprint = state.configFingerprint)
    (total : next.totalFeesLamports = state.totalFeesLamports)
    (position : next.position = state.position)
    (loss : next.realizedLossLamports = state.realizedLossLamports) : Limited setting next := by
  intro running
  obtain ⟨config, identified, within⟩ := limited (status ▸ running)
  refine ⟨config, identified.trans fingerprint.symm, ?_, ?_, ?_⟩
  · rw [total]
    exact within.total
  · rw [position]
    exact within.cycle
  · rw [loss]
    exact within.loss

theorem limited_halted {reason : String} : Limited setting (haltedBy state reason) := nofun

end Frame

/-! ## Recording a receipt -/

variable {transaction : PendingTransaction} {records : List TransactionRecord}
variable {result : JournalState × Checked Unit} {config : JitoBotConfig} {profit : Int}

section Receipts

variable {codecs : JournalCodecs} {recorded : JournalState}
variable {position charged : Position} {outcome : ReceiptOutcome}
variable {effects : TransactionEffects} {now : Int}

theorem receiptsOf_append (records : List TransactionRecord) (record : TransactionRecord) (id : String) :
    receiptsOf (records ++ [record]) id =
      receiptsOf records id ++ if record.positionId = id then [record] else [] := by
  unfold receiptsOf
  rw [List.filter_append, List.filter_singleton]
  by_cases same : record.positionId = id <;> simp [same]

/-- A receipt of another position changes nothing for this one. -/
theorem Charged.other {record : TransactionRecord} (isCharged : Charged records position)
    (other : record.positionId ≠ position.id) :
    Charged (records ++ [record]) position := by
  constructor
  · rw [receiptsOf_append, if_neg other, List.append_nil]
    exact isCharged.fees
  · rw [receiptsOf_append, if_neg other, List.append_nil]
    exact isCharged.costs

theorem accounted_recorded (accounted : Accounted state) (valid : Valid codecs state)
    (pending : state.pending = some transaction) (held : state.position = some position)
    (receipt : recordReceipt state position transaction outcome effects now = .ok (recorded, charged)) :
    Accounted recorded ∧ recorded.position = some charged := by
  obtain ⟨totalFees, fee, positionFees, positionCosts, costs, effect⟩ := recordReceipt_eq_ok receipt
  obtain ⟨-, -, rfl⟩ := amount_eq_ok.mp effect.readTotalFees
  obtain ⟨-, -, rfl⟩ := amount_eq_ok.mp effect.readFee
  obtain ⟨-, -, rfl⟩ := amount_eq_ok.mp effect.readPositionFees
  obtain ⟨-, -, rfl⟩ := amount_eq_ok.mp effect.readPositionCosts
  obtain ⟨-, -, rfl⟩ := amount_eq_ok.mp effect.readCosts
  have sameId : charged.id = position.id := by rw [effect.isCharged]
  have current := accounted.current position held
  have distinct := accounted.distinct
  rw [held, Option.toList_some, List.singleton_append, List.map_cons, List.nodup_cons] at distinct
  refine ⟨?_, by rw [effect.isRecorded]⟩
  rw [effect.isRecorded]
  constructor
  · dsimp only
    rw [lamports_toString, List.map_append, List.sum_append, accounted.total]
    rfl
  · rw [List.map_append, List.nodup_append]
    refine ⟨accounted.once, by simp, ?_⟩
    intro signature old other isOther same
    obtain ⟨record, member, rfl⟩ := List.mem_map.mp old
    simp only [List.map_cons, List.map_nil, List.mem_singleton] at isOther
    exact valid.unrecorded transaction pending record member (same.trans isOther)
  · simpa [sameId] using distinct
  · intro other isOther
    cases isOther
    constructor
    · rw [effect.isCharged]
      dsimp only
      rw [lamports_toString, receiptsOf_append, if_pos rfl, List.map_append, List.sum_append, current.fees]
      rfl
    · rw [effect.isCharged]
      dsimp only
      rw [lamports_toString, receiptsOf_append, if_pos rfl, List.map_append, List.sum_append,
        current.costs]
      rfl
  · intro completed member
    obtain ⟨isCharged, realized⟩ := accounted.completed completed member
    refine ⟨isCharged.other ?_, realized⟩
    intro same
    exact distinct.1 (List.mem_map.mpr ⟨completed, member, same.symm⟩)

/-! ### Applying it -/

/-- Applying a receipt changes neither the id nor the charges of a position. -/
structure SameCharges (before after : Position) : Prop where
  id : after.id = before.id
  fees : after.feesLamports = before.feesLamports
  costs : after.nonRefundableCostLamports = before.nonRefundableCostLamports

theorem moves_charges {kind : ActionKind} {moved : Position × Checked Unit}
    (moves : Moves charged effects kind moved) : SameCharges charged moved.1 := by
  cases moves <;> exact ⟨rfl, rfl, rfl⟩

theorem Charged.same (isCharged : Charged records position) (same : SameCharges position charged) :
    Charged records charged := by
  constructor
  · rw [same.fees, same.id]
    exact isCharged.fees
  · rw [same.costs, same.id]
    exact isCharged.costs

theorem accounted_held {held : Position} (accounted : Accounted recorded)
    (isHeld : recorded.position = some charged) (same : SameCharges charged held) :
    Accounted { recorded with position := some held } := by
  refine ⟨accounted.total, accounted.once, ?_, ?_, accounted.completed⟩
  · have distinct := accounted.distinct
    rw [isHeld] at distinct
    simpa [same.id] using distinct
  · intro other isOther
    cases isOther
    exact (accounted.current charged isHeld).same same

theorem claimProfit_eq_ok {claimed : Nat} (ok : claimProfit charged effects = .ok (claimed, profit)) :
    profit = (claimed : Int) - lamports charged.stakeRentLamports - lamports charged.inputLamports -
      lamports charged.feesLamports - lamports charged.nonRefundableCostLamports := by
  unfold claimProfit at ok
  split at ok
  · cases ok
  · simp only [bind_eq_ok, pure_eq_ok, Prod.mk.injEq] at ok
    obtain ⟨-, -, _, -, stakeRent, readRent, -, -, input, readInput, fees, readFees, costs, readCosts,
      rfl, rfl⟩ := ok
    obtain ⟨-, -, rfl⟩ := amount_eq_ok.mp readRent
    obtain ⟨-, -, rfl⟩ := amount_eq_ok.mp readInput
    obtain ⟨-, -, rfl⟩ := amount_eq_ok.mp readFees
    obtain ⟨-, -, rfl⟩ := amount_eq_ok.mp readCosts
    rfl

theorem realized_completed {claimed : Nat}
    (ok : claimProfit charged effects = .ok (claimed, profit)) :
    Realized (completedPosition charged claimed profit now) := by
  have isProfit := claimProfit_eq_ok ok
  refine ⟨toString claimed, toString profit, rfl, rfl, ?_⟩
  rw [signedValue_toString, lamports_toString]
  exact isProfit

theorem accounted_closed {completed : Position} (accounted : Accounted recorded)
    (isHeld : recorded.position = some charged) (same : SameCharges charged completed)
    (realized : Realized completed) :
    Accounted (closeCycle recorded completed profit).1 := by
  have isCharged := (accounted.current charged isHeld).same same
  have closed : ∀ books : JournalState, books.totalFeesLamports = recorded.totalFeesLamports →
      books.transactions = recorded.transactions →
      books.position = none → books.completedPositions = recorded.completedPositions ++ [completed] →
      Accounted books := by
    intro books total transactions none completedPositions
    constructor
    · rw [total, transactions]
      exact accounted.total
    · rw [transactions]
      exact accounted.once
    · have distinct := accounted.distinct
      rw [isHeld] at distinct
      rw [none, completedPositions, Option.toList_none, List.nil_append]
      refine (List.perm_append_comm.map _).nodup_iff.mp ?_
      simpa [same.id] using distinct
    · rw [none]
      intro position held
      cases held
    · rw [completedPositions, transactions]
      intro other member
      rcases List.mem_append.mp member with old | new
      · exact accounted.completed other old
      · rw [List.mem_singleton.mp new]
        exact ⟨isCharged, realized⟩
  rcases closeCycle_cases recorded completed profit with ⟨fault, thrown⟩ | ⟨loss, isClosed⟩
  · rw [thrown]
    exact (accounted_held accounted isHeld same).same rfl rfl rfl rfl
  · rw [isClosed]
    exact closed _ rfl rfl rfl rfl

theorem accounted_applied (accounted : Accounted recorded)
    (isHeld : recorded.position = some charged)
    (isApplied : AppliedAs recorded charged transaction effects result) : Accounted result.1 := by
  rcases appliedAs_cases isApplied with ⟨moved, moves, rfl⟩ | ⟨claimed, profit, now, realizes, rfl⟩
  · exact accounted_held accounted isHeld (moves_charges moves)
  · exact accounted_closed accounted isHeld ⟨rfl, rfl, rfl⟩ (realized_completed realizes)

theorem accounted_settled (accounted : Accounted recorded) (isHeld : recorded.position = some charged)
    (settled : Settled config recorded charged transaction effects next) : Accounted next := by
  cases settled with
  | failed reason => exact accounted.same rfl rfl rfl rfl
  | stopped reason isApplied => exact (accounted_applied accounted isHeld isApplied).same rfl rfl rfl rfl
  | within isApplied inLimits => exact accounted_applied accounted isHeld isApplied

/-! ### The limits after a receipt -/

/-- A position left by a receipt has the charges of the recorded one. -/
theorem appliedAs_position {after : Position}
    (isApplied : AppliedAs recorded charged transaction effects result)
    (isAfter : result.1.position = some after) : after.feesLamports = charged.feesLamports := by
  rcases appliedAs_cases isApplied with ⟨moved, moves, rfl⟩ | ⟨claimed, profit, now, -, rfl⟩
  · cases isAfter
    exact (moves_charges moves).fees
  · rcases closeCycle_cases recorded (completedPosition charged claimed profit now) profit with
      ⟨fault, thrown⟩ | ⟨loss, closed⟩
    · rw [thrown] at isAfter
      cases isAfter
      rfl
    · rw [closed] at isAfter
      cases isAfter

theorem exceededLimit_none {fees : String} (inLimits : exceededLimit next config fees = .ok none) :
    lamports next.totalFeesLamports ≤ config.maxTotalFeesLamports ∧
      lamports fees ≤ config.networkBudgetLamports ∧
      lamports next.realizedLossLamports ≤ config.maxRealizedLossLamports := by
  unfold exceededLimit at inLimits
  obtain ⟨totalFees, readTotal, inLimits⟩ := bind_eq_ok.mp inLimits
  obtain ⟨-, -, rfl⟩ := amount_eq_ok.mp readTotal
  dsimp only at inLimits
  split at inLimits
  · obtain ⟨overBudget, isOver, inLimits⟩ := bind_eq_ok.mp inLimits
    cases isOver
    cases inLimits
  next inTotal =>
  obtain ⟨positionFees, readFees, inLimits⟩ := bind_eq_ok.mp inLimits
  obtain ⟨-, -, rfl⟩ := amount_eq_ok.mp readFees
  obtain ⟨overBudget, isOver, inLimits⟩ := bind_eq_ok.mp inLimits
  cases isOver
  split at inLimits
  · cases inLimits
  next inBudget =>
  rw [decide_eq_true_eq] at inBudget
  obtain ⟨loss, readLoss, inLimits⟩ := bind_eq_ok.mp inLimits
  obtain ⟨-, -, rfl⟩ := amount_eq_ok.mp readLoss
  split at inLimits
  · cases inLimits
  · next inLoss => exact ⟨Nat.not_lt.mp inTotal, Nat.not_lt.mp inBudget, Nat.not_lt.mp inLoss⟩

theorem limited_settled (identified : setting.configFingerprint config =
      recorded.configFingerprint)
    (settled : Settled config recorded charged transaction effects next) : Limited setting next := by
  cases settled with
  | failed reason => exact limited_halted
  | stopped reason isApplied => exact limited_halted
  | within isApplied inLimits =>
    intro _
    obtain ⟨total, budget, loss⟩ := exceededLimit_none inLimits
    refine ⟨config, identified.trans (appliedAs_sameBooks isApplied).1.configFingerprint.symm, total,
      fun after isAfter => ?_, loss⟩
    rw [appliedAs_position isApplied isAfter]
    exact budget

end Receipts

/-! ## Every save -/

section Saves

variable {uuids : UuidStream} {world : TracedWorld}

/-- The durable journal is accounted for and limited. -/
def BooksHold (setting : JitoSetting) (world : TracedWorld) : Prop :=
  ∀ state, world.current.journal = some state →
    validateJournalState setting.codecs state = .ok () ∧ Accounted state ∧ Limited setting state

/-- A position opened with an id never used has no receipts. -/
theorem accounted_opened {observation : Observation} {id : String} {now : Int}
    (accounted : Accounted state) (empty : state.position = none) (fresh : id ∉ journalIds state) :
    Accounted (withPending state config (entryPosition id now) (some observation) transaction) := by
  simp only [journalIds, empty, Option.toList_none, List.nil_append, List.mem_append, not_or] at fresh
  have noReceipts : receiptsOf state.transactions id = [] := by
    refine List.filter_eq_nil_iff.mpr fun record member => ?_
    rw [decide_eq_true_eq]
    intro same
    exact fresh.2 (List.mem_map.mpr ⟨record, member, same⟩)
  refine ⟨accounted.total, accounted.once, ?_, ?_, accounted.completed⟩
  · have distinct := accounted.distinct
    rw [empty] at distinct
    exact List.nodup_cons.mpr ⟨fresh.1, distinct⟩
  · intro position isHeld
    cases isHeld
    constructor
    · change lamports "0" = ((receiptsOf state.transactions id).map feeOf).sum
      rw [noReceipts, lamports_zero, List.map_nil, List.sum_nil]
    · change lamports "0" = ((receiptsOf state.transactions id).map costOf).sum
      rw [noReceipts, lamports_zero, List.map_nil, List.sum_nil]

theorem saveCause_accounted (cause : SaveCause uuids setting world next)
    (holds : BooksHold setting world) : Accounted next := by
  cases cause with
  | opens config absent =>
    refine ⟨lamports_zero, List.nodup_nil, List.nodup_nil, fun position held => ?_, fun position member => ?_⟩
    · cases held
    · cases member
  | halts reason durable loaded | unavailable durable loaded told
  | ineligible durable loaded told refused | confirms durable loaded idle told eligible
  | attempts now durable loaded pending | unsent error durable loaded pending =>
    have accounted := (holds _ durable).2.1
    exact accounted.same rfl rfl rfl rfl
  | prepares durable loaded idle cause member isAsked sameKind =>
    have accounted := (holds _ durable).2.1
    cases cause with
    | held isHeld notBuy => exact accounted.same rfl isHeld.symm rfl rfl
    | opened empty drawn fresh => exact accounted_opened accounted empty fresh
  | records durable loaded pending held receipt settled =>
    have accounted := (holds _ durable).2.1
    obtain ⟨accountedRecorded, isHeld⟩ := accounted_recorded accounted
      (validateJournalState_eq_ok.mp loaded.valid) pending held receipt
    exact accounted_settled accountedRecorded isHeld settled

theorem saveCause_limited (cause : SaveCause uuids setting world next)
    (holds : BooksHold setting world) : Limited setting next := by
  cases cause with
  | opens config absent =>
    intro _
    refine ⟨config, rfl, lamports_zero ▸ Nat.zero_le _, fun position held => ?_, lamports_zero ▸ Nat.zero_le _⟩
    cases held
  | halts reason durable loaded => exact limited_halted
  | unavailable durable loaded told | ineligible durable loaded told refused
  | confirms durable loaded idle told eligible | attempts now durable loaded pending
  | unsent error durable loaded pending =>
    have limited := (holds _ durable).2.2
    exact limited.same rfl rfl rfl rfl rfl
  | prepares durable loaded idle cause member isAsked sameKind =>
    have limited := (holds _ durable).2.2
    cases cause with
    | held isHeld notBuy => exact limited.same rfl rfl rfl isHeld.symm rfl
    | opened empty drawn fresh =>
      intro running
      obtain ⟨config, identified, within⟩ := limited running
      refine ⟨config, identified, within.total, fun position isHeld => ?_, within.loss⟩
      cases isHeld
      change lamports "0" ≤ config.networkBudgetLamports
      exact lamports_zero ▸ Nat.zero_le _
  | records durable loaded pending held receipt settled =>
    obtain ⟨_, _, _, _, _, effect⟩ := recordReceipt_eq_ok receipt
    refine limited_settled ?_ settled
    rw [effect.isRecorded]
    exact loaded.fingerprint.symm

theorem performTraced_books {choice : JitoChoice} {request : JitoCall}
    (cause : CallCause uuids setting request world) (holds : BooksHold setting world) :
    BooksHold setting (performTraced uuids choice request world).2 := by
  cases request with
  | save next =>
    obtain ⟨state, rfl, valid, saves⟩ := cause
    change BooksHold setting ⟨(storeJournal choice.saved (saved state) world.current).2, _⟩
    rcases storeJournal_cases choice.saved (saved state) world.current with same | stored
    · rw [same]
      exact holds
    · rw [stored]
      intro after isAfter
      cases isAfter
      exact ⟨valid, (saveCause_accounted saves holds).same rfl rfl rfl rfl,
        (saveCause_limited saves holds).same rfl rfl rfl rfl rfl⟩
  | randomUUID | load | stopped | now | observe config | prepare request | broadcast transaction
  | poll transaction | canClaim position => exact holds

end Saves

/-! ## Every run -/

/-- All configurations with the fingerprint of the journal have the limits of this one. -/
def Identifies (setting : JitoSetting) (config : JitoBotConfig) (state : JournalState) : Prop :=
  ∀ other, setting.configFingerprint other = state.configFingerprint →
    other.maxTotalFeesLamports = config.maxTotalFeesLamports ∧
    other.networkBudgetLamports = config.networkBudgetLamports ∧
    other.maxRealizedLossLamports = config.maxRealizedLossLamports

/-- Every journal a run has saved is valid and exact, and in its limits while it runs. -/
def BooksExact (setting : JitoSetting) (world : TracedWorld) : Prop :=
  ∀ state, world.current.journal = some state →
    validateJournalState setting.codecs state = .ok () ∧ Accounted state ∧
    (state.status = .running → ∀ config, Identifies setting config state → WithinLimits config state)

/-- In every run the saved journal is valid, its totals are the sums of its entries, and while it runs it
is within the limits of the configuration its fingerprint stands for. -/
theorem jito_booksExact (uuids : UuidStream) (setting : JitoSetting)
    (events : List (Event (tracedEnvironment uuids) JitoBotConfig)) :
    BooksExact setting (tracedRun uuids setting events).world := by
  have holds : BooksHold setting (tracedRun uuids setting events).world :=
    tracedRun_invariant (fun _ stored => nomatch stored) (fun _ _ _ => performTraced_books) events
  intro state stored
  obtain ⟨valid, accounted, limited⟩ := holds state stored
  refine ⟨valid, accounted, fun running config identifies => ?_⟩
  obtain ⟨other, identified, within⟩ := limited running
  obtain ⟨total, budget, loss⟩ := identifies other identified
  exact ⟨total ▸ within.total, fun position held => budget ▸ within.cycle position held,
    loss ▸ within.loss⟩

/-- A digest that tells the limits of the sample configuration from all others. -/
def tellingSetting : JitoSetting where
  codecs := sampleSetting.codecs
  configFingerprint := fun config =>
    String.ofList (List.replicate 64 (if config.maxTotalFeesLamports = sampleConfig.maxTotalFeesLamports ∧
      config.networkBudgetLamports = sampleConfig.networkBudgetLamports ∧
      config.maxRealizedLossLamports = sampleConfig.maxRealizedLossLamports then 'a' else 'b'))

def sampleTick : List (Event (tracedEnvironment sampleUuids) JitoBotConfig) :=
  .launch () sampleConfig :: List.replicate 6 (.advance () (sampleChoice "first" 100000 1))

theorem jito_booksExact_sample :
    ∃ state, (tracedRun sampleUuids tellingSetting sampleTick).world.current.journal = some state ∧
      state.status = .running ∧ Identifies tellingSetting sampleConfig state ∧ WithinLimits sampleConfig state := by
  have journal : (tracedRun sampleUuids tellingSetting sampleTick).world.current.journal.map
      (fun state => (state.status, state.configFingerprint)) =
      some (.running, String.ofList (List.replicate 64 'a')) := by decide +kernel
  obtain ⟨state, stored, isState⟩ := Option.map_eq_some_iff.mp journal
  obtain ⟨running, fingerprint⟩ := Prod.mk.inj isState
  have identifies : Identifies tellingSetting sampleConfig state := by
    intro other same
    by_contra different
    rw [fingerprint, tellingSetting] at same
    simp only [if_neg different] at same
    exact absurd same (by decide)
  exact ⟨state, stored, running, identifies,
    (jito_booksExact sampleUuids tellingSetting sampleTick state stored).2.2 running _ identifies⟩

end SolTokenListener.Guarantees.JitoAccounting
