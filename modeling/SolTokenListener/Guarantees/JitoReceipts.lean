import Mathlib.Data.List.ReduceOption
import SolTokenListener.Guarantees.JitoAccounting

/-!
# When the JitoSOL bot keeps a receipt

Source: src/jitosol/engine.ts:168-245, src/jitosol/journal.ts:9-64. A finalized or failed receipt of a
valid running journal is kept when the tick saves a journal that records it or is halted. The save
validates the whole journal, so a sum or a list that outgrows the schema makes the tick reject with
the journal unchanged. The receipts that are kept are characterized exactly; the file store is taken
to succeed.
-/

namespace SolTokenListener.Guarantees.JitoReceipts

open Lib.Checked Lib.AsyncProgram
open Lib.Interleaving
open Source.Chain Source.JitoConfig Source.JitoJournal
open Source.JitoEngine
open Guarantees.JitoRuns
open Guarantees.JitoAmounts Guarantees.JitoValidity
open Guarantees.JitoSteps Guarantees.JitoAccounting

variable {profit later : Int} {claimed : Nat} {reason error : String} {outcome : Checked Unit}

/-! ## Receipts -/

/-- A receipt for the pending transaction of a journal, at the time it is recorded. -/
structure Receipt where
  state : JournalState
  position : Position
  transaction : PendingTransaction
  outcome : ReceiptOutcome
  effects : TransactionEffects
  now : Int

namespace Receipt

def record (receipt : Receipt) : TransactionRecord :=
  ⟨receipt.position.id, receipt.transaction, receipt.outcome, receipt.effects, receipt.now⟩

def charged (receipt : Receipt) : Position :=
  { receipt.position with
    feesLamports :=
      toString (lamports receipt.position.feesLamports + lamports receipt.effects.feeLamports)
    nonRefundableCostLamports :=
      toString (lamports receipt.position.nonRefundableCostLamports + costOf receipt.record) }

def recorded (receipt : Receipt) : JournalState :=
  { receipt.state with
    totalFeesLamports :=
      toString (lamports receipt.state.totalFeesLamports + lamports receipt.effects.feeLamports)
    position := some receipt.charged
    transactions := receipt.state.transactions ++ [receipt.record]
    pending := none }

end Receipt

/-- Every amount of the effects is a u64 decimal text. -/
structure AreAmounts (effects : TransactionEffects) : Prop where
  fee : isAmount effects.feeLamports = true
  input : effects.actualInputLamports.all isAmount = true
  received : effects.actualJitoReceivedUnits.all isAmount = true
  spent : effects.actualJitoSpentUnits.all isAmount = true
  claimed : effects.actualClaimedLamports.all isAmount = true
  rent : effects.refundableRentLamports.all isAmount = true
  costs : effects.nonRefundableCostLamports.all isAmount = true

/-- The receipt answers the pending transaction of a valid running journal. -/
structure Due (codecs : JournalCodecs) (receipt : Receipt) : Prop where
  valid : validateJournalState codecs receipt.state = .ok ()
  running : receipt.state.status = .running
  pending : receipt.state.pending = some receipt.transaction
  held : receipt.state.position = some receipt.position
  amounts : AreAmounts receipt.effects

/-! ## The condition -/

/-- The receipt and its charges fit in the journal. -/
structure Chargeable (receipt : Receipt) : Prop where
  sequence : receipt.state.sequence + 1 ≤ MAX_SAFE_INTEGER
  count : receipt.state.transactions.length + 1 ≤ 1000
  address : receipt.effects.stakeAddress ≠ some ""
  total : lamports receipt.state.totalFeesLamports + lamports receipt.effects.feeLamports ≤ U64_MAX
  fees : lamports receipt.position.feesLamports + lamports receipt.effects.feeLamports ≤ U64_MAX
  costs : lamports receipt.position.nonRefundableCostLamports + costOf receipt.record ≤ U64_MAX
  clock : isInteger receipt.now = true

/-- A cycle with this profit, completed at this time, fits in the journal. -/
structure Closable (state : JournalState) (profit later : Int) : Prop where
  count : state.completedPositions.length + 1 ≤ 100
  clock : isInteger later = true
  loss : lamports state.realizedLossLamports + lossOf profit ≤ U64_MAX
  profit : FitsSigned (signedValue state.realizedProfitLamports + profit)

/-- The receipt is charged, and when it closes the cycle the completed position fits too. -/
structure Recordable (receipt : Receipt) (later : Int) : Prop where
  chargeable : Chargeable receipt
  closable : receipt.outcome = .finalized → receipt.transaction.kind = .claim →
    ∀ claimed profit, claimProfit receipt.charged receipt.effects = .ok (claimed, profit) →
      Closable receipt.state profit later

/-! ## Reading a due receipt -/

variable {codecs : JournalCodecs} {receipt : Receipt} {effects : TransactionEffects}

section Reading

theorem Due.isValid (due : Due codecs receipt) : Valid codecs receipt.state :=
  validateJournalState_eq_ok.mp due.valid

theorem Due.fields (due : Due codecs receipt) : SchemaFields codecs receipt.state :=
  isSchemaJournal_iff.mp due.isValid.schema

/-- A position the schema accepts up to what it is charged with. -/
def OtherFields (position : Position) : Prop :=
  isSchemaPosition { position with feesLamports := "0", nonRefundableCostLamports := "0" } = true

theorem isAmount_zero : isAmount "0" = true := by decide

theorem isSchemaPosition_iff {position : Position} : isSchemaPosition position = true ↔
    OtherFields position ∧ isAmount position.feesLamports = true ∧
      isAmount position.nonRefundableCostLamports = true := by
  simp only [OtherFields, isSchemaPosition, decide_eq_true_eq, isAmount_zero, true_and]
  constructor
  · rintro ⟨id, opened, input, received, address, stakeRent, tokenRent, fees, costs, rest⟩
    exact ⟨⟨id, opened, input, received, address, stakeRent, tokenRent, rest⟩, fees, costs⟩
  · rintro ⟨⟨id, opened, input, received, address, stakeRent, tokenRent, rest⟩, fees, costs⟩
    exact ⟨id, opened, input, received, address, stakeRent, tokenRent, fees, costs, rest⟩

theorem Due.position (due : Due codecs receipt) : isSchemaPosition receipt.position = true :=
  due.fields.position receipt.position due.held

theorem Due.otherFields (due : Due codecs receipt) : OtherFields receipt.charged :=
  (isSchemaPosition_iff.mp due.position).1

theorem isAmount_getD {text : Option String} (amounts : text.all isAmount = true) :
    isAmount (text.getD "0") = true := by
  cases text with
  | none => exact isAmount_zero
  | some text => exact amounts

theorem readAll_ok {values : List String} (amounts : ∀ value ∈ values, isAmount value = true) :
    (forIn values PUnit.unit fun value _ => do
      let _ ← amount value
      pure (ForInStep.yield PUnit.unit) : Checked PUnit) = .ok PUnit.unit := by
  induction values with
  | nil => rfl
  | cons value rest ih =>
    obtain ⟨first, others⟩ := List.forall_mem_cons.mp amounts
    rw [List.forIn_cons, amount_of_isAmount first]
    exact ih others

theorem validateEffects_ok (amounts : AreAmounts effects) :
    validateEffects effects = .ok () := by
  have read : ∀ value ∈ [effects.actualInputLamports, effects.actualJitoReceivedUnits,
      effects.actualJitoSpentUnits, effects.actualClaimedLamports, effects.refundableRentLamports,
      effects.nonRefundableCostLamports].reduceOption, isAmount value = true := by
    intro value member
    rw [List.reduceOption_mem_iff] at member
    simp only [List.mem_cons, List.not_mem_nil, or_false] at member
    have all := fun (text : Option String) (isAmounts : text.all isAmount = true)
      (same : some value = text) => (Option.all_eq_true _ _).mp isAmounts value same.symm
    rcases member with same | same | same | same | same | same
    · exact all _ amounts.input same
    · exact all _ amounts.received same
    · exact all _ amounts.spent same
    · exact all _ amounts.claimed same
    · exact all _ amounts.rent same
    · exact all _ amounts.costs same
  unfold validateEffects
  rw [amount_of_isAmount amounts.fee, readAll_ok read]
  rfl

theorem Due.recordReceipt (due : Due codecs receipt) :
    recordReceipt receipt.state receipt.position receipt.transaction receipt.outcome receipt.effects
      receipt.now = .ok (receipt.recorded, receipt.charged) := by
  obtain ⟨-, fees, costs⟩ := isSchemaPosition_iff.mp due.position
  simp only [Source.JitoEngine.recordReceipt, amount_of_isAmount due.fields.totalFees,
    amount_of_isAmount due.amounts.fee, amount_of_isAmount fees, amount_of_isAmount costs,
    amount_of_isAmount (isAmount_getD due.amounts.costs)]
  rfl

theorem Due.schemaRecord (due : Due codecs receipt) : isSchemaRecord codecs receipt.record = true ↔
    receipt.effects.stakeAddress ≠ some "" ∧ isInteger receipt.now = true := by
  have transaction := due.fields.pending receipt.transaction due.pending
  have named : receipt.position.id ≠ "" := by
    have position := due.position
    simp only [isSchemaPosition, decide_eq_true_eq] at position
    exact position.1
  have address : receipt.effects.stakeAddress.all (· ≠ "") = true ↔
      receipt.effects.stakeAddress ≠ some "" := by
    cases receipt.effects.stakeAddress <;> simp
  simp only [isSchemaRecord, isSchemaEffects, Receipt.record, decide_eq_true_eq, address]
  constructor
  · rintro ⟨-, -, ⟨-, -, -, -, isAddress, -⟩, clock⟩
    exact ⟨isAddress, clock⟩
  · rintro ⟨isAddress, clock⟩
    exact ⟨named, transaction, ⟨due.amounts.fee, due.amounts.input, due.amounts.received,
      due.amounts.spent, isAddress, due.amounts.claimed, due.amounts.rent, due.amounts.costs⟩, clock⟩

end Reading

/-! ## The journal a receipt leaves -/

section Journals

variable {next : JournalState} {position : Position}

/-- What every journal saved for the receipt shares. -/
structure Records (receipt : Receipt) (next : JournalState) : Prop where
  fingerprint : next.configFingerprint = receipt.state.configFingerprint
  sequence : next.sequence = receipt.state.sequence
  total : next.totalFeesLamports = receipt.recorded.totalFeesLamports
  transactions : next.transactions = receipt.recorded.transactions
  pending : next.pending = none
  confirmation : next.confirmation = none ∨ next.confirmation = receipt.state.confirmation
  reason : next.status = .halted → next.haltReason.any (· ≠ "")

theorem Records.halted (records : Records receipt next) (given : reason ≠ "") :
    Records receipt (haltedBy next reason) :=
  { records with confirmation := .inl rfl, reason := fun _ => by simpa [haltedBy] using given }

/-- A valid journal with the receipt has room for its charges. -/
theorem Records.chargeable (records : Records receipt next) (due : Due codecs receipt)
    (valid : Valid codecs (saved next)) (isPosition : isSchemaPosition position = true)
    (charges : SameCharges receipt.charged position) : Chargeable receipt := by
  have fields := isSchemaJournal_iff.mp valid.schema
  obtain ⟨-, fees, costs⟩ := isSchemaPosition_iff.mp isPosition
  have member : receipt.record ∈ (saved next).transactions := by
    change receipt.record ∈ next.transactions
    rw [records.transactions]
    exact List.mem_append_right _ List.mem_cons_self
  obtain ⟨address, clock⟩ := due.schemaRecord.mp (fields.transactions _ member)
  have sequence : isInteger (next.sequence + 1) = true := fields.sequence
  have count : next.transactions.length ≤ 1000 := fields.transactionCount
  have total : isAmount next.totalFeesLamports = true := fields.totalFees
  rw [records.sequence] at sequence
  rw [records.transactions] at count
  rw [records.total] at total
  rw [charges.fees] at fees
  rw [charges.costs] at costs
  simp only [isInteger, decide_eq_true_eq] at sequence
  exact ⟨sequence.2, by simpa [Receipt.recorded] using count, address, isAmount_toString.mp total,
    isAmount_toString.mp fees, isAmount_toString.mp costs, clock⟩

/-- With room for the charges, only the position and the realized totals remain to be valid. -/
theorem Records.valid (records : Records receipt next) (due : Due codecs receipt)
    (chargeable : Chargeable receipt)
    (cycleCount : isInteger next.completedCycles = true)
    (isProfit : isSigned next.realizedProfitLamports = true)
    (isLoss : isAmount next.realizedLossLamports = true)
    (positions : ∀ position ∈ next.position.toList ++ next.completedPositions,
      isSchemaPosition position = true)
    (completedCount : next.completedPositions.length ≤ 100)
    (cycles : next.completedCycles = next.completedPositions.length)
    (lifecycle : ∀ position, next.position = some position → position.stage ≠ .complete ∧
      (next.status = .running → position.stage ≠ .buyPending))
    (completed : ∀ position ∈ next.completedPositions,
      position.stage = .complete ∧ HasRealized position)
    (profit : signedValue next.realizedProfitLamports = (next.completedPositions.map profitOf).sum)
    (loss : (lamports next.realizedLossLamports : Int) =
      (next.completedPositions.map fun position => lossOf (profitOf position)).sum) :
    Valid codecs (saved next) := by
  have sequence : isInteger (next.sequence + 1) = true := by
    have before := due.fields.sequence
    rw [records.sequence]
    simp only [isInteger, decide_eq_true_eq] at before ⊢
    exact ⟨by omega, chargeable.sequence⟩
  have transactions : ∀ record ∈ next.transactions, isSchemaRecord codecs record = true := by
    rw [records.transactions]
    intro record member
    rcases List.mem_append.mp member with old | new
    · exact due.fields.transactions record old
    · rw [List.mem_singleton.mp new]
      exact due.schemaRecord.mpr ⟨chargeable.address, chargeable.clock⟩
  have schema : SchemaFields codecs (saved next) := by
    constructor
    · change isFingerprint next.configFingerprint = true
      rw [records.fingerprint]
      exact due.fields.fingerprint
    · exact sequence
    · exact cycleCount
    · change isAmount next.totalFeesLamports = true
      rw [records.total]
      exact isAmount_toString.mpr chargeable.total
    · exact isProfit
    · exact isLoss
    · change ∀ confirmation, next.confirmation = some confirmation → _
      rcases records.confirmation with none | same
      · rw [none]
        intro confirmation absent
        cases absent
      · rw [same]
        exact due.fields.confirmation
    · change ∀ position, next.position = some position → _
      intro position held
      exact positions position (by rw [held]; exact List.mem_cons_self)
    · change ∀ pending, next.pending = some pending → _
      rw [records.pending]
      intro pending absent
      cases absent
    · exact transactions
    · change next.transactions.length ≤ 1000
      simp only [records.transactions, Receipt.recorded, List.length_append, List.length_singleton]
      exact chargeable.count
    · intro position member
      exact positions position (List.mem_append_right _ member)
    · exact completedCount
  refine ⟨isSchemaJournal_iff.mpr schema, cycles, ?_, records.reason, fun position held => (lifecycle position held).1,
    fun position member => (completed position member).1, ?_, ?_,
    fun position member => (completed position member).2, profit, loss, ?_⟩
  · change next.pending.isSome → _
    rw [records.pending]
    intro absent
    cases absent
  · change ∀ pending, next.pending = some pending → _
    rw [records.pending]
    intro pending absent
    cases absent
  · change lamports next.totalFeesLamports = (next.transactions.map feeOf).sum
    rw [records.total, records.transactions]
    change lamports (toString _) = ((receipt.state.transactions ++ [receipt.record]).map feeOf).sum
    rw [lamports_toString, List.map_append, List.sum_append, due.isValid.fees]
    rfl
  · intro running position held stage
    exact absurd stage ((lifecycle position held).2 running)

/-- The journal still holds the position, charged with the receipt. -/
structure Holds (receipt : Receipt) (next : JournalState) (position : Position) : Prop
    extends Records receipt next where
  held : next.position = some position
  charges : SameCharges receipt.charged position
  others : OtherFields position
  incomplete : position.stage ≠ .complete
  cycles : next.completedCycles = receipt.state.completedCycles
  profit : next.realizedProfitLamports = receipt.state.realizedProfitLamports
  loss : next.realizedLossLamports = receipt.state.realizedLossLamports
  completed : next.completedPositions = receipt.state.completedPositions

theorem Holds.valid_iff (holds : Holds receipt next position) (due : Due codecs receipt)
    (bought : next.status = .running → position.stage ≠ .buyPending) :
    Valid codecs (saved next) ↔ Chargeable receipt := by
  constructor
  · intro valid
    have isPosition := (isSchemaJournal_iff.mp valid.schema).position position holds.held
    exact holds.toRecords.chargeable due valid isPosition holds.charges
  · intro chargeable
    have isPosition : isSchemaPosition position = true := by
      refine isSchemaPosition_iff.mpr ⟨holds.others, ?_, ?_⟩
      · rw [holds.charges.fees]
        exact isAmount_toString.mpr chargeable.fees
      · rw [holds.charges.costs]
        exact isAmount_toString.mpr chargeable.costs
    refine holds.toRecords.valid due chargeable ?_ ?_ ?_ ?_ ?_ ?_ ?_ ?_ ?_ ?_
    · rw [holds.cycles]
      exact due.fields.cycles
    · rw [holds.profit]
      exact due.fields.profit
    · rw [holds.loss]
      exact due.fields.loss
    · rw [holds.held, holds.completed]
      exact List.forall_mem_cons.mpr ⟨isPosition, due.fields.completed⟩
    · rw [holds.completed]
      exact due.fields.completedCount
    · rw [holds.cycles, holds.completed]
      exact due.isValid.cycles
    · rw [holds.held]
      intro other same
      cases same
      exact ⟨holds.incomplete, bought⟩
    · rw [holds.completed]
      exact fun other member => ⟨due.isValid.completed other member, due.isValid.realized other member⟩
    · rw [holds.profit, holds.completed]
      exact due.isValid.profit
    · rw [holds.loss, holds.completed]
      exact due.isValid.loss

/-! ### A closed cycle -/

/-- The text of the realized loss after a cycle with this profit. -/
def lossAfter (state : JournalState) (profit : Int) : String :=
  if profit < 0 then toString ((lamports state.realizedLossLamports : Int) - profit)
  else state.realizedLossLamports

theorem lossAfter_eq (state : JournalState) (negative : profit < 0) :
    lossAfter state profit = toString (lamports state.realizedLossLamports + (-profit).toNat) := by
  have same : (lamports state.realizedLossLamports : Int) - profit =
      ((lamports state.realizedLossLamports + (-profit).toNat : Nat) : Int) := by omega
  rw [lossAfter, if_pos negative, same]
  rfl

theorem lamports_lossAfter (state : JournalState) (profit : Int) :
    (lamports (lossAfter state profit) : Int) = lamports state.realizedLossLamports + lossOf profit := by
  by_cases negative : profit < 0
  · rw [lossAfter_eq state negative, lamports_toString, lossOf, if_pos negative]
    omega
  · rw [lossAfter, if_neg negative, lossOf, if_neg negative, add_zero]

theorem isAmount_lossAfter {state : JournalState}
    (isLoss : isAmount state.realizedLossLamports = true) :
    isAmount (lossAfter state profit) = true ↔
      lamports state.realizedLossLamports + lossOf profit ≤ U64_MAX := by
  by_cases negative : profit < 0
  · rw [lossAfter_eq state negative, isAmount_toString, lossOf, if_pos negative]
    omega
  · have inRange := (isAmount_iff.mp isLoss).2
    rw [lossAfter, if_neg negative, lossOf, if_neg negative]
    exact ⟨fun _ => by omega, fun _ => isLoss⟩

/-- The journal has closed the cycle of the position. -/
structure Closes (receipt : Receipt) (next : JournalState) (completed : Position) (profit : Int) :
    Prop extends Records receipt next where
  empty : next.position = none
  cycles : next.completedCycles = receipt.state.completedCycles + 1
  profitText : next.realizedProfitLamports =
    toString (signedValue receipt.state.realizedProfitLamports + profit)
  lossText : next.realizedLossLamports = lossAfter receipt.state profit
  isCompleted : next.completedPositions = receipt.state.completedPositions ++ [completed]

theorem claimProfit_bounds {charged : Position}
    (ok : claimProfit charged effects = .ok (claimed, profit)) :
    claimed ≤ U64_MAX ∧ FitsSigned profit := by
  unfold claimProfit at ok
  split at ok
  · cases ok
  · simp only [bind_eq_ok, pure_eq_ok, Prod.mk.injEq] at ok
    obtain ⟨-, -, _, readClaimed, stakeRent, readRent, -, -, input, readInput, fees, readFees, costs,
      readCosts, rfl, rfl⟩ := ok
    obtain ⟨-, claimedRange, rfl⟩ := amount_eq_ok.mp readClaimed
    obtain ⟨-, rentRange, rfl⟩ := amount_eq_ok.mp readRent
    obtain ⟨-, inputRange, rfl⟩ := amount_eq_ok.mp readInput
    obtain ⟨-, feesRange, rfl⟩ := amount_eq_ok.mp readFees
    obtain ⟨-, costsRange, rfl⟩ := amount_eq_ok.mp readCosts
    refine ⟨claimedRange, ?_⟩
    unfold U64_MAX at claimedRange rentRange inputRange feesRange costsRange
    unfold FitsSigned
    omega

theorem completedPosition_schema (due : Due codecs receipt)
    (ok : claimProfit receipt.charged receipt.effects = .ok (claimed, profit)) :
    isSchemaPosition (completedPosition receipt.charged claimed profit later) = true ↔
      isAmount receipt.charged.feesLamports = true ∧
        isAmount receipt.charged.nonRefundableCostLamports = true ∧ isInteger later = true := by
  obtain ⟨claimedRange, fits⟩ := claimProfit_bounds ok
  have others := due.otherFields
  simp only [OtherFields, isSchemaPosition, decide_eq_true_eq] at others
  simp only [isSchemaPosition, decide_eq_true_eq]
  simp only [completedPosition, Option.all_some, isAmount_toString, isSigned_toString]
  constructor
  · rintro ⟨-, -, -, -, -, -, -, fees, costs, -, -, clock⟩
    exact ⟨fees, costs, clock⟩
  · rintro ⟨fees, costs, clock⟩
    obtain ⟨id, opened, input, received, address, stakeRent, tokenRent, -⟩ := others
    exact ⟨id, opened, input, received, address, stakeRent, tokenRent, fees, costs, claimedRange, fits,
      clock⟩

theorem Closes.valid_iff
    (closes : Closes receipt next (completedPosition receipt.charged claimed profit later) profit)
    (due : Due codecs receipt)
    (ok : claimProfit receipt.charged receipt.effects = .ok (claimed, profit)) :
    Valid codecs (saved next) ↔ Chargeable receipt ∧ Closable receipt.state profit later := by
  have profitOfCompleted : profitOf (completedPosition receipt.charged claimed profit later) = profit :=
    signedValue_toString profit
  constructor
  · intro valid
    have fields := isSchemaJournal_iff.mp valid.schema
    have member : completedPosition receipt.charged claimed profit later ∈ next.completedPositions := by
      rw [closes.isCompleted]
      exact List.mem_append_right _ List.mem_cons_self
    have isPosition := fields.completed _ member
    obtain ⟨-, -, clock⟩ := (completedPosition_schema due ok).mp isPosition
    have count : next.completedPositions.length ≤ 100 := fields.completedCount
    have isLoss : isAmount next.realizedLossLamports = true := fields.loss
    have isProfit : isSigned next.realizedProfitLamports = true := fields.profit
    rw [closes.isCompleted] at count
    rw [closes.lossText] at isLoss
    rw [closes.profitText] at isProfit
    exact ⟨closes.toRecords.chargeable due valid isPosition ⟨rfl, rfl, rfl⟩,
      by simpa using count, clock, (isAmount_lossAfter due.fields.loss).mp isLoss,
      isSigned_toString.mp isProfit⟩
  · rintro ⟨chargeable, closable⟩
    have isPosition := (completedPosition_schema due ok).mpr
      ⟨isAmount_toString.mpr chargeable.fees, isAmount_toString.mpr chargeable.costs, closable.clock⟩
    have counted : next.completedCycles = next.completedPositions.length := by
      rw [closes.cycles, closes.isCompleted, due.isValid.cycles]
      simp
    have few : next.completedPositions.length ≤ 100 := by
      rw [closes.isCompleted]
      simpa using closable.count
    refine closes.toRecords.valid due chargeable ?_ ?_ ?_ ?_ few counted ?_ ?_ ?_ ?_
    · rw [counted, isInteger, decide_eq_true_eq]
      unfold MAX_SAFE_INTEGER
      omega
    · rw [closes.profitText]
      exact isSigned_toString.mpr closable.profit
    · rw [closes.lossText]
      exact (isAmount_lossAfter due.fields.loss).mpr closable.loss
    · rw [closes.empty, closes.isCompleted, Option.toList_none, List.nil_append]
      intro position member
      rcases List.mem_append.mp member with old | new
      · exact due.fields.completed position old
      · rw [List.mem_singleton.mp new]
        exact isPosition
    · rw [closes.empty]
      intro position held
      cases held
    · rw [closes.isCompleted]
      intro position member
      rcases List.mem_append.mp member with old | new
      · exact ⟨due.isValid.completed position old, due.isValid.realized position old⟩
      · rw [List.mem_singleton.mp new]
        exact ⟨rfl, rfl, rfl, rfl⟩
    · rw [closes.profitText, closes.isCompleted, signedValue_toString, due.isValid.profit,
        List.map_append, List.sum_append, List.map_singleton, List.sum_singleton, profitOfCompleted]
    · rw [closes.lossText, closes.isCompleted, lamports_lossAfter, due.isValid.loss, List.map_append,
        List.sum_append, List.map_singleton, List.sum_singleton, profitOfCompleted]

end Journals

/-! ## Applying the receipt -/

section Applying

variable {charged : Position} {transaction : PendingTransaction}

/-- What applying a receipt does to a position that stays in the journal. -/
structure Moved (charged position : Position) (outcome : Checked Unit) : Prop where
  charges : SameCharges charged position
  others : OtherFields position
  incomplete : position.stage ≠ .complete
  bought : outcome = .ok () → position.stage ≠ .buyPending

theorem moves_moved {kind : ActionKind} {outcome : Position × Checked Unit}
    (moves : Moves charged effects kind outcome) (others : OtherFields charged)
    (incomplete : charged.stage ≠ .complete) (amounts : AreAmounts effects) :
    Moved charged outcome.1 outcome.2 := by
  have charges := moves_charges moves
  have schema := others
  simp only [OtherFields, isSchemaPosition, decide_eq_true_eq] at schema
  obtain ⟨id, opened, input, received, address, stakeRent, tokenRent, rest⟩ := schema
  have credited : ∀ {units : Nat} {stage : PositionStage},
      amount (effects.actualJitoReceivedUnits.getD "0") = .ok units → OtherFields { charged with
        actualJitoReceivedUnits := toString units
        tokenAccountRentLamports := effects.refundableRentLamports.getD "0"
        stage := stage } := by
    intro units stage read
    obtain ⟨-, inRange, rfl⟩ := amount_eq_ok.mp read
    simp only [OtherFields, isSchemaPosition, decide_eq_true_eq]
    exact ⟨id, opened, input, isAmount_toString.mpr inRange, address, stakeRent, isAmount_getD amounts.rent, rest⟩
  cases moves with
  | refused fault => exact ⟨charges, others, incomplete, nofun⟩
  | credited read fault => exact ⟨charges, credited read, incomplete, nofun⟩
  | purchased read => exact ⟨charges, credited read, nofun, fun _ => nofun⟩
  | withdrawn isAddress isRent =>
    refine ⟨charges, ?_, nofun, fun _ => nofun⟩
    have rentAmount := amounts.rent
    rw [isRent] at rentAmount
    simp only [OtherFields, isSchemaPosition, decide_eq_true_eq]
    exact ⟨id, opened, input, received, by simpa using isAddress, rentAmount, tokenRent, rest⟩
  | deactivated => exact ⟨charges, others, nofun, fun _ => nofun⟩

/-- The journal with the position as the receipt leaves it. -/
def heldAs (receipt : Receipt) (applied : Position × Checked Unit) : JournalState × Checked Unit :=
  ({ receipt.recorded with position := some applied.1 }, applied.2)

/-- What applying the receipt leaves; a claim is completed at `later`. -/
def appliedAt (receipt : Receipt) (later : Int) : JournalState × Checked Unit :=
  match receipt.transaction.kind with
  | .buy => heldAs receipt (applyBuy receipt.charged receipt.transaction receipt.effects)
  | .withdraw => heldAs receipt (applyWithdraw receipt.charged receipt.transaction receipt.effects)
  | .deactivate => heldAs receipt (applyDeactivate receipt.charged receipt.effects)
  | .claim =>
    match claimProfit receipt.charged receipt.effects with
    | .error fault => heldAs receipt (receipt.charged, .error fault)
    | .ok (claimed, profit) =>
      closeCycle receipt.recorded (completedPosition receipt.charged claimed profit later) profit

theorem heldAs_holds {position : Position} (due : Due codecs receipt)
    (moved : Moved receipt.charged position outcome) :
    Holds receipt (heldAs receipt (position, outcome)).1 position where
  fingerprint := rfl
  sequence := rfl
  total := rfl
  transactions := rfl
  pending := rfl
  confirmation := .inr rfl
  reason := due.isValid.reason
  held := rfl
  charges := moved.charges
  others := moved.others
  incomplete := moved.incomplete
  cycles := rfl
  profit := rfl
  loss := rfl
  completed := rfl

/-- A valid journal has a loss that can be read, so closing a cycle never throws. -/
theorem closeCycle_eq (due : Due codecs receipt) (completed : Position) (profit : Int) :
    closeCycle receipt.recorded completed profit = ({ receipt.recorded with
      position := none
      realizedProfitLamports := toString (signedValue receipt.state.realizedProfitLamports + profit)
      realizedLossLamports := lossAfter receipt.state profit
      completedCycles := receipt.state.completedCycles + 1
      completedPositions := receipt.state.completedPositions ++ [completed] }, .ok ()) := by
  have readLoss : amount receipt.recorded.realizedLossLamports =
      .ok (lamports receipt.state.realizedLossLamports) := amount_of_isAmount due.fields.loss
  unfold closeCycle lossAfter
  dsimp only
  rw [readLoss]
  split <;> rfl

theorem closeCycle_closes (due : Due codecs receipt) (claimed : Nat) (profit later : Int) :
    Closes receipt (closeCycle receipt.recorded
      (completedPosition receipt.charged claimed profit later) profit).1
      (completedPosition receipt.charged claimed profit later) profit := by
  rw [closeCycle_eq due]
  exact ⟨⟨rfl, rfl, rfl, rfl, rfl, .inr rfl, due.isValid.reason⟩, rfl, rfl, rfl, rfl, rfl⟩

end Applying

/-! ## The tick -/

section Tick

variable {uuids : UuidStream} {setting : JitoSetting} {config : JitoBotConfig}
variable {choices : Nat → JitoChoice} {world : JitoWorld} {calls : Nat} {next : JournalState}

/-- The tick saved a journal that records the receipt or is halted. -/
def Kept (receipt : Receipt) (ended : Ended (jitoEnvironment uuids) TickResult) : Prop :=
  ∃ after, ended.world.journal = some after ∧ after.sequence = receipt.state.sequence + 1 ∧
    (receipt.record ∈ after.transactions ∨ after.status = .halted)

def pollAnswer (receipt : Receipt) (error : String) : SignatureResult :=
  match receipt.outcome with
  | .finalized => .finalized receipt.effects
  | .failed => .failed receipt.effects error

/-- A tick of this configuration polls the pending transaction of the receipt. -/
structure Polls (setting : JitoSetting) (config : JitoBotConfig) (receipt : Receipt) : Prop where
  due : Due setting.codecs receipt
  enabled : config.enabled = true
  fingerprint : receipt.state.configFingerprint = setting.configFingerprint config
  input : receipt.position.inputLamports = INPUT_LAMPORTS

/-- The calls of the tick: the journal loads, the poll answers with the receipt, saves succeed. -/
structure Delivers (choices : Nat → JitoChoice) (receipt : Receipt) (error : String) : Prop where
  loads : (choices 0).loadFailure = none
  polls : (choices 1).polled = .ok (pollAnswer receipt error)
  clock : (choices 2).now = receipt.now
  stores : ∀ call, (choices call).saved = .stored

theorem not_kept_unchanged {ended : Ended (jitoEnvironment uuids) TickResult}
    (durable : ended.world.journal = some receipt.state) : ¬ Kept receipt ended := by
  rintro ⟨after, isAfter, sequence, -⟩
  rw [durable] at isAfter
  cases isAfter
  omega

theorem performJito_now (uuids : UuidStream) (choice : JitoChoice) (world : JitoWorld) :
    performJito uuids choice .now world = (.ok choice.now, world) := rfl

theorem performed_alone {request : JitoCall} {answer : request.Answer} {after : JitoWorld}
    (performed : performJito uuids (choices calls) request world = (.ok answer, after)) :
    runAlone () choices (ask request) calls world =
      (⟨.ok answer, calls + 1, after⟩ : Ended (jitoEnvironment uuids) request.Answer) := by
  have answered : (jitoEnvironment uuids).perform () (choices calls) request world =
      (.ok answer, after) := performed
  rw [ask, runAlone_call, answered]

theorem exceededLimit_reads {fees : String} (config : JitoBotConfig) (total : isAmount next.totalFeesLamports = true)
    (isFees : isAmount fees = true) (isLoss : isAmount next.realizedLossLamports = true) :
    ∃ limit, exceededLimit next config fees = .ok limit := by
  unfold exceededLimit
  rw [amount_of_isAmount total, amount_of_isAmount isFees, amount_of_isAmount isLoss]
  by_cases overTotal : config.maxTotalFeesLamports < lamports next.totalFeesLamports
  · exact ⟨some "actual finalized fees exceeded the authorized budget", by simp [overTotal]⟩
  by_cases overBudget : config.networkBudgetLamports < lamports fees
  · exact ⟨some "actual finalized fees exceeded the authorized budget",
      by simp [overTotal, overBudget]⟩
  by_cases overLoss : config.maxRealizedLossLamports < lamports next.realizedLossLamports
  · exact ⟨some "realized loss limit exceeded", by simp [overTotal, overBudget, overLoss]⟩
  · exact ⟨none, by simp [overTotal, overBudget, overLoss]⟩

theorem exceededLimit_reason {fees : String}
    (exceeded : exceededLimit next config fees = .ok (some reason)) : reason ≠ "" := by
  unfold exceededLimit at exceeded
  obtain ⟨totalFees, -, exceeded⟩ := bind_eq_ok.mp exceeded
  have settles : ∀ overBudget : Bool, (if overBudget then
      (return some "actual finalized fees exceeded the authorized budget" : Checked (Option String))
    else do
      let loss ← amount next.realizedLossLamports
      if config.maxRealizedLossLamports < loss then return some "realized loss limit exceeded"
      else return none) = .ok (some reason) → reason ≠ "" := by
    intro overBudget settled
    split at settled
    · cases settled
      decide
    · obtain ⟨loss, -, settled⟩ := bind_eq_ok.mp settled
      split at settled
      · cases settled
        decide
      · cases settled
  dsimp only at exceeded
  split at exceeded
  · exact settles true exceeded
  · obtain ⟨positionFees, -, exceeded⟩ := bind_eq_ok.mp exceeded
    exact settles _ exceeded

theorem applyEffects_alone (uuids : UuidStream) (receipt : Receipt) (choices : Nat → JitoChoice)
    (calls : Nat) (world : JitoWorld) : ∃ after,
    runAlone () choices (applyEffects receipt.recorded receipt.charged receipt.transaction
      receipt.effects) calls world =
      (⟨.ok (appliedAt receipt (choices calls).now), after, world⟩ :
        Ended (jitoEnvironment uuids) (JournalState × Checked Unit)) := by
  unfold applyEffects appliedAt
  cases receipt.transaction.kind with
  | buy | withdraw | deactivate => exact ⟨calls, rfl⟩
  | claim =>
    dsimp only
    cases claimProfit receipt.charged receipt.effects with
    | error fault => exact ⟨calls, rfl⟩
    | ok realized => exact ⟨calls + 1, rfl⟩

theorem recordable_held
    (stays : ∀ claimed profit, receipt.transaction.kind = .claim →
      claimProfit receipt.charged receipt.effects ≠ .ok (claimed, profit)) :
    Recordable receipt later ↔ Chargeable receipt :=
  ⟨Recordable.chargeable, fun chargeable => ⟨chargeable, fun _ claims claimed profit ok =>
    absurd ok (stays claimed profit claims)⟩⟩

theorem recordable_failed (failed : receipt.outcome = .failed) :
    Recordable receipt later ↔ Chargeable receipt :=
  ⟨Recordable.chargeable, fun chargeable => ⟨chargeable, fun isFinalized =>
    nomatch failed.symm.trans isFinalized⟩⟩

section Kept

variable (durable : world.journal = some receipt.state) (stores : ∀ call, (choices call).saved = .stored)

include durable stores

/-- A save that ends the tick keeps the receipt when what it saves is valid. -/
theorem kept_save {rest : JournalState → Engine TickResult} (records : Records receipt next)
    (returns : ∀ after, ∃ result, rest after = pure result) :
    Kept receipt (runAlone () choices (save setting next >>= rest) calls world :
      Ended (jitoEnvironment uuids) TickResult) ↔ Valid setting.codecs (saved next) := by
  rw [← validateJournalState_eq_ok]
  have isSave : save setting next = (do
      lift (validateJournalState setting.codecs (saved next))
      ask (.save (saved next))
      return saved next) := rfl
  cases checked : validateJournalState setting.codecs (saved next) with
  | error fault =>
    have ended : runAlone () choices (save setting next) calls world =
        (⟨.error fault, calls, world⟩ : Ended (jitoEnvironment uuids) JournalState) := by
      rw [isSave, checked]
      rfl
    rw [runAlone_bind_error ended]
    refine iff_of_false (not_kept_unchanged durable) ?_
    intro ok
    cases ok
  | ok value =>
    have performed : performJito uuids (choices calls) (.save (saved next)) world =
        (.ok (), { world with journal := some (saved next) }) := by
      change storeJournal (choices calls).saved (saved next) world = _
      rw [stores calls]
      rfl
    have ended : runAlone () choices (save setting next) calls world =
        (⟨.ok (saved next), calls + 1, { world with journal := some (saved next) }⟩ :
          Ended (jitoEnvironment uuids) JournalState) := by
      rw [isSave, checked, lift_ok_bind]
      refine (runAlone_bind_ok (performed_alone performed) _).trans rfl
    rw [runAlone_bind_ok ended]
    obtain ⟨result, isReturned⟩ := returns (saved next)
    rw [isReturned, runAlone_pure]
    refine iff_of_true ⟨saved next, rfl, ?_, .inl ?_⟩ rfl
    · change next.sequence + 1 = receipt.state.sequence + 1
      rw [records.sequence]
    · change receipt.record ∈ next.transactions
      rw [records.transactions]
      exact List.mem_append_right _ List.mem_cons_self

theorem kept_halt (records : Records receipt next) (given : reason ≠ "") :
    Kept receipt (runAlone () choices (halt setting next reason) calls world :
      Ended (jitoEnvironment uuids) TickResult) ↔
        Valid setting.codecs (saved (haltedBy next reason)) :=
  kept_save durable stores (records.halted given) fun after => ⟨result after .halted reason, rfl⟩

/-! ### After the receipt is applied -/

/-- What the tick does once the receipt is applied. -/
def conclude (setting : JitoSetting) (config : JitoBotConfig) (transaction : PendingTransaction)
    (charged : Position) (applied : JournalState) (outcome : Checked Unit) : Engine TickResult := do
  match outcome with
  | .error fault => halt setting applied ("finalized " ++ transaction.kind.text ++
      " effects mismatch: " ++ fault ++ "; receipt and actual fee recorded")
  | .ok () =>
    match ← lift (exceededLimit applied config charged.feesLamports) with
    | some reason => halt setting applied reason
    | none =>
      let saved ← save setting applied
      if saved.position.isNone ∧ config.maxCycles ≤ saved.completedCycles then
        return result saved .complete "claim finalized and durable cycle limit reached"
      else
        return result saved .progress (transaction.kind.text ++ " finalized and accounted")

/-- All journals the tick may save now are valid under one condition, which then decides it. -/
theorem conclude_kept {applied : JournalState} {fits : Prop}
    (records : Records receipt applied)
    (halted : ∀ reason, reason ≠ "" → (Valid setting.codecs (saved (haltedBy applied reason)) ↔ fits))
    (goesOn : outcome = .ok () → (Valid setting.codecs (saved applied) ↔ fits))
    (reads : fits → isAmount applied.totalFeesLamports = true ∧
      isAmount receipt.charged.feesLamports = true ∧ isAmount applied.realizedLossLamports = true) :
    Kept receipt (runAlone () choices
      (conclude setting config receipt.transaction receipt.charged applied outcome) calls world :
      Ended (jitoEnvironment uuids) TickResult) ↔ fits := by
  unfold conclude
  cases outcome with
  | error fault =>
    have given : "finalized " ++ receipt.transaction.kind.text ++ " effects mismatch: " ++ fault ++
        "; receipt and actual fee recorded" ≠ "" := by simp
    exact (kept_halt durable stores records given).trans (halted _ given)
  | ok value =>
    dsimp only
    cases limit : exceededLimit applied config receipt.charged.feesLamports with
    | error fault =>
      rw [runAlone_bind_error (runAlone_lift _)]
      refine iff_of_false (not_kept_unchanged durable) fun fits => ?_
      obtain ⟨total, fees, loss⟩ := reads fits
      obtain ⟨_, ok⟩ := exceededLimit_reads config total fees loss
      rw [limit] at ok
      cases ok
    | ok exceeded =>
      rw [lift_ok_bind]
      cases exceeded with
      | some reason =>
        have given := exceededLimit_reason limit
        exact (kept_halt durable stores records given).trans (halted reason given)
      | none =>
        refine (kept_save durable stores records fun after => ?_).trans (goesOn rfl)
        split
        · exact ⟨_, rfl⟩
        · exact ⟨_, rfl⟩

variable (due : Due setting.codecs receipt)

include due

/-- A receipt that leaves the position in the journal. -/
theorem conclude_held {position : Position}
    (moved : Moved receipt.charged position outcome) :
    Kept receipt (runAlone () choices (conclude setting config receipt.transaction receipt.charged
      (heldAs receipt (position, outcome)).1 outcome) calls world :
      Ended (jitoEnvironment uuids) TickResult) ↔ Chargeable receipt := by
  have holds := heldAs_holds due moved
  refine conclude_kept durable stores holds.toRecords ?_ ?_ ?_
  · intro reason given
    have halted : Holds receipt (haltedBy _ reason) position :=
      { holds with toRecords := holds.toRecords.halted given }
    exact halted.valid_iff due nofun
  · intro isOk
    exact holds.valid_iff due fun _ => moved.bought isOk
  · intro chargeable
    exact ⟨isAmount_toString.mpr chargeable.total, isAmount_toString.mpr chargeable.fees,
      due.fields.loss⟩

/-- A receipt that closes the cycle. -/
theorem conclude_closed
    (ok : claimProfit receipt.charged receipt.effects = .ok (claimed, profit)) :
    Kept receipt (runAlone () choices (conclude setting config receipt.transaction receipt.charged
      (closeCycle receipt.recorded (completedPosition receipt.charged claimed profit later) profit).1
      (.ok ())) calls world : Ended (jitoEnvironment uuids) TickResult) ↔
        Chargeable receipt ∧ Closable receipt.state profit later := by
  have closes := closeCycle_closes due claimed profit later
  refine conclude_kept durable stores closes.toRecords ?_ ?_ ?_
  · intro reason given
    have halted : Closes receipt (haltedBy _ reason) _ profit :=
      { closes with toRecords := closes.toRecords.halted given }
    exact halted.valid_iff due ok
  · intro _
    exact closes.valid_iff due ok
  · rintro ⟨chargeable, closable⟩
    rw [closes.total, closes.lossText]
    exact ⟨isAmount_toString.mpr chargeable.total, isAmount_toString.mpr chargeable.fees,
      (isAmount_lossAfter due.fields.loss).mpr closable.loss⟩

theorem applied_kept (isFinalized : receipt.outcome = .finalized) :
    Kept receipt (runAlone () choices (conclude setting config receipt.transaction receipt.charged
      (appliedAt receipt later).1 (appliedAt receipt later).2) calls world :
      Ended (jitoEnvironment uuids) TickResult) ↔ Recordable receipt later := by
  have incomplete : receipt.charged.stage ≠ .complete :=
    due.isValid.lifecycle receipt.position due.held
  unfold appliedAt
  cases kind : receipt.transaction.kind with
  | buy =>
    rw [recordable_held (fun _ _ claims => nomatch kind.symm.trans claims)]
    exact conclude_held durable stores due (moves_moved applyBuy_moves due.otherFields incomplete due.amounts)
  | withdraw =>
    rw [recordable_held (fun _ _ claims => nomatch kind.symm.trans claims)]
    exact conclude_held durable stores due
      (moves_moved applyWithdraw_moves due.otherFields incomplete due.amounts)
  | deactivate =>
    rw [recordable_held (fun _ _ claims => nomatch kind.symm.trans claims)]
    exact conclude_held durable stores due
      (moves_moved applyDeactivate_moves due.otherFields incomplete due.amounts)
  | claim =>
    dsimp only
    cases claims : claimProfit receipt.charged receipt.effects with
    | error fault =>
      rw [recordable_held (fun _ _ _ ok => nomatch claims.symm.trans ok)]
      exact conclude_held durable stores due
        ⟨⟨rfl, rfl, rfl⟩, due.otherFields, incomplete, nofun⟩
    | ok realized =>
      obtain ⟨claimed, profit⟩ := realized
      dsimp only
      rw [show (closeCycle receipt.recorded (completedPosition receipt.charged claimed profit later)
        profit).2 = .ok () from by rw [closeCycle_eq due], conclude_closed durable stores due claims]
      constructor
      · rintro ⟨chargeable, closable⟩
        refine ⟨chargeable, fun _ _ otherClaimed otherProfit ok => ?_⟩
        rw [claims] at ok
        cases ok
        exact closable
      · intro recordable
        exact ⟨recordable.chargeable, recordable.closable isFinalized kind claimed profit claims⟩

theorem finalized_kept (clock : (choices calls).now = receipt.now) :
    Kept receipt (runAlone () choices (finalized setting receipt.state config receipt.transaction
      receipt.outcome receipt.effects error) calls world : Ended (jitoEnvironment uuids) TickResult) ↔
        Recordable receipt (choices (calls + 1)).now := by
  have reading : runAlone () choices (ask .now) calls world =
      (⟨.ok receipt.now, calls + 1, world⟩ : Ended (jitoEnvironment uuids) Int) :=
    clock ▸ performed_alone (performJito_now uuids (choices calls) world)
  unfold finalized
  rw [validateEffects_ok due.amounts, due.held]
  dsimp only
  rw [runAlone_bind_ok reading, due.recordReceipt, lift_ok_bind]
  cases outcome : receipt.outcome with
  | failed =>
    have moved : Moved receipt.charged receipt.charged (.error error) :=
      ⟨⟨rfl, rfl, rfl⟩, due.otherFields, due.isValid.lifecycle receipt.position due.held, nofun⟩
    have given : "finalized " ++ receipt.transaction.kind.text ++ " failed: " ++ error ++
        "; actual fee recorded" ≠ "" := by simp
    have holds := heldAs_holds due moved
    have halted : Holds receipt (haltedBy _ _) receipt.charged :=
      { holds with toRecords := holds.toRecords.halted given }
    rw [recordable_failed outcome]
    exact (kept_halt durable stores holds.toRecords given).trans (halted.valid_iff due nofun)
  | finalized =>
    obtain ⟨after, applying⟩ := applyEffects_alone uuids receipt choices (calls + 1) world
    dsimp only
    rw [runAlone_bind_ok applying]
    exact applied_kept durable stores due outcome

end Kept

theorem pending_alone (polls : Polls setting config receipt)
    (delivers : Delivers choices receipt error) :
    runAlone () choices (pending setting receipt.state config) 1 world =
      (runAlone () choices (finalized setting receipt.state config receipt.transaction receipt.outcome
        receipt.effects (match receipt.outcome with | .finalized => "" | .failed => error)) 2 world :
        Ended (jitoEnvironment uuids) TickResult) := by
  have polling : performJito uuids (choices 1) (.poll receipt.transaction) world =
      (.ok (pollAnswer receipt error), world) := by
    change ((choices 1).polled, world) = _
    rw [delivers.polls]
  have attempted : runAlone () choices (attempt (ask (.poll receipt.transaction))) 1 world =
      (⟨.ok (.ok (pollAnswer receipt error)), 2, world⟩ : Ended (jitoEnvironment uuids) _) := by
    rw [runAlone_attempt, performed_alone polling]
  unfold pending
  rw [polls.due.pending]
  dsimp only
  rw [runAlone_bind_ok attempted]
  unfold pollAnswer
  cases receipt.outcome <;> rfl

theorem loadJournal_alone (polls : Polls setting config receipt)
    (delivers : Delivers choices receipt error) (durable : world.journal = some receipt.state) :
    runAlone () choices (loadJournal setting config) 0 world =
      (⟨.ok receipt.state, 1, world⟩ : Ended (jitoEnvironment uuids) JournalState) := by
  have loading : performJito uuids (choices 0) .load world = (.ok (some receipt.state), world) := by
    change (answerOf world.journal (choices 0).loadFailure, world) = _
    rw [delivers.loads, durable]
    rfl
  have input : receipt.state.position.all (·.inputLamports = INPUT_LAMPORTS) = true := by
    rw [polls.due.held]
    simpa using polls.input
  unfold loadJournal
  rw [runAlone_bind_ok (performed_alone loading)]
  dsimp only
  rw [polls.due.valid, lift_ok_bind, require, if_pos polls.fingerprint, lift_ok_bind, require,
    if_pos input, lift_ok_bind, runAlone_pure]

/-- A tick keeps the receipt it polls exactly when the journal has room for it. -/
theorem receipt_kept_iff (polls : Polls setting config receipt)
    (delivers : Delivers choices receipt error) (durable : world.journal = some receipt.state) :
    Kept receipt (runAlone () choices (tick setting config) 0 world :
      Ended (jitoEnvironment uuids) TickResult) ↔ Recordable receipt (choices 3).now := by
  unfold tick runTick
  rw [if_pos polls.enabled, runAlone_bind_ok (loadJournal_alone polls delivers durable),
    polls.due.running, polls.due.pending]
  dsimp only
  rw [pending_alone polls delivers]
  exact finalized_kept durable delivers.stores polls.due delivers.clock

end Tick

/-! ### A fee that does not fit -/

def samplePosition : Position where
  id := "u"
  stage := .purchased
  openedAtMs := 100000
  inputLamports := INPUT_LAMPORTS
  actualJitoReceivedUnits := "4000000000"
  stakeAddress := none
  stakeRentLamports := "0"
  tokenAccountRentLamports := "0"
  feesLamports := "5000"
  nonRefundableCostLamports := "0"
  actualClaimedLamports := none
  realizedProfitLamports := none
  completedAtMs := none

def sampleWithdrawal : PendingTransaction :=
  { sampleTransaction 110000 with
    kind := .withdraw
    signature := "withdrawal"
    expected := ⟨some "stake", none, some "4000000000", none, some "3100000000"⟩ }

/-- A bought position that waits for its withdrawal, with the fee of the buy on the books. -/
def sampleJournal : JournalState :=
  { freshJournal sampleSetting sampleConfig with
    sequence := 5
    totalFeesLamports := "5000"
    position := some samplePosition
    pending := some sampleWithdrawal
    transactions := [⟨"u", sampleTransaction 100000, .finalized,
      ⟨"5000", some INPUT_LAMPORTS, some "4000000000", none, none, none, none, none⟩, 105000⟩] }

def sampleReceipt (feeLamports : String) : Receipt where
  state := sampleJournal
  position := samplePosition
  transaction := sampleWithdrawal
  outcome := .finalized
  effects := ⟨feeLamports, none, none, some "4000000000", some "stake", none, some "2282880", none⟩
  now := 120000

def sampleAnswers (feeLamports : String) (_call : Nat) : JitoChoice :=
  { sampleChoice "second" 120000 2 with polled := .ok (pollAnswer (sampleReceipt feeLamports) "") }

theorem sampleJournal_valid : validateJournalState sampleSetting.codecs sampleJournal = .ok () := by
  decide +kernel

theorem sampleReceipt_polls {feeLamports : String} (isFee : isAmount feeLamports = true) :
    Polls sampleSetting sampleConfig (sampleReceipt feeLamports) where
  due := ⟨sampleJournal_valid, rfl, rfl, rfl, isFee, rfl, rfl,
    show isAmount "4000000000" = true by decide, rfl, show isAmount "2282880" = true by decide, rfl⟩
  enabled := rfl
  fingerprint := rfl
  input := rfl

theorem sampleAnswers_deliver (feeLamports : String) :
    Delivers (sampleAnswers feeLamports) (sampleReceipt feeLamports) "" :=
  ⟨rfl, rfl, rfl, fun _ => rfl⟩

theorem receipt_kept_iff_paidFee : Polls sampleSetting sampleConfig (sampleReceipt "5000") ∧
    Recordable (sampleReceipt "5000") 120000 ∧
    Kept (sampleReceipt "5000") (runAlone () (sampleAnswers "5000") (tick sampleSetting sampleConfig) 0
      ⟨some sampleJournal, [], 1⟩ : Ended (jitoEnvironment sampleUuids) TickResult) := by
  have recordable : Recordable (sampleReceipt "5000") 120000 :=
    ⟨by constructor <;> decide +kernel, fun _ claims => nomatch claims⟩
  exact ⟨sampleReceipt_polls (by decide), recordable, (receipt_kept_iff (sampleReceipt_polls (by decide))
    (sampleAnswers_deliver "5000") rfl).mpr recordable⟩

/-- The sum of the fees leaves u64, so neither the receipt nor a halt is saved. -/
theorem hugeFee_lost :
    Polls sampleSetting sampleConfig (sampleReceipt "18446744073709551615") ∧
    Delivers (sampleAnswers "18446744073709551615") (sampleReceipt "18446744073709551615") "" ∧
    ¬ Kept (sampleReceipt "18446744073709551615")
      (runAlone () (sampleAnswers "18446744073709551615") (tick sampleSetting sampleConfig) 0
        ⟨some sampleJournal, [], 1⟩ : Ended (jitoEnvironment sampleUuids) TickResult) := by
  refine ⟨sampleReceipt_polls (by decide), sampleAnswers_deliver _, ?_⟩
  have unchanged : (runAlone () (sampleAnswers "18446744073709551615") (tick sampleSetting sampleConfig)
      0 ⟨some sampleJournal, [], 1⟩ : Ended (jitoEnvironment sampleUuids) TickResult).world.journal =
        some sampleJournal := by decide +kernel
  exact not_kept_unchanged unchanged

end SolTokenListener.Guarantees.JitoReceipts
