import SolTokenListener.Guarantees.JitoAmounts

/-!
# Valid journals of the JitoSOL bot

What `validateJournalState` accepts, as one structure over the numbers the texts of a journal write.
-/

namespace SolTokenListener.Guarantees.JitoValidity

open Lib.Checked
open Source.JitoConfig Source.JitoJournal
open Guarantees.JitoAmounts

variable {codecs : JournalCodecs} {state : JournalState}

/-! ## Sums over a journal -/

def feeOf (record : TransactionRecord) : Nat := lamports record.effects.feeLamports

/-- A receipt without non-refundable costs has none. -/
def costOf (record : TransactionRecord) : Nat :=
  lamports (record.effects.nonRefundableCostLamports.getD "0")

def profitOf (position : Position) : Int :=
  (position.realizedProfitLamports.map signedValue).getD 0

def lossOf (profit : Int) : Int := if profit < 0 then -profit else 0

/-- A position with its realized accounting. -/
def HasRealized (position : Position) : Prop :=
  position.realizedProfitLamports.isSome ∧ position.actualClaimedLamports.isSome ∧
    position.completedAtMs.isSome

theorem receiptFees_eq {records : List TransactionRecord}
    (amounts : ∀ record ∈ records, isAmount record.effects.feeLamports = true) :
    receiptFees records = .ok (records.map feeOf).sum := by
  induction records with
  | nil => rfl
  | cons record rest ih =>
    obtain ⟨isAmount, others⟩ := List.forall_mem_cons.mp amounts
    simp only [receiptFees, amount_of_isAmount isAmount, ih others, List.map_cons, List.sum_cons]
    rfl

theorem completedProfit_eq {position : Position} (realized : HasRealized position) :
    completedProfit position = .ok (profitOf position) := by
  obtain ⟨hasProfit, hasClaimed, hasTime⟩ := realized
  obtain ⟨profit, isProfit⟩ := Option.isSome_iff_exists.mp hasProfit
  obtain ⟨claimed, isClaimed⟩ := Option.isSome_iff_exists.mp hasClaimed
  obtain ⟨time, isTime⟩ := Option.isSome_iff_exists.mp hasTime
  simp only [completedProfit, profitOf, isProfit, isClaimed, isTime]
  rfl

theorem hasRealized_of_ok {position : Position} {profit : Int}
    (ok : completedProfit position = .ok profit) : HasRealized position := by
  unfold completedProfit at ok
  split at ok
  · next hasProfit hasClaimed hasTime => exact ⟨by rw [hasProfit]; rfl, by rw [hasClaimed]; rfl,
      by rw [hasTime]; rfl⟩
  · cases ok

theorem realizedTotals_eq {positions : List Position} (realized : ∀ position ∈ positions, HasRealized position) :
    realizedTotals positions = .ok ((positions.map profitOf).sum,
      (positions.map fun position => lossOf (profitOf position)).sum) := by
  induction positions with
  | nil => rfl
  | cons position rest ih =>
    obtain ⟨first, others⟩ := List.forall_mem_cons.mp realized
    simp only [realizedTotals, completedProfit_eq first, ih others, List.map_cons, List.sum_cons]
    change Except.ok _ = Except.ok _
    refine congrArg Except.ok (Prod.ext (add_comm _ _) ?_)
    unfold lossOf
    split <;> ring

theorem realizedTotals_ok {positions : List Position} :
    ∀ {totals : Int × Int}, realizedTotals positions = .ok totals →
      ∀ position ∈ positions, HasRealized position := by
  induction positions with
  | nil => simp
  | cons position rest ih =>
    intro totals ok
    simp only [realizedTotals, bind_eq_ok] at ok
    obtain ⟨profit, isProfit, others, restOk, -⟩ := ok
    exact List.forall_mem_cons.mpr ⟨hasRealized_of_ok isProfit, ih restOk⟩

/-! ## Validity -/

structure Valid (codecs : JournalCodecs) (state : JournalState) : Prop where
  schema : isSchemaJournal codecs state = true
  cycles : state.completedCycles = state.completedPositions.length
  held : state.pending.isSome → state.position.isSome
  reason : state.status = .halted → state.haltReason.any (· ≠ "")
  lifecycle : ∀ position, state.position = some position → position.stage ≠ .complete
  completed : ∀ position ∈ state.completedPositions, position.stage = .complete
  unrecorded : ∀ pending, state.pending = some pending → ∀ record ∈ state.transactions,
    record.transaction.signature ≠ pending.signature
  fees : lamports state.totalFeesLamports = (state.transactions.map feeOf).sum
  realized : ∀ position ∈ state.completedPositions, HasRealized position
  profit : signedValue state.realizedProfitLamports = (state.completedPositions.map profitOf).sum
  loss : (lamports state.realizedLossLamports : Int) =
    (state.completedPositions.map fun position => lossOf (profitOf position)).sum
  buyPending : state.status = .running → ∀ position, state.position = some position →
    position.stage = .buyPending → ∃ pending, state.pending = some pending ∧ pending.kind = .buy

/-- The fields of a journal the schema accepts. -/
structure SchemaFields (codecs : JournalCodecs) (state : JournalState) : Prop where
  fingerprint : isFingerprint state.configFingerprint = true
  sequence : isInteger state.sequence = true
  cycles : isInteger state.completedCycles = true
  totalFees : isAmount state.totalFeesLamports = true
  profit : isSigned state.realizedProfitLamports = true
  loss : isAmount state.realizedLossLamports = true
  confirmation : ∀ confirmation, state.confirmation = some confirmation → confirmation.quoteId ≠ "" ∧
    isInteger confirmation.observedAtMs = true ∧ isInteger confirmation.contextSlot = true
  position : ∀ position, state.position = some position → isSchemaPosition position = true
  pending : ∀ pending, state.pending = some pending → isSchemaTransaction codecs pending = true
  transactions : ∀ record ∈ state.transactions, isSchemaRecord codecs record = true
  transactionCount : state.transactions.length ≤ 1000
  completed : ∀ position ∈ state.completedPositions, isSchemaPosition position = true
  completedCount : state.completedPositions.length ≤ 100

theorem isSchemaJournal_iff :
    isSchemaJournal codecs state = true ↔ SchemaFields codecs state := by
  simp only [isSchemaJournal, Option.all_eq_true, List.all_eq_true, decide_eq_true_eq]
  constructor
  · rintro ⟨fingerprint, sequence, cycles, totalFees, profit, loss, confirmation, position, pending,
      transactions, transactionCount, completed, completedCount⟩
    exact ⟨fingerprint, sequence, cycles, totalFees, profit, loss, confirmation, position, pending,
      transactions, transactionCount, completed, completedCount⟩
  · intro fields
    exact ⟨fields.fingerprint, fields.sequence, fields.cycles, fields.totalFees, fields.profit,
      fields.loss, fields.confirmation, fields.position, fields.pending, fields.transactions,
      fields.transactionCount, fields.completed, fields.completedCount⟩

theorem isAmount_of_record {record : TransactionRecord}
    (isRecord : isSchemaRecord codecs record = true) :
    isAmount record.effects.feeLamports = true := by
  simp only [isSchemaRecord, isSchemaEffects, decide_eq_true_eq] at isRecord
  exact isRecord.2.2.1.1

theorem journalFaults_eq_ok :
    journalFaults codecs state = .ok () ↔ Valid codecs state := by
  simp only [journalFaults, bind_eq_ok, require_eq_ok, exists_const, Prod.exists]
  constructor
  · rintro ⟨schema, cycles, held, reason, ⟨lifecycle, completed⟩, unrecorded, fees, readFees, recorded,
      readTotal, sameFees, profit, loss, totals, recordedLoss, readLoss, ⟨sameProfit, sameLoss⟩, buyPending⟩
    have fields := isSchemaJournal_iff.mp schema
    have amounts : ∀ record ∈ state.transactions, isAmount record.effects.feeLamports = true :=
      fun record member => isAmount_of_record (fields.transactions record member)
    have realized := realizedTotals_ok totals
    rw [receiptFees_eq amounts] at readFees
    rw [realizedTotals_eq realized] at totals
    obtain rfl := Except.ok.inj readFees
    obtain ⟨rfl, rfl⟩ := Prod.mk.inj (Except.ok.inj totals)
    obtain ⟨-, -, rfl⟩ := amount_eq_ok.mp readTotal
    obtain ⟨-, -, rfl⟩ := amount_eq_ok.mp readLoss
    refine ⟨schema, cycles, held, reason, by simpa [Option.all_eq_true] using lifecycle, by simpa using completed,
      by simpa [Option.all_eq_true] using unrecorded, sameFees.symm, realized, sameProfit.symm, sameLoss.symm, ?_⟩
    intro running position isHeld stage
    by_contra noBuy
    refine buyPending ⟨running, by simp [isHeld, stage], fun isBuy => noBuy ?_⟩
    obtain ⟨pending, isPending, kind⟩ := Option.map_eq_some_iff.mp isBuy
    exact ⟨pending, isPending, kind⟩
  · intro valid
    have fields := isSchemaJournal_iff.mp valid.schema
    have amounts : ∀ record ∈ state.transactions, isAmount record.effects.feeLamports = true :=
      fun record member => isAmount_of_record (fields.transactions record member)
    refine ⟨valid.schema, valid.cycles, valid.held, valid.reason,
      ⟨by simpa [Option.all_eq_true] using valid.lifecycle, by simpa using valid.completed⟩,
      by simpa [Option.all_eq_true] using valid.unrecorded, _, receiptFees_eq amounts, _,
      amount_of_isAmount fields.totalFees, valid.fees.symm, _, _, realizedTotals_eq valid.realized, _,
      amount_of_isAmount fields.loss, ⟨valid.profit.symm, valid.loss.symm⟩, ?_⟩
    rintro ⟨running, isBuyPending, noBuy⟩
    obtain ⟨position, isHeld, stage⟩ := (Option.any_eq_true _ _).mp isBuyPending
    obtain ⟨pending, isPending, kind⟩ := valid.buyPending running position isHeld (by simpa using stage)
    exact noBuy (by rw [isPending, Option.map_some, kind])

theorem validateJournalState_eq_ok :
    validateJournalState codecs state = .ok () ↔ Valid codecs state := by
  rw [← journalFaults_eq_ok]
  unfold validateJournalState
  cases journalFaults codecs state with
  | ok value => simp
  | error fault =>
    constructor
    · intro ok
      cases ok
    · intro ok
      cases ok

end SolTokenListener.Guarantees.JitoValidity
