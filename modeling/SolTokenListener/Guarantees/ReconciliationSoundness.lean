import Mathlib.Algebra.Order.Ring.Int
import SolTokenListener.Source.ExecutionReconciliation

/-!
# Reconciliation reports only what it was shown

What `evaluateExecutionReconciliation` requires of an expectation and an observation before it
reports that an execution matched or had no effect. Acceptance returns both unchanged, so the
conditions are read on the inputs themselves; no bound is supplied as a premise.
-/

namespace SolTokenListener.Guarantees.ReconciliationSoundness

open Lib.Checked
open Source.ExecutionReconciliation

/-- The five fields that identify a transaction agree. -/
structure SameIdentity (expected : ExpectedEvidence) (transaction : NormalizedTransaction) : Prop where
  signature : transaction.signature = expected.signature
  blockhash : transaction.blockhash = expected.blockhash
  messageHash : transaction.messageHash = expected.messageHash
  buildFingerprint : transaction.buildFingerprint = expected.buildFingerprint
  snapshotFingerprint : transaction.snapshotFingerprint = expected.snapshotFingerprint

/-- Never found, and too late to land any more. -/
structure ExpiredUnseen (expected : ExpectedEvidence) (observed : ObservedInput) : Prop where
  notFound : observed.confirmationStatus = .NOT_FOUND ∧ observed.transaction = none
  expired : expected.lastValidBlockHeight < observed.finalizedBlockHeight
  noLamports : observed.feeLamports = 0 ∧ observed.walletLamportDelta = 0

/-- The expected sale landed and failed: it cost its fee and nothing else. -/
structure LandedSellFailure (expected : ExpectedEvidence) (observed : ObservedInput) : Prop where
  sell : expected.side = .SELL
  same : ∃ transaction, observed.transaction = some transaction ∧ SameIdentity expected transaction
  finalized : observed.confirmationStatus = .FINALIZED
  failed : observed.transactionFailed = some true
  onlyFee : observed.walletLamportDelta = -observed.feeLamports
  feeBound : observed.feeLamports ≤ expected.maximumFeeLamports

structure ProvedNoEffect (expected : ExpectedEvidence) (observed : ObservedInput) : Prop where
  base : observed.baseDeltaRaw = 0
  quote : observed.quoteDeltaRaw = 0
  cause : ExpiredUnseen expected observed ∨ LandedSellFailure expected observed

/-- The signs of a trade on the given side; a purchase debits at most its maximum. -/
def TradeDeltas (expected : ExpectedEvidence) (observed : ObservedInput) : Prop :=
  match expected.side with
  | .BUY => 0 < observed.baseDeltaRaw ∧ observed.quoteDeltaRaw < 0 ∧ observed.walletLamportDelta < 0 ∧
      -observed.walletLamportDelta ≤ expected.maximumFeePayerLamportDebit
  | .SELL => observed.baseDeltaRaw < 0 ∧ 0 < observed.quoteDeltaRaw ∧ 0 < observed.walletLamportDelta

structure ProvedMatch (expected : ExpectedEvidence) (observed : ObservedInput) : Prop where
  same : ∃ transaction, observed.transaction = some transaction ∧ SameIdentity expected transaction
  finalized : observed.confirmationStatus = .FINALIZED
  feeBound : observed.feeLamports ≤ expected.maximumFeeLamports
  deltas : TradeDeltas expected observed

/-! ## Acceptance -/

@[simp] theorem accept_eq_ok {α : Type} {test : Bool} {value result : α} :
    accept test value = .ok result ↔ result = value ∧ test = true := by
  simp only [accept, bind_eq_ok, require_eq_ok, pure_eq_ok, exists_const]
  constructor
  · rintro ⟨passed, rfl⟩
    exact ⟨rfl, passed⟩
  · rintro ⟨rfl, passed⟩
    exact ⟨passed, rfl⟩

theorem expectedFrom_ok {record expected : ExpectedEvidence} (ok : expectedFrom record = .ok expected) :
    expected = record := by
  simp only [expectedFrom, intentIdFrom, positiveInteger, identifier, base58, unsignedBigint, fingerprint,
    bind_eq_ok, accept_eq_ok, pure_eq_ok] at ok
  obtain ⟨_, ⟨rfl, -⟩, _, ⟨rfl, -⟩, _, ⟨rfl, -⟩, _, ⟨rfl, -⟩, _, ⟨rfl, -⟩, _, ⟨rfl, -⟩, _, ⟨rfl, -⟩, _,
    ⟨rfl, -⟩, _, ⟨rfl, -⟩, _, ⟨rfl, -⟩, _, ⟨rfl, -⟩, _, ⟨rfl, -⟩, rfl⟩ := ok
  rfl

theorem transactionFrom_ok {record transaction : NormalizedTransaction}
    (ok : transactionFrom record = .ok transaction) : transaction = record := by
  simp only [transactionFrom, base58, fingerprint, bind_eq_ok, accept_eq_ok, pure_eq_ok] at ok
  obtain ⟨_, ⟨rfl, -⟩, _, ⟨rfl, -⟩, _, ⟨rfl, -⟩, _, ⟨rfl, -⟩, _, ⟨rfl, -⟩, rfl⟩ := ok
  rfl

/-- An observation with its two optional facts read as false when absent. -/
def withDefaults (record : ObservedInput) : ObservedEvidence where
  signatureHistory := record.signatureHistory
  confirmationStatus := record.confirmationStatus
  finalizedBlockHeight := record.finalizedBlockHeight
  observedSlot := record.observedSlot
  transaction := record.transaction
  feeLamports := record.feeLamports
  walletLamportDelta := record.walletLamportDelta
  baseDeltaRaw := record.baseDeltaRaw
  quoteDeltaRaw := record.quoteDeltaRaw
  unexpectedResidualTokenBalanceRaw := record.unexpectedResidualTokenBalanceRaw
  observedAtMs := record.observedAtMs
  finalizedAtMs := record.finalizedAtMs
  transactionFailed := record.transactionFailed.getD false
  baseTokenAccountsUnchanged := record.baseTokenAccountsUnchanged.getD false

theorem observedFrom_ok {record : ObservedInput} {observed : ObservedEvidence}
    (ok : observedFrom record = .ok observed) : observed = withDefaults record := by
  simp only [observedFrom, bind_eq_ok, unsignedBigint, signedBigint, timestamp, accept_eq_ok,
    pure_eq_ok] at ok
  obtain ⟨_, ⟨rfl, -⟩, slot, slotOk, transaction, transactionOk, _, ⟨rfl, -⟩, _, ⟨rfl, -⟩, _, ⟨rfl, -⟩, _,
    ⟨rfl, -⟩, _, ⟨rfl, -⟩, _, ⟨rfl, -⟩, finalizedAt, finalizedOk, _, -, rfl⟩ := ok
  have sameSlot := mapM_same (fun _ _ checked => (accept_eq_ok.mp checked).1) slotOk
  have sameTransaction := mapM_same (fun _ _ checked => transactionFrom_ok checked) transactionOk
  have sameFinalized := mapM_same (fun _ _ checked => (accept_eq_ok.mp checked).1) finalizedOk
  subst sameSlot sameTransaction sameFinalized
  rfl

/-! ## Classification -/

variable {expected : ExpectedEvidence} {observed : ObservedInput}

theorem sameTransaction_iff {transaction : NormalizedTransaction} :
    sameTransaction expected transaction = true ↔ SameIdentity expected transaction := by
  rw [sameTransaction, decide_eq_true_eq]
  constructor
  · rintro ⟨signature, blockhash, messageHash, buildFingerprint, snapshotFingerprint⟩
    exact ⟨signature, blockhash, messageHash, buildFingerprint, snapshotFingerprint⟩
  · rintro ⟨signature, blockhash, messageHash, buildFingerprint, snapshotFingerprint⟩
    exact ⟨signature, blockhash, messageHash, buildFingerprint, snapshotFingerprint⟩

theorem any_sameTransaction {transaction : Option NormalizedTransaction}
    (same : transaction.any (sameTransaction expected) = true) :
    ∃ found, transaction = some found ∧ SameIdentity expected found := by
  obtain ⟨found, isFound, agrees⟩ := (Option.any_eq_true _ _).mp same
  exact ⟨found, isFound, sameTransaction_iff.mp agrees⟩

theorem landedSellFailure (landed : isLandedSellFailureWithoutEffect expected (withDefaults observed) = true) :
    ProvedNoEffect expected observed := by
  rw [isLandedSellFailureWithoutEffect, decide_eq_true_eq] at landed
  obtain ⟨sell, failed, -, -, finalized, -, -, same, base, quote, -, -, feeBound, onlyFee⟩ := landed
  refine ⟨base, quote, .inr ⟨sell, any_sameTransaction same, finalized, ?_, onlyFee, feeBound⟩⟩
  cases isFailed : observed.transactionFailed with
  | none => simp [withDefaults, isFailed] at failed
  | some value => simpa [withDefaults, isFailed] using failed

theorem tradeDeltas_of_isMatched (isMatch : isMatched expected (withDefaults observed) = true) :
    observed.confirmationStatus = .FINALIZED ∧ observed.transaction ≠ none ∧
      observed.feeLamports ≤ expected.maximumFeeLamports ∧ TradeDeltas expected observed := by
  unfold isMatched at isMatch
  split at isMatch
  · cases isMatch
  · next present =>
      simp only [not_or, ne_eq, Decidable.not_not, gt_iff_lt, not_lt] at present
      obtain ⟨-, finalized, -, -, found, feeBound⟩ := present
      refine ⟨finalized, found, feeBound, ?_⟩
      unfold TradeDeltas
      cases side : expected.side with
      | BUY =>
        rw [if_pos side, decide_eq_true_eq] at isMatch
        exact isMatch
      | SELL =>
        rw [if_neg (by simp [side]), decide_eq_true_eq] at isMatch
        exact isMatch

/-- The first disagreement already decides: nothing after it is looked at. -/
theorem classify_of_different {transaction : NormalizedTransaction}
    (found : observed.transaction = some transaction) (different : ¬ SameIdentity expected transaction) :
    (classify expected (withDefaults observed)).1 = .MISMATCH := by
  have notSame : sameTransaction expected transaction = false := by
    rw [Bool.eq_false_iff, ne_eq, sameTransaction_iff]
    exact different
  have notLanded : isLandedSellFailureWithoutEffect expected (withDefaults observed) = false := by
    simp [isLandedSellFailureWithoutEffect, withDefaults, found, notSame]
  have disagrees : (withDefaults observed).transaction.any
      (fun transaction => ¬ sameTransaction expected transaction) = true := by
    simp [withDefaults, found, notSame]
  unfold classify
  rw [if_neg (by simp [notLanded]), if_pos disagrees]
  split <;> rfl

theorem still_of_not_hasAnyDelta {evidence : ObservedEvidence} (still : ¬ hasAnyDelta evidence = true) :
    evidence.feeLamports = 0 ∧ evidence.walletLamportDelta = 0 ∧ evidence.baseDeltaRaw = 0 ∧
      evidence.quoteDeltaRaw = 0 := by
  rw [hasAnyDelta, decide_eq_true_eq] at still
  simpa only [not_or, ne_eq, Decidable.not_not] using still

theorem same_of_not_different (agrees : ¬ (withDefaults observed).transaction.any
      (fun transaction => ¬ sameTransaction expected transaction) = true)
    (present : observed.transaction ≠ none) :
    ∃ transaction, observed.transaction = some transaction ∧ SameIdentity expected transaction := by
  obtain ⟨transaction, found⟩ := Option.ne_none_iff_exists'.mp present
  refine ⟨transaction, found, sameTransaction_iff.mp ?_⟩
  simpa [withDefaults, found] using agrees

theorem classify_noEffect (noEffect : (classify expected (withDefaults observed)).1 = .NO_EFFECT) :
    ProvedNoEffect expected observed := by
  unfold classify at noEffect
  split at noEffect
  · next landed => exact landedSellFailure landed
  · repeat' split at noEffect
    all_goals try cases noEffect
    next unseen =>
      obtain ⟨-, notFound, expired, absent, still, -⟩ := unseen
      obtain ⟨fee, wallet, base, quote⟩ := still_of_not_hasAnyDelta still
      exact ⟨base, quote, .inl ⟨⟨notFound, absent⟩, expired, fee, wallet⟩⟩

theorem classify_matched (isMatch : (classify expected (withDefaults observed)).1 = .MATCHED) :
    ProvedMatch expected observed := by
  unfold classify at isMatch
  split at isMatch
  · cases isMatch
  · split at isMatch
    · cases isMatch
    · split at isMatch
      · cases isMatch
      · next agrees =>
        repeat' split at isMatch
        all_goals try cases isMatch
        next decided =>
          obtain ⟨finalized, present, feeBound, deltas⟩ := tradeDeltas_of_isMatched decided
          exact ⟨same_of_not_different agrees present, finalized, feeBound, deltas⟩

/-- Every accepted pair: no effect and a match are reported only on their proofs, and a transaction
that differs in any identity field gets neither. -/
theorem reconciliation_sound (sha256Hex : String → String) (expected : ExpectedEvidence)
    (observed : ObservedInput) (evidence : ExecutionReconciliationEvidenceV1)
    (accepted : evaluateExecutionReconciliation sha256Hex expected observed = .ok evidence) :
    (evidence.result = .NO_EFFECT → ProvedNoEffect expected observed) ∧
    (evidence.result = .MATCHED → ProvedMatch expected observed) ∧
    ∀ transaction, observed.transaction = some transaction →
      (transaction.signature ≠ expected.signature ∨ transaction.blockhash ≠ expected.blockhash ∨
        transaction.messageHash ≠ expected.messageHash ∨
        transaction.buildFingerprint ≠ expected.buildFingerprint ∨
        transaction.snapshotFingerprint ≠ expected.snapshotFingerprint) →
      evidence.result ≠ .NO_EFFECT ∧ evidence.result ≠ .MATCHED := by
  simp only [evaluateExecutionReconciliation, bind_eq_ok, pure_eq_ok] at accepted
  obtain ⟨readExpected, expectedOk, readObserved, observedOk, rfl⟩ := accepted
  obtain rfl := expectedFrom_ok expectedOk
  obtain rfl := observedFrom_ok observedOk
  refine ⟨classify_noEffect, classify_matched, fun transaction found differs => ?_⟩
  have different : ¬ SameIdentity readExpected transaction := by
    intro same
    rcases differs with differs | differs | differs | differs | differs
    · exact differs same.signature
    · exact differs same.blockhash
    · exact differs same.messageHash
    · exact differs same.buildFingerprint
    · exact differs same.snapshotFingerprint
  have mismatch := classify_of_different found different
  change (classify readExpected (withDefaults observed)).1 ≠ .NO_EFFECT ∧
    (classify readExpected (withDefaults observed)).1 ≠ .MATCHED
  rw [mismatch]
  decide

/-! A sale that landed, failed and cost 5000 lamports. -/

def sampleDigest : String := "0123456789abcdef0123456789abcdef0123456789abcdef0123456789abcdef"

def sampleSignature : String := "1111111111111111111111111111111111111111111111111111111111111111"

def sampleBlockhash : String := "11111111111111111111111111111111"

def sampleExpected : ExpectedEvidence where
  intentId := "execution_intent_" ++ sampleDigest
  attemptNumber := 1
  walletGeneration := 1
  providerId := "primary"
  side := .SELL
  signature := sampleSignature
  blockhash := sampleBlockhash
  lastValidBlockHeight := 1000
  messageHash := sampleDigest
  buildFingerprint := sampleDigest
  snapshotFingerprint := sampleDigest
  maximumFeeLamports := 10000
  maximumFeePayerLamportDebit := 10000

def sampleObserved : ObservedInput where
  signatureHistory := .PRESENT
  confirmationStatus := .FINALIZED
  finalizedBlockHeight := 990
  observedSlot := some 2000
  transaction := some ⟨sampleSignature, sampleBlockhash, sampleDigest, sampleDigest, sampleDigest⟩
  feeLamports := 5000
  walletLamportDelta := -5000
  baseDeltaRaw := 0
  quoteDeltaRaw := 0
  unexpectedResidualTokenBalanceRaw := 7
  observedAtMs := 10
  finalizedAtMs := some 20
  transactionFailed := some true
  baseTokenAccountsUnchanged := some true

def sampleEvidence : ExecutionReconciliationEvidenceV1 :=
  evidenceFromFields (fun _ => sampleDigest) {
    expected := sampleExpected
    signatureHistory := .PRESENT
    confirmationStatus := .FINALIZED
    finalizedBlockHeight := 990
    observedSlot := some 2000
    observedTransactionFingerprint := some sampleDigest
    feeLamports := 5000
    walletLamportDelta := -5000
    baseDeltaRaw := 0
    quoteDeltaRaw := 0
    unexpectedResidualTokenBalanceRaw := 7
    observedAtMs := 10
    finalizedAtMs := some 20
    result := .NO_EFFECT
    reasonCode := .RECONCILIATION_PROVED_NO_EFFECT }

theorem reconciliation_sound_sample : ProvedNoEffect sampleExpected sampleObserved :=
  (reconciliation_sound (fun _ => sampleDigest) sampleExpected sampleObserved sampleEvidence
    (by decide +kernel)).1 (by decide +kernel)

end SolTokenListener.Guarantees.ReconciliationSoundness
