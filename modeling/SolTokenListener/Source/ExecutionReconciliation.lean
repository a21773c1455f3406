import SolTokenListener.Source.Chain
import SolTokenListener.Source.SafetyQualification

/-!
# Execution reconciliation

Source: src/domain/execution-reconciliation.ts:1-443, without the later check of a stored evidence's
identity. A record has exactly the source's keys and value kinds; the two optional keys are
`Option`. SHA-256 is a parameter.
-/

namespace SolTokenListener.Source.ExecutionReconciliation

open Lib.Checked
open Source.Chain (MAX_SAFE_INTEGER)
open Source.ExecutionRiskPolicy (U64_MAX I128_MAX I128_MIN jsonText jsonBigint)
open Source.SafetyQualification (DATE_MAX_MS isHexId isIdentifier jsonArray)

inductive Side where
  | BUY | SELL
  deriving DecidableEq, Repr

def Side.text : Side → String
  | .BUY => "BUY"
  | .SELL => "SELL"

inductive SignatureHistory where
  | PRESENT | ABSENT | UNKNOWN
  deriving DecidableEq, Repr

def SignatureHistory.text : SignatureHistory → String
  | .PRESENT => "PRESENT"
  | .ABSENT => "ABSENT"
  | .UNKNOWN => "UNKNOWN"

inductive ReconciliationStatus where
  | FINALIZED | CONFIRMED | ORPHANED | NOT_FOUND
  deriving DecidableEq, Repr

def ReconciliationStatus.text : ReconciliationStatus → String
  | .FINALIZED => "FINALIZED"
  | .CONFIRMED => "CONFIRMED"
  | .ORPHANED => "ORPHANED"
  | .NOT_FOUND => "NOT_FOUND"

inductive ExecutionReconciliationResult where
  | MATCHED | NO_EFFECT | MISMATCH | UNKNOWN
  deriving DecidableEq, Repr

def ExecutionReconciliationResult.text : ExecutionReconciliationResult → String
  | .MATCHED => "MATCHED"
  | .NO_EFFECT => "NO_EFFECT"
  | .MISMATCH => "MISMATCH"
  | .UNKNOWN => "UNKNOWN"

inductive ExecutionReconciliationReasonCode where
  | INTENT_SUCCEEDED | RECONCILIATION_PROVED_NO_EFFECT | RECONCILIATION_REQUIRED | BALANCE_MISMATCH
  | RESIDUAL_TOKEN_BALANCE | DOUBLE_ORDER_SUSPECTED
  deriving DecidableEq, Repr

def ExecutionReconciliationReasonCode.text : ExecutionReconciliationReasonCode → String
  | .INTENT_SUCCEEDED => "INTENT_SUCCEEDED"
  | .RECONCILIATION_PROVED_NO_EFFECT => "RECONCILIATION_PROVED_NO_EFFECT"
  | .RECONCILIATION_REQUIRED => "RECONCILIATION_REQUIRED"
  | .BALANCE_MISMATCH => "BALANCE_MISMATCH"
  | .RESIDUAL_TOKEN_BALANCE => "RESIDUAL_TOKEN_BALANCE"
  | .DOUBLE_ORDER_SUSPECTED => "DOUBLE_ORDER_SUSPECTED"

structure ExpectedEvidence where
  intentId : String
  attemptNumber : Int
  walletGeneration : Int
  providerId : String
  side : Side
  signature : String
  blockhash : String
  lastValidBlockHeight : Int
  messageHash : String
  buildFingerprint : String
  snapshotFingerprint : String
  maximumFeeLamports : Int
  maximumFeePayerLamportDebit : Int
  deriving DecidableEq, Repr

structure NormalizedTransaction where
  signature : String
  blockhash : String
  messageHash : String
  buildFingerprint : String
  snapshotFingerprint : String
  deriving DecidableEq, Repr

/-- The facts of an observation; the last two are absent when the caller does not know them. -/
structure ObservedInput where
  signatureHistory : SignatureHistory
  confirmationStatus : ReconciliationStatus
  finalizedBlockHeight : Int
  observedSlot : Option Int
  transaction : Option NormalizedTransaction
  feeLamports : Int
  walletLamportDelta : Int
  baseDeltaRaw : Int
  quoteDeltaRaw : Int
  unexpectedResidualTokenBalanceRaw : Int
  observedAtMs : Int
  finalizedAtMs : Option Int
  transactionFailed : Option Bool
  baseTokenAccountsUnchanged : Option Bool
  deriving DecidableEq, Repr

structure ObservedEvidence where
  signatureHistory : SignatureHistory
  confirmationStatus : ReconciliationStatus
  finalizedBlockHeight : Int
  observedSlot : Option Int
  transaction : Option NormalizedTransaction
  feeLamports : Int
  walletLamportDelta : Int
  baseDeltaRaw : Int
  quoteDeltaRaw : Int
  unexpectedResidualTokenBalanceRaw : Int
  observedAtMs : Int
  finalizedAtMs : Option Int
  transactionFailed : Bool
  baseTokenAccountsUnchanged : Bool
  deriving DecidableEq, Repr

/-- The evidence without its two identity fields and its version. -/
structure ExecutionReconciliationEvidenceFields where
  expected : ExpectedEvidence
  signatureHistory : SignatureHistory
  confirmationStatus : ReconciliationStatus
  finalizedBlockHeight : Int
  observedSlot : Option Int
  observedTransactionFingerprint : Option String
  feeLamports : Int
  walletLamportDelta : Int
  baseDeltaRaw : Int
  quoteDeltaRaw : Int
  unexpectedResidualTokenBalanceRaw : Int
  observedAtMs : Int
  finalizedAtMs : Option Int
  result : ExecutionReconciliationResult
  reasonCode : ExecutionReconciliationReasonCode
  deriving DecidableEq, Repr

structure ExecutionReconciliationEvidenceV1 extends ExecutionReconciliationEvidenceFields where
  evidenceId : String
  payloadVersion : Int
  evidenceFingerprint : String
  deriving DecidableEq, Repr

structure ExecutionReconciliationValidationError where
  message : String
  deriving DecidableEq, Repr

def invalid : ExecutionReconciliationValidationError := ⟨"Invalid execution reconciliation input."⟩

abbrev Checked := Except ExecutionReconciliationValidationError

/-! ## Fields -/

/-- A text or number that passes its test is returned unchanged. -/
def accept {α : Type} (test : Bool) (value : α) : Checked α := do
  require (test = true) invalid
  return value

def isBase58 (c : Char) : Bool :=
  ('1' ≤ c ∧ c ≤ '9') ∨ ('A' ≤ c ∧ c ≤ 'H') ∨ ('J' ≤ c ∧ c ≤ 'N') ∨ ('P' ≤ c ∧ c ≤ 'Z') ∨
    ('a' ≤ c ∧ c ≤ 'k') ∨ ('m' ≤ c ∧ c ≤ 'z')

def base58 (value : String) (minimumLength maximumLength : Nat) : Checked String :=
  accept (minimumLength ≤ value.length ∧ value.length ≤ maximumLength ∧ value ≠ "" ∧
    value.toList.all isBase58) value

def intentIdFrom (value : String) : Checked String := accept (isHexId "execution_intent_" value) value

def identifier (value : String) : Checked String :=
  accept (isIdentifier ['.', '_', '-'] 63 value) value

def fingerprint (value : String) : Checked String := accept (isHexId "" value) value

def unsignedBigint (value : Int) : Checked Int := accept (0 ≤ value ∧ value ≤ U64_MAX) value

def signedBigint (value : Int) : Checked Int := accept (I128_MIN ≤ value ∧ value ≤ I128_MAX) value

def positiveInteger (value : Int) : Checked Int := accept (0 < value ∧ value ≤ MAX_SAFE_INTEGER) value

def timestamp (value : Int) : Checked Int := accept (0 ≤ value ∧ value ≤ DATE_MAX_MS) value

def expectedFrom (record : ExpectedEvidence) : Checked ExpectedEvidence := do
  let intentId ← intentIdFrom record.intentId
  let attemptNumber ← positiveInteger record.attemptNumber
  let walletGeneration ← positiveInteger record.walletGeneration
  let providerId ← identifier record.providerId
  let side := record.side
  let signature ← base58 record.signature 64 96
  let blockhash ← base58 record.blockhash 32 64
  let lastValidBlockHeight ← unsignedBigint record.lastValidBlockHeight
  let messageHash ← fingerprint record.messageHash
  let buildFingerprint ← fingerprint record.buildFingerprint
  let snapshotFingerprint ← fingerprint record.snapshotFingerprint
  let maximumFeeLamports ← unsignedBigint record.maximumFeeLamports
  let maximumFeePayerLamportDebit ← unsignedBigint record.maximumFeePayerLamportDebit
  return {
    intentId, attemptNumber, walletGeneration, providerId, side, signature, blockhash,
    lastValidBlockHeight, messageHash, buildFingerprint, snapshotFingerprint, maximumFeeLamports,
    maximumFeePayerLamportDebit }

def transactionFrom (record : NormalizedTransaction) : Checked NormalizedTransaction := do
  let signature ← base58 record.signature 64 96
  let blockhash ← base58 record.blockhash 32 64
  let messageHash ← fingerprint record.messageHash
  let buildFingerprint ← fingerprint record.buildFingerprint
  let snapshotFingerprint ← fingerprint record.snapshotFingerprint
  return { signature, blockhash, messageHash, buildFingerprint, snapshotFingerprint }

/-- The checks across the fields of an observation. -/
def isConsistent (result : ObservedEvidence) : Bool :=
  (result.finalizedAtMs.all (result.observedAtMs ≤ ·)) ∧
  ¬ ((result.transactionFailed ∨ result.baseTokenAccountsUnchanged) ∧
    result.confirmationStatus ≠ .FINALIZED) ∧
  ¬ (result.confirmationStatus = .FINALIZED ∧ (result.finalizedAtMs = none ∨
    result.observedSlot = none ∨ result.signatureHistory ≠ .PRESENT ∨ result.transaction = none)) ∧
  ¬ (result.confirmationStatus = .CONFIRMED ∧
    (result.finalizedAtMs ≠ none ∨ result.observedSlot = none)) ∧
  ¬ (result.confirmationStatus = .NOT_FOUND ∧ (result.observedSlot ≠ none ∨
    result.transaction ≠ none ∨ result.signatureHistory = .PRESENT))

def observedFrom (record : ObservedInput) : Checked ObservedEvidence := do
  let signatureHistory := record.signatureHistory
  let confirmationStatus := record.confirmationStatus
  let finalizedBlockHeight ← unsignedBigint record.finalizedBlockHeight
  let observedSlot ← record.observedSlot.mapM unsignedBigint
  let transaction ← record.transaction.mapM transactionFrom
  let feeLamports ← unsignedBigint record.feeLamports
  let walletLamportDelta ← signedBigint record.walletLamportDelta
  let baseDeltaRaw ← signedBigint record.baseDeltaRaw
  let quoteDeltaRaw ← signedBigint record.quoteDeltaRaw
  let unexpectedResidualTokenBalanceRaw ← unsignedBigint record.unexpectedResidualTokenBalanceRaw
  let observedAtMs ← timestamp record.observedAtMs
  let finalizedAtMs ← record.finalizedAtMs.mapM timestamp
  let transactionFailed := record.transactionFailed.getD false
  let baseTokenAccountsUnchanged := record.baseTokenAccountsUnchanged.getD false
  let result : ObservedEvidence := {
    signatureHistory, confirmationStatus, finalizedBlockHeight, observedSlot, transaction, feeLamports,
    walletLamportDelta, baseDeltaRaw, quoteDeltaRaw, unexpectedResidualTokenBalanceRaw, observedAtMs,
    finalizedAtMs, transactionFailed, baseTokenAccountsUnchanged }
  require (isConsistent result = true) invalid
  return result

/-! ## Classification -/

variable (expected : ExpectedEvidence) (observed : ObservedEvidence)

def sameTransaction (observed : NormalizedTransaction) : Bool :=
  observed.signature = expected.signature ∧ observed.blockhash = expected.blockhash ∧
    observed.messageHash = expected.messageHash ∧
    observed.buildFingerprint = expected.buildFingerprint ∧
    observed.snapshotFingerprint = expected.snapshotFingerprint

/-- A SELL that landed finalized with an error: everything but the fee was reverted. -/
def isLandedSellFailureWithoutEffect : Bool :=
  expected.side = .SELL ∧ observed.transactionFailed ∧ observed.baseTokenAccountsUnchanged ∧
    observed.signatureHistory = .PRESENT ∧ observed.confirmationStatus = .FINALIZED ∧
    observed.finalizedAtMs ≠ none ∧ observed.observedSlot ≠ none ∧
    observed.transaction.any (sameTransaction expected) ∧
    observed.baseDeltaRaw = 0 ∧ observed.quoteDeltaRaw = 0 ∧
    observed.unexpectedResidualTokenBalanceRaw > 0 ∧ observed.feeLamports > 0 ∧
    observed.feeLamports ≤ expected.maximumFeeLamports ∧
    observed.walletLamportDelta = -observed.feeLamports

def isMatched : Bool :=
  if observed.signatureHistory ≠ .PRESENT ∨ observed.confirmationStatus ≠ .FINALIZED ∨
      observed.finalizedAtMs = none ∨ observed.observedSlot = none ∨ observed.transaction = none ∨
      observed.feeLamports > expected.maximumFeeLamports then false
  else if expected.side = .BUY then
    observed.baseDeltaRaw > 0 ∧ observed.quoteDeltaRaw < 0 ∧ observed.walletLamportDelta < 0 ∧
      -observed.walletLamportDelta ≤ expected.maximumFeePayerLamportDebit
  else observed.baseDeltaRaw < 0 ∧ observed.quoteDeltaRaw > 0 ∧ observed.walletLamportDelta > 0

def hasAnyDelta : Bool :=
  observed.feeLamports ≠ 0 ∨ observed.walletLamportDelta ≠ 0 ∨ observed.baseDeltaRaw ≠ 0 ∨
    observed.quoteDeltaRaw ≠ 0

def classify : ExecutionReconciliationResult × ExecutionReconciliationReasonCode :=
  if isLandedSellFailureWithoutEffect expected observed then
    (.NO_EFFECT, .RECONCILIATION_PROVED_NO_EFFECT)
  else if observed.unexpectedResidualTokenBalanceRaw > 0 then (.MISMATCH, .RESIDUAL_TOKEN_BALANCE)
  else if observed.transaction.any fun transaction => ¬ sameTransaction expected transaction then
    (.MISMATCH, .DOUBLE_ORDER_SUSPECTED)
  else if (observed.signatureHistory = .ABSENT ∨ observed.transaction = none) ∧ hasAnyDelta observed then
    (.MISMATCH, .BALANCE_MISMATCH)
  else if isMatched expected observed then (.MATCHED, .INTENT_SUCCEEDED)
  else if observed.signatureHistory = .PRESENT ∧ observed.confirmationStatus = .FINALIZED ∧
      observed.transaction ≠ none then
    (.MISMATCH, .BALANCE_MISMATCH)
  else if observed.signatureHistory = .ABSENT ∧ observed.confirmationStatus = .NOT_FOUND ∧
      observed.finalizedBlockHeight > expected.lastValidBlockHeight ∧ observed.transaction = none ∧
      ¬ hasAnyDelta observed ∧ observed.finalizedAtMs ≠ none then
    (.NO_EFFECT, .RECONCILIATION_PROVED_NO_EFFECT)
  else (.UNKNOWN, .RECONCILIATION_REQUIRED)

/-! ## Evidence -/

section Evidence

variable (sha256Hex : String → String)

def hash (items : List String) : String := sha256Hex (jsonArray items)

def jsonNullable {α : Type} (json : α → String) : Option α → String
  | none => "null"
  | some value => json value

def transactionFingerprint (value : NormalizedTransaction) : String :=
  hash sha256Hex ([
    "normalized-execution-transaction-v1", value.signature, value.blockhash, value.messageHash,
    value.buildFingerprint, value.snapshotFingerprint].map jsonText)

def evidenceFingerprintFor (value : ExecutionReconciliationEvidenceFields) : String :=
  hash sha256Hex [
    jsonText "execution-reconciliation-evidence-v1", jsonText value.expected.intentId,
    toString value.expected.attemptNumber, toString value.expected.walletGeneration,
    jsonText value.expected.providerId, jsonText value.expected.side.text,
    jsonText value.expected.signature, jsonText value.expected.blockhash,
    jsonBigint value.expected.lastValidBlockHeight, jsonText value.expected.messageHash,
    jsonText value.expected.buildFingerprint, jsonText value.expected.snapshotFingerprint,
    jsonBigint value.expected.maximumFeeLamports,
    jsonBigint value.expected.maximumFeePayerLamportDebit, jsonText value.signatureHistory.text,
    jsonText value.confirmationStatus.text, jsonBigint value.finalizedBlockHeight,
    jsonNullable jsonBigint value.observedSlot,
    jsonNullable jsonText value.observedTransactionFingerprint, jsonBigint value.feeLamports,
    jsonBigint value.walletLamportDelta, jsonBigint value.baseDeltaRaw, jsonBigint value.quoteDeltaRaw,
    jsonBigint value.unexpectedResidualTokenBalanceRaw, toString value.observedAtMs,
    jsonNullable toString value.finalizedAtMs, jsonText value.result.text,
    jsonText value.reasonCode.text]

def evidenceFromFields (fields : ExecutionReconciliationEvidenceFields) :
    ExecutionReconciliationEvidenceV1 :=
  let evidenceFingerprint := evidenceFingerprintFor sha256Hex fields
  { fields with
    evidenceId := "execution_reconciliation_" ++ hash sha256Hex [
      jsonText "execution-reconciliation-id-v1", jsonText fields.expected.intentId,
      toString fields.expected.attemptNumber, jsonText evidenceFingerprint]
    payloadVersion := 1
    evidenceFingerprint }

def evaluateExecutionReconciliation (expectedInput : ExpectedEvidence) (observedInput : ObservedInput) :
    Checked ExecutionReconciliationEvidenceV1 := do
  let expected ← expectedFrom expectedInput
  let observed ← observedFrom observedInput
  let outcome := classify expected observed
  return evidenceFromFields sha256Hex {
    expected
    signatureHistory := observed.signatureHistory
    confirmationStatus := observed.confirmationStatus
    finalizedBlockHeight := observed.finalizedBlockHeight
    observedSlot := observed.observedSlot
    observedTransactionFingerprint := observed.transaction.map (transactionFingerprint sha256Hex)
    feeLamports := observed.feeLamports
    walletLamportDelta := observed.walletLamportDelta
    baseDeltaRaw := observed.baseDeltaRaw
    quoteDeltaRaw := observed.quoteDeltaRaw
    unexpectedResidualTokenBalanceRaw := observed.unexpectedResidualTokenBalanceRaw
    observedAtMs := observed.observedAtMs
    finalizedAtMs := observed.finalizedAtMs
    result := outcome.1
    reasonCode := outcome.2 }

end Evidence

end SolTokenListener.Source.ExecutionReconciliation
