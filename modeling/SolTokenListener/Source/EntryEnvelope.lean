import SolTokenListener.Source.SafetyQualification

/-!
# Entry envelopes

Source: src/domain/execution-entry-envelope.ts:23-240, 300-382. The provider snapshot an armed
envelope leads to is in `ProviderQuota`; its arming authorization and the daemon that ticks are not
modelled.
Every failure inside the two functions becomes the one validation error of this file.
-/

namespace SolTokenListener.Source.EntryEnvelope

open Lib.Checked
open Source.ExecutionRiskPolicy
  (ExecutionRiskPolicyV1 createExecutionRiskPolicy evaluateBuyRisk ExecutionBuyRiskInputV1 WSOL_MINT
    U64_MAX BPS_DENOMINATOR minimum maximum jsonText)
open Source.SafetyQualification
  (ExecutionSafetyQualification createSafetyQualification Libraries jsonArray isHexId isIdentifier
    DATE_MAX_MS ENVELOPE_QUALIFICATION_MAXIMUM_TTL_MS)

def ENVELOPE_EXIT_MARGIN_MS : Int := 900000
def SUBMISSION_EXPOSURE_BPS : Int := 500
def MAXIMUM_TOTAL_EXPOSURE_BPS : Int := 500
def POLICY_FRESHNESS_MARGIN_MS : Int := 30000

structure EntryEnvelopeV2 where
  envelopeId : String
  payloadVersion : Int
  fingerprint : String
  generationId : String
  operatorId : String
  perBuyQuoteAmountRaw : Int
  maxBuys : Int
  maxTotalExposureRaw : Int
  maxRealizedLossRaw : Int
  maximumHoldingMs : Int
  validFromMs : Int
  validUntilMs : Int
  policy : ExecutionRiskPolicyV1
  qualificationId : String
  deriving DecidableEq, Repr

structure EntryEnvelopeInputV2 where
  payloadVersion : Int
  qualification : ExecutionSafetyQualification
  operatorId : String
  perBuyQuoteAmountRaw : Int
  maxBuys : Int
  maxTotalExposureRaw : Int
  maxRealizedLossRaw : Int
  maximumHoldingMs : Int
  validFromMs : Int
  validUntilMs : Int
  policy : ExecutionRiskPolicyV1
  deriving DecidableEq, Repr

inductive ExecutionControlState where
  | RUNNING | ENTRY_STOP | HARD_STOP
  deriving DecidableEq, Repr

inductive EnvelopeIdleReason where
  | NO_ENVELOPE | CONTROL_NOT_RUNNING | UNKNOWN_BLOCK | ACTIVE_ARMAMENT | OPEN_POSITION
  | WINDOW_CUTOFF | CAPACITY | LOSS_CAP | NO_INTENT | POLICY_FRESHNESS
  deriving DecidableEq, Repr

structure EnvelopeArmingFacts where
  envelope : Option EntryEnvelopeV2
  buysArmed : Int
  realizedLossRaw : Int
  controlState : ExecutionControlState
  unknownBlock : Bool
  activeArmament : Bool
  openPosition : Bool
  intentAvailable : Bool
  runtimeLeaseMs : Int
  nowMs : Int
  deriving DecidableEq, Repr

inductive EnvelopeArmingDecision where
  | ARMABLE
  | IDLE (reason : EnvelopeIdleReason)
  deriving DecidableEq, Repr

structure ExecutionEntryEnvelopeValidationError where
  message : String
  deriving DecidableEq, Repr

def invalid : ExecutionEntryEnvelopeValidationError := ⟨"Invalid execution entry envelope."⟩

abbrev Checked := Except ExecutionEntryEnvelopeValidationError

/-- An error thrown by another module inside a `try` of this one. -/
def caught {ε α : Type} (result : Except ε α) : Checked α := result.mapError fun _ => invalid

/-! ## Fields -/

/-- `boundedBigint` and `integer`: the same range test on the two number kinds. -/
abbrev bounded (value minimumValue maximumValue : Int) : Checked Int :=
  inRange invalid value minimumValue maximumValue

def timestamp (value : Int) : Checked Int := bounded value 0 DATE_MAX_MS

def patterned (value : String) (pattern : String → Bool) (maximumBytes : Nat) : Checked String := do
  require (value.utf8ByteSize ≤ maximumBytes ∧ pattern value) invalid
  return value

def operatorIdFrom (value : String) : Checked String :=
  patterned value (isIdentifier ['.', '_', '-'] 63) 64

section Envelope

variable (libraries : Libraries)

def qualificationFrom (value : ExecutionSafetyQualification) : Checked ExecutionSafetyQualification := do
  let qualification ← caught <| createSafetyQualification libraries value.toSafetyQualificationInput
  require (qualification.payloadVersion = 2 ∧
    value.qualificationId = qualification.qualificationId ∧
    value.qualificationFingerprint = qualification.qualificationFingerprint) invalid
  return qualification

def policyFrom (value : ExecutionRiskPolicyV1) : Checked ExecutionRiskPolicyV1 := do
  let policy ← caught <|
    createExecutionRiskPolicy libraries.sha256Hex value.toExecutionRiskPolicyInputV1
  require (value.payloadVersion = 1 ∧ value.policyFingerprint = policy.policyFingerprint) invalid
  return policy

/-- A buy of the amount with no open position, no reservation and no failures. -/
def lonelyBuy (policy : ExecutionRiskPolicyV1) (perBuyQuoteAmountRaw realizedNetPnlLamports : Int) :
    ExecutionBuyRiskInputV1 :=
  { policy
    quoteMint := WSOL_MINT
    requestedQuoteAmountRaw := perBuyQuoteAmountRaw
    realizedNetPnlLamports
    reservedExposureLamports := 0
    openPositions := []
    consecutiveTechnicalFailures := 0
    lastTechnicalFailureReasonCode := none }

def assertPolicyAdmitsEnvelope (policy : ExecutionRiskPolicyV1)
    (perBuyQuoteAmountRaw maxRealizedLossRaw : Int) : Checked Unit := do
  require (policy.quoteMintAllowlist[0]? = some WSOL_MINT ∧ policy.maximumOpenPositions = 1 ∧
    ¬ policy.maximumTotalExposureBps > MAXIMUM_TOTAL_EXPOSURE_BPS) invalid
  let lossCappedCapital := minimum
    (maximum 0 (policy.initialCapitalLamports - maxRealizedLossRaw)) policy.maximumCapitalLamports
  require (¬ perBuyQuoteAmountRaw * BPS_DENOMINATOR > lossCappedCapital * SUBMISSION_EXPOSURE_BPS)
    invalid
  let decision ← caught <| evaluateBuyRisk libraries.sha256Hex
    (lonelyBuy policy perBuyQuoteAmountRaw (-maxRealizedLossRaw))
  require (decision.kind = .ADMISSIBLE) invalid

/-- The text hashed into the fingerprint: bigints are quoted, numbers are not. -/
def fingerprintPayload (qualification : ExecutionSafetyQualification) (policy : ExecutionRiskPolicyV1)
    (input : EntryEnvelopeInputV2) : String :=
  jsonArray [
    jsonText "execution-entry-envelope-v2", jsonText qualification.generationId,
    jsonText input.operatorId, jsonText qualification.qualificationId,
    jsonText policy.policyFingerprint, jsonText (toString input.perBuyQuoteAmountRaw),
    toString input.maxBuys, "1", jsonText (toString input.maxTotalExposureRaw),
    jsonText (toString input.maxRealizedLossRaw), toString input.maximumHoldingMs,
    toString input.validFromMs, toString input.validUntilMs]

def createEntryEnvelope (record : EntryEnvelopeInputV2) : Checked EntryEnvelopeV2 := do
  require (record.payloadVersion = 2) invalid
  let qualification ← qualificationFrom libraries record.qualification
  let policy ← policyFrom libraries record.policy
  let operatorId ← operatorIdFrom record.operatorId
  let perBuyQuoteAmountRaw ← bounded record.perBuyQuoteAmountRaw 1 U64_MAX
  let maxBuys ← bounded record.maxBuys 1 1000
  let maxTotalExposureRaw ← bounded record.maxTotalExposureRaw 1 U64_MAX
  let maxRealizedLossRaw ← bounded record.maxRealizedLossRaw 1 U64_MAX
  let maximumHoldingMs ← bounded record.maximumHoldingMs 30000 900000
  let validFromMs ← timestamp record.validFromMs
  let validUntilMs ← timestamp record.validUntilMs
  let windowMs := validUntilMs - validFromMs
  require (¬ (maxTotalExposureRaw < perBuyQuoteAmountRaw ∨
    validUntilMs ≠ qualification.expiresAtMs ∨ validFromMs < qualification.qualifiedAtMs ∨
    windowMs ≤ 0 ∨ windowMs > ENVELOPE_QUALIFICATION_MAXIMUM_TTL_MS ∨
    windowMs < maximumHoldingMs + ENVELOPE_EXIT_MARGIN_MS)) invalid
  assertPolicyAdmitsEnvelope libraries policy perBuyQuoteAmountRaw maxRealizedLossRaw
  let fingerprint := libraries.sha256Hex (fingerprintPayload qualification policy record)
  return {
    envelopeId := "execution_entry_envelope_" ++ fingerprint
    payloadVersion := 2
    fingerprint
    generationId := qualification.generationId
    operatorId, perBuyQuoteAmountRaw, maxBuys, maxTotalExposureRaw, maxRealizedLossRaw,
    maximumHoldingMs, validFromMs, validUntilMs, policy
    qualificationId := qualification.qualificationId }

/-- Validates the fields arming relies on, not the identity of the envelope. -/
def envelopeFrom (record : EntryEnvelopeV2) : Checked EntryEnvelopeV2 := do
  require (record.payloadVersion = 2) invalid
  let policy ← policyFrom libraries record.policy
  let fingerprint ← patterned record.fingerprint (isHexId "") 64
  require (record.envelopeId = "execution_entry_envelope_" ++ fingerprint) invalid
  let perBuyQuoteAmountRaw ← bounded record.perBuyQuoteAmountRaw 1 U64_MAX
  let maxBuys ← bounded record.maxBuys 1 1000
  let maxTotalExposureRaw ← bounded record.maxTotalExposureRaw 1 U64_MAX
  let maxRealizedLossRaw ← bounded record.maxRealizedLossRaw 1 U64_MAX
  let maximumHoldingMs ← bounded record.maximumHoldingMs 30000 900000
  let validFromMs ← timestamp record.validFromMs
  let validUntilMs ← timestamp record.validUntilMs
  let generationId ← patterned record.generationId (isHexId "execution_wallet_generation_") 96
  let operatorId ← operatorIdFrom record.operatorId
  let qualificationId ← patterned record.qualificationId (isHexId "execution_safety_qualification_") 95
  return {
    envelopeId := record.envelopeId
    payloadVersion := 2
    fingerprint, generationId, operatorId, perBuyQuoteAmountRaw, maxBuys, maxTotalExposureRaw,
    maxRealizedLossRaw, maximumHoldingMs, validFromMs, validUntilMs, policy, qualificationId }

/-! ## Arming -/

/-- The decision on an envelope whose facts were accepted. -/
def armingDecision (envelope : EntryEnvelopeV2) (facts : EnvelopeArmingFacts) :
    EnvelopeArmingDecision :=
  if facts.controlState ≠ .RUNNING then .IDLE .CONTROL_NOT_RUNNING
  else if facts.unknownBlock then .IDLE .UNKNOWN_BLOCK
  else if facts.activeArmament then .IDLE .ACTIVE_ARMAMENT
  else if facts.openPosition then .IDLE .OPEN_POSITION
  else if facts.nowMs < envelope.validFromMs ∨
      envelope.validUntilMs < facts.nowMs + envelope.maximumHoldingMs + ENVELOPE_EXIT_MARGIN_MS then
    .IDLE .WINDOW_CUTOFF
  else if facts.buysArmed ≥ envelope.maxBuys ∨
      (facts.buysArmed + 1) * envelope.perBuyQuoteAmountRaw > envelope.maxTotalExposureRaw then
    .IDLE .CAPACITY
  else if facts.realizedLossRaw ≥ envelope.maxRealizedLossRaw then .IDLE .LOSS_CAP
  else
    let minimumMaxAgeMs := 2 * facts.runtimeLeaseMs + POLICY_FRESHNESS_MARGIN_MS
    if envelope.policy.walletSnapshotMaxAgeMs < minimumMaxAgeMs ∨
        envelope.policy.providerUsageMaxAgeMs < minimumMaxAgeMs then .IDLE .POLICY_FRESHNESS
    else if facts.intentAvailable = false then .IDLE .NO_INTENT
    else .ARMABLE

def evaluateEnvelopeArming (facts : EnvelopeArmingFacts) : Checked EnvelopeArmingDecision := do
  let envelope ← facts.envelope.mapM (envelopeFrom libraries)
  let buysArmed ← bounded facts.buysArmed 0 1000
  let realizedLossRaw ← bounded facts.realizedLossRaw 0 U64_MAX
  let runtimeLeaseMs ← bounded facts.runtimeLeaseMs 1 3600000
  let nowMs ← timestamp facts.nowMs
  match envelope with
  | none => return .IDLE .NO_ENVELOPE
  | some envelope =>
    return armingDecision envelope { facts with buysArmed, realizedLossRaw, runtimeLeaseMs, nowMs }

end Envelope

end SolTokenListener.Source.EntryEnvelope
