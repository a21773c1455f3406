import SolTokenListener.Source.ExecutionRiskPolicy

/-!
# Safety qualifications

Source: src/domain/execution-safety-qualification.ts:1-406, without the two evidence builders. As
in the risk policy, a record has exactly the source's keys and value kinds. SHA-256 and the base58
reading of `PublicKey` are parameters. `scope` is an own key of version 2 only.
-/

namespace SolTokenListener.Source.SafetyQualification

open Lib.Checked
open Source.ExecutionRiskPolicy (isLowerHex jsonText)

def QUALIFICATION_TTL_MS : Int := 300000
def ENVELOPE_QUALIFICATION_MAXIMUM_TTL_MS : Int := 86400000
def DATE_MAX_MS : Int := 8640000000000000
def ENVELOPE_PROVIDER_GATE_INDEX : Nat := 7
def ENVELOPE_WALLET_GATE_INDEX : Nat := 9

inductive ExecutionLivePhase where
  | CANARY | MICRO_LIVE | PILOT
  deriving DecidableEq, Repr

def ExecutionLivePhase.text : ExecutionLivePhase → String
  | .CANARY => "CANARY"
  | .MICRO_LIVE => "MICRO_LIVE"
  | .PILOT => "PILOT"

inductive ExecutionSafetyGateId where
  | QUALITY_GATES_PASSED | MIGRATIONS_VERIFIED | ARCHITECTURE_BOUNDARIES_VERIFIED
  | DRY_RUN_RECOVERY_VERIFIED | SIMULATION_MATRIX_VERIFIED | FAULT_MATRIX_VERIFIED
  | RECONCILIATION_CLEAN | PROVIDER_EXIT_CAPACITY_VERIFIED | STOP_CONTROLS_VERIFIED
  | WALLET_CHAIN_LIMITS_VERIFIED | MAINNET_PREFLIGHT_SIMULATED
  deriving DecidableEq, Repr

def ExecutionSafetyGateId.text : ExecutionSafetyGateId → String
  | .QUALITY_GATES_PASSED => "QUALITY_GATES_PASSED"
  | .MIGRATIONS_VERIFIED => "MIGRATIONS_VERIFIED"
  | .ARCHITECTURE_BOUNDARIES_VERIFIED => "ARCHITECTURE_BOUNDARIES_VERIFIED"
  | .DRY_RUN_RECOVERY_VERIFIED => "DRY_RUN_RECOVERY_VERIFIED"
  | .SIMULATION_MATRIX_VERIFIED => "SIMULATION_MATRIX_VERIFIED"
  | .FAULT_MATRIX_VERIFIED => "FAULT_MATRIX_VERIFIED"
  | .RECONCILIATION_CLEAN => "RECONCILIATION_CLEAN"
  | .PROVIDER_EXIT_CAPACITY_VERIFIED => "PROVIDER_EXIT_CAPACITY_VERIFIED"
  | .STOP_CONTROLS_VERIFIED => "STOP_CONTROLS_VERIFIED"
  | .WALLET_CHAIN_LIMITS_VERIFIED => "WALLET_CHAIN_LIMITS_VERIFIED"
  | .MAINNET_PREFLIGHT_SIMULATED => "MAINNET_PREFLIGHT_SIMULATED"

inductive ExecutionSafetyEvidenceType where
  | CI_RUN | MIGRATION_TEST | ARCHITECTURE_TEST | DRY_RUN_TEST | SIMULATION_ARTIFACT | FAULT_TEST
  | RECONCILIATION_STATE | PROVIDER_SNAPSHOT | STOP_CONTROL_TEST | WALLET_SNAPSHOT
  | MAINNET_SIMULATION_ARTIFACT
  deriving DecidableEq, Repr

def ExecutionSafetyEvidenceType.text : ExecutionSafetyEvidenceType → String
  | .CI_RUN => "CI_RUN"
  | .MIGRATION_TEST => "MIGRATION_TEST"
  | .ARCHITECTURE_TEST => "ARCHITECTURE_TEST"
  | .DRY_RUN_TEST => "DRY_RUN_TEST"
  | .SIMULATION_ARTIFACT => "SIMULATION_ARTIFACT"
  | .FAULT_TEST => "FAULT_TEST"
  | .RECONCILIATION_STATE => "RECONCILIATION_STATE"
  | .PROVIDER_SNAPSHOT => "PROVIDER_SNAPSHOT"
  | .STOP_CONTROL_TEST => "STOP_CONTROL_TEST"
  | .WALLET_SNAPSHOT => "WALLET_SNAPSHOT"
  | .MAINNET_SIMULATION_ARTIFACT => "MAINNET_SIMULATION_ARTIFACT"

/-- `EXECUTION_SAFETY_GATE_IDS` beside `EVIDENCE_TYPES`: the two tables are read at one index. -/
def gateTable : List (ExecutionSafetyGateId × ExecutionSafetyEvidenceType) := [
  (.QUALITY_GATES_PASSED, .CI_RUN),
  (.MIGRATIONS_VERIFIED, .MIGRATION_TEST),
  (.ARCHITECTURE_BOUNDARIES_VERIFIED, .ARCHITECTURE_TEST),
  (.DRY_RUN_RECOVERY_VERIFIED, .DRY_RUN_TEST),
  (.SIMULATION_MATRIX_VERIFIED, .SIMULATION_ARTIFACT),
  (.FAULT_MATRIX_VERIFIED, .FAULT_TEST),
  (.RECONCILIATION_CLEAN, .RECONCILIATION_STATE),
  (.PROVIDER_EXIT_CAPACITY_VERIFIED, .PROVIDER_SNAPSHOT),
  (.STOP_CONTROLS_VERIFIED, .STOP_CONTROL_TEST),
  (.WALLET_CHAIN_LIMITS_VERIFIED, .WALLET_SNAPSHOT),
  (.MAINNET_PREFLIGHT_SIMULATED, .MAINNET_SIMULATION_ARTIFACT)]

structure ExecutionSafetyGateEvidenceV1 where
  payloadVersion : Int
  gateId : ExecutionSafetyGateId
  status : String
  evidenceType : ExecutionSafetyEvidenceType
  evidenceId : String
  evidenceFingerprint : String
  observedAtMs : Int
  expiresAtMs : Int
  deriving DecidableEq, Repr

/-- The fields of a qualification without its two identity fields. -/
structure SafetyQualificationInput where
  payloadVersion : Int
  evaluatorVersion : Int
  scope : Option String
  phase : ExecutionLivePhase
  buildHash : String
  configurationFingerprint : String
  strategyFingerprint : String
  generationId : String
  walletPublicKey : String
  cluster : String
  genesisHash : String
  providerId : String
  qualifiedAtMs : Int
  expiresAtMs : Int
  gates : List ExecutionSafetyGateEvidenceV1
  deriving DecidableEq, Repr

structure ExecutionSafetyQualification extends SafetyQualificationInput where
  qualificationId : String
  qualificationFingerprint : String
  deriving DecidableEq, Repr

structure ExecutionSafetyQualificationValidationError where
  message : String
  deriving DecidableEq, Repr

def invalid : ExecutionSafetyQualificationValidationError :=
  ⟨"Invalid execution safety qualification."⟩

abbrev Checked := Except ExecutionSafetyQualificationValidationError

/-! ## Fields -/

def patternedText (value : String) (pattern : String → Bool) (maximumBytes : Nat) : Checked String := do
  require (value.utf8ByteSize ≤ maximumBytes ∧ pattern value) invalid
  return value

/-- `^<stem>[0-9a-f]{64}$`. -/
def isHexId (stem value : String) : Bool :=
  let digits := value.toList.drop stem.length
  value.toList.take stem.length = stem.toList ∧ digits.length = 64 ∧ digits.all isLowerHex

def isAlphanumeric (c : Char) : Bool :=
  ('A' ≤ c ∧ c ≤ 'Z') ∨ ('a' ≤ c ∧ c ≤ 'z') ∨ ('0' ≤ c ∧ c ≤ '9')

/-- `^[A-Za-z0-9][A-Za-z0-9<marks>]{0,<tail>}$`. -/
def isIdentifier (marks : List Char) (tail : Nat) (value : String) : Bool :=
  match value.toList with
  | [] => false
  | first :: rest =>
    isAlphanumeric first ∧ rest.length ≤ tail ∧ rest.all fun c => isAlphanumeric c ∨ c ∈ marks

def fingerprint (value : String) : Checked String := patternedText value (isHexId "") 64

def generationIdFrom (value : String) : Checked String :=
  patternedText value (isHexId "execution_wallet_generation_") 96

def identifier (value : String) : Checked String :=
  patternedText value (isIdentifier ['.', '_', '-'] 63) 64

def evidenceIdentifier (value : String) : Checked String :=
  patternedText value (isIdentifier [':', '.', '_', '-'] 255) 256

def timestamp (value : Int) : Checked Int := do
  require (0 ≤ value ∧ value ≤ DATE_MAX_MS) invalid
  return value

/-- The libraries the qualification rests on. -/
structure Libraries where
  sha256Hex : String → String
  /-- `new PublicKey(value).toBase58() === value`, without throwing. -/
  isBase58Key : String → Bool

section Qualification

variable (libraries : Libraries)

def publicKey (value : String) : Checked String := do
  require (value.utf8ByteSize ≤ 64 ∧ libraries.isBase58Key value) invalid
  return value

def jsonArray (items : List String) : String := "[" ++ String.intercalate "," items ++ "]"

def hash (items : List String) : String := libraries.sha256Hex (jsonArray items)

/-! ## Evidence -/

def gateFrom (qualifiedAtMs qualificationExpiresAtMs : Int)
    (row : ExecutionSafetyGateId × ExecutionSafetyEvidenceType)
    (record : ExecutionSafetyGateEvidenceV1) : Checked ExecutionSafetyGateEvidenceV1 := do
  require (record.payloadVersion = 1 ∧ record.gateId = row.1 ∧ record.status = "PASSED" ∧
    record.evidenceType = row.2) invalid
  let observedAtMs ← timestamp record.observedAtMs
  let expiresAtMs ← timestamp record.expiresAtMs
  require (¬ (observedAtMs > qualifiedAtMs ∨ expiresAtMs < qualificationExpiresAtMs)) invalid
  let evidenceId ← evidenceIdentifier record.evidenceId
  let evidenceFingerprint ← fingerprint record.evidenceFingerprint
  return ⟨1, row.1, "PASSED", row.2, evidenceId, evidenceFingerprint, observedAtMs, expiresAtMs⟩

def gatesLoop (qualifiedAtMs qualificationExpiresAtMs : Int) :
    List (ExecutionSafetyGateId × ExecutionSafetyEvidenceType) →
      List ExecutionSafetyGateEvidenceV1 → Checked (List ExecutionSafetyGateEvidenceV1)
  | row :: rows, record :: records => do
    let gate ← gateFrom qualifiedAtMs qualificationExpiresAtMs row record
    let gates ← gatesLoop qualifiedAtMs qualificationExpiresAtMs rows records
    return gate :: gates
  | _, _ => return []

def evidenceFrom (value : List ExecutionSafetyGateEvidenceV1)
    (qualifiedAtMs qualificationExpiresAtMs : Int) : Checked (List ExecutionSafetyGateEvidenceV1) := do
  require (value.length = gateTable.length) invalid
  gatesLoop qualifiedAtMs qualificationExpiresAtMs gateTable value

def gateJson (gate : ExecutionSafetyGateEvidenceV1) : String :=
  jsonArray [jsonText gate.gateId.text, jsonText gate.status, jsonText gate.evidenceType.text,
    jsonText gate.evidenceId, jsonText gate.evidenceFingerprint, toString gate.observedAtMs,
    toString gate.expiresAtMs]

structure EnvelopeBinding where
  providerEvidenceId : String
  providerEvidenceFingerprint : String
  walletEvidenceId : String
  walletEvidenceFingerprint : String

def envelopeBinding (generationIdValue walletPublicKeyValue providerIdValue : String) :
    Checked EnvelopeBinding := do
  let generationId ← generationIdFrom generationIdValue
  let walletPublicKey ← publicKey libraries walletPublicKeyValue
  let providerId ← identifier providerIdValue
  return {
    providerEvidenceId := "envelope-provider:" ++ providerId
    providerEvidenceFingerprint := hash libraries [
      jsonText "execution-envelope-provider-binding-v1", jsonText generationId, jsonText providerId]
    walletEvidenceId := generationId
    walletEvidenceFingerprint := hash libraries [
      jsonText "execution-envelope-wallet-binding-v1", jsonText generationId,
      jsonText walletPublicKey] }

/-! ## Qualifications -/

variable (record : SafetyQualificationInput)

/-- The checks both versions make of their common fields, in the source's order. -/
def commonFields : Checked Unit := do
  discard <| fingerprint record.buildHash
  discard <| fingerprint record.configurationFingerprint
  discard <| fingerprint record.strategyFingerprint
  discard <| generationIdFrom record.generationId
  discard <| publicKey libraries record.walletPublicKey
  require (record.cluster = "mainnet-beta") invalid
  discard <| publicKey libraries record.genesisHash
  discard <| identifier record.providerId
  discard <| timestamp record.qualifiedAtMs
  discard <| timestamp record.expiresAtMs

/-- The part of the hashed array that both versions share. -/
def commonJson (gates : List ExecutionSafetyGateEvidenceV1) :
    List String := [
  jsonText record.phase.text, jsonText record.buildHash, jsonText record.configurationFingerprint,
  jsonText record.strategyFingerprint, jsonText record.generationId, jsonText record.walletPublicKey,
  jsonText "mainnet-beta", jsonText record.genesisHash, jsonText record.providerId,
  toString record.qualifiedAtMs, toString record.expiresAtMs, jsonArray (gates.map gateJson)]

def identified (gates : List ExecutionSafetyGateEvidenceV1) (qualificationFingerprint : String) :
    ExecutionSafetyQualification :=
  { record with
    gates
    qualificationId := "execution_safety_qualification_" ++ qualificationFingerprint
    qualificationFingerprint }

def createCanarySafetyQualification : Checked ExecutionSafetyQualification := do
  require (record.scope = none) invalid
  require (record.payloadVersion = 1 ∧ record.evaluatorVersion = 1) invalid
  commonFields libraries record
  require (record.expiresAtMs - record.qualifiedAtMs = QUALIFICATION_TTL_MS) invalid
  let gates ← evidenceFrom record.gates record.qualifiedAtMs record.expiresAtMs
  return identified record gates <| hash libraries <|
    [jsonText "execution-safety-qualification-v1", "1"] ++ commonJson record gates

/-- The two gates that bind an envelope to its identities. -/
def bindsEnvelope (binding : EnvelopeBinding) (gates : List ExecutionSafetyGateEvidenceV1) : Bool :=
  (gates[ENVELOPE_PROVIDER_GATE_INDEX]?.any fun gate =>
    gate.gateId = .PROVIDER_EXIT_CAPACITY_VERIFIED ∧ gate.evidenceId = binding.providerEvidenceId ∧
      gate.evidenceFingerprint = binding.providerEvidenceFingerprint) ∧
  (gates[ENVELOPE_WALLET_GATE_INDEX]?.any fun gate =>
    gate.gateId = .WALLET_CHAIN_LIMITS_VERIFIED ∧ gate.evidenceId = binding.walletEvidenceId ∧
      gate.evidenceFingerprint = binding.walletEvidenceFingerprint)

def createEnvelopeSafetyQualification : Checked ExecutionSafetyQualification := do
  require (record.payloadVersion = 2 ∧ record.evaluatorVersion = 1 ∧
    record.scope = some "ENVELOPE" ∧ record.phase = .CANARY) invalid
  commonFields libraries record
  let ttlMs := record.expiresAtMs - record.qualifiedAtMs
  require (¬ (ttlMs ≤ 0 ∨ ttlMs > ENVELOPE_QUALIFICATION_MAXIMUM_TTL_MS)) invalid
  let gates ← evidenceFrom record.gates record.qualifiedAtMs record.expiresAtMs
  let binding ← envelopeBinding libraries record.generationId record.walletPublicKey record.providerId
  require (bindsEnvelope binding gates) invalid
  return identified record gates <| hash libraries <|
    [jsonText "execution-safety-qualification-v2", "2", jsonText "ENVELOPE"] ++
      commonJson record gates

def createSafetyQualification : Checked ExecutionSafetyQualification :=
  if record.payloadVersion = 2 then createEnvelopeSafetyQualification libraries record
  else createCanarySafetyQualification libraries record

end Qualification

end SolTokenListener.Source.SafetyQualification
