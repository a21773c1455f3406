import SolTokenListener.Source.EntryEnvelope

/-!
# Provider usage snapshots and the quota decision

Source: src/domain/execution-provider-quota.ts:1-300, src/domain/execution-entry-envelope.ts:242-273,
349-356. A record has exactly the source's keys and value kinds, so the tests of own keys, proxies,
prototypes and frozen objects have nothing left to reject; every bound is modelled. SHA-256 and the
JSON text of a string are parameters; a digest is 64 lower-case hexadecimal digits.
-/

namespace SolTokenListener.Source.ProviderQuota

open Lib.Checked
open Source.ExecutionRiskPolicy
  (ExecutionRiskPolicyV1 createExecutionRiskPolicy U64_MAX jsonBigint jsonText minimum)
open Source.SafetyQualification (isHexId isIdentifier jsonArray DATE_MAX_MS)

def MAX_POSITION_INPUTS : Int := 16
def MAX_RATE_LIMIT_EVENTS : Nat := 1000
def RATE_LIMIT_WINDOW_MS : Int := 30000

/-- `EXECUTOR_COUNTERS` is derived by the executor from its own counters and is never signed. -/
inductive ExecutionProviderUsageProvenance where
  | AUTHORITATIVE_PROBE | OPERATOR_REPORT | EXECUTOR_COUNTERS
  deriving DecidableEq, Repr

def ExecutionProviderUsageProvenance.text : ExecutionProviderUsageProvenance → String
  | .AUTHORITATIVE_PROBE => "AUTHORITATIVE_PROBE"
  | .OPERATOR_REPORT => "OPERATOR_REPORT"
  | .EXECUTOR_COUNTERS => "EXECUTOR_COUNTERS"

inductive ExecutionProviderQuotaState where
  | NORMAL | ENTRY_BLOCKED | EXIT_ONLY | UNKNOWN
  deriving DecidableEq, Repr

inductive ExecutionProviderQuotaReasonCode where
  | PROVIDER_USAGE_UNKNOWN | PROVIDER_ENTRY_LIMIT_REACHED | PROVIDER_EXIT_ONLY
  deriving DecidableEq, Repr

structure ProviderUsageSnapshotInputV1 where
  providerId : String
  planId : String
  billingPeriodId : String
  billingPeriodStartedAtMs : Int
  billingPeriodEndsAtMs : Int
  limitUnits : Int
  usedUnits : Int
  measuredAtMs : Int
  expiresAtMs : Int
  provenance : ExecutionProviderUsageProvenance
  deriving DecidableEq, Repr

structure ProviderUsageSnapshotV1 extends ProviderUsageSnapshotInputV1 where
  snapshotId : String
  payloadVersion : Int
  snapshotFingerprint : String
  deriving DecidableEq, Repr

structure ProviderQuotaDecisionV1 where
  payloadVersion : Int
  state : ExecutionProviderQuotaState
  reasonCode : Option ExecutionProviderQuotaReasonCode
  remainingUnits : Option Int
  protectedUnits : Int
  entryCostUnits : Int
  recentRateLimitCount : Nat
  snapshotFingerprint : Option String
  deriving DecidableEq, Repr

structure ProviderQuotaInputV1 where
  policy : ExecutionRiskPolicyV1
  previousSnapshot : Option ProviderUsageSnapshotV1
  snapshot : Option ProviderUsageSnapshotV1
  localUsedSinceMeasurement : Int
  openPositions : Int
  consecutiveRateLimits : List Int
  allEndpointsUnavailable : Bool
  nowMs : Int

structure ExecutionProviderQuotaValidationError where
  message : String
  deriving DecidableEq, Repr

def invalid : ExecutionProviderQuotaValidationError := ⟨"Invalid execution provider quota input."⟩

abbrev Checked := Except ExecutionProviderQuotaValidationError

/-- `try { … } catch { throw invalid(); }` around the exported functions. -/
def catchInvalid {ε α : Type} (result : Except ε α) : Checked α := result.mapError fun _ => invalid

/-- The libraries the fingerprints rest on. -/
structure Libraries where
  sha256Hex : String → String
  /-- `JSON.stringify` of a string. -/
  jsonString : String → String
  sha256Hex_isHex : ∀ text, isHexId "" (sha256Hex text) = true

/-! ## Fields -/

def identifier (value : String) : Checked String := do
  require (isIdentifier ['.', '_', '-'] 63 value) invalid
  return value

def text (value : String) (maximumBytes : Nat) : Checked String := do
  require (value.length ≠ 0 ∧ value.utf8ByteSize ≤ maximumBytes) invalid
  return value

def fingerprint (value : String) : Checked String := do
  require (isHexId "" value) invalid
  return value

/-- The range test of `unsignedBigint` and `boundedInteger`. -/
abbrev bounded (value minimumValue maximumValue : Int) : Checked Int :=
  inRange invalid value minimumValue maximumValue

def unsignedBigint (value : Int) : Checked Int := bounded value 0 U64_MAX

def positiveBigint (value : Int) : Checked Int := do
  let parsed ← unsignedBigint value
  require (parsed ≠ 0) invalid
  return parsed

def timestamp (value : Int) : Checked Int := bounded value 0 DATE_MAX_MS

/-- The loop of `timestampsFrom`: each item is at least the one before it. -/
def timestampsLoop (previous : Option Int) : List Int → Checked (List Int)
  | [] => return []
  | value :: rest => do
    let observedAtMs ← timestamp value
    require (previous.all fun before => ¬ observedAtMs < before) invalid
    let result ← timestampsLoop (some observedAtMs) rest
    return observedAtMs :: result

def timestampsFrom (value : List Int) : Checked (List Int) := do
  require (value.length ≤ MAX_RATE_LIMIT_EVENTS) invalid
  timestampsLoop none value

/-! ## Snapshots -/

/-- `measuredAtMs + 30_000` and the other sums stay safe integers, so they are exact. -/
def snapshotInputFrom (record : ProviderUsageSnapshotInputV1) : Checked ProviderUsageSnapshotInputV1 := do
  let providerId ← identifier record.providerId
  let planId ← text record.planId 128
  let billingPeriodId ← text record.billingPeriodId 128
  let billingPeriodStartedAtMs ← timestamp record.billingPeriodStartedAtMs
  let billingPeriodEndsAtMs ← timestamp record.billingPeriodEndsAtMs
  let limitUnits ← positiveBigint record.limitUnits
  let usedUnits ← unsignedBigint record.usedUnits
  let measuredAtMs ← timestamp record.measuredAtMs
  let expiresAtMs ← timestamp record.expiresAtMs
  let provenance := record.provenance
  require (¬ (billingPeriodEndsAtMs ≤ billingPeriodStartedAtMs ∨
    measuredAtMs < billingPeriodStartedAtMs ∨ measuredAtMs ≥ billingPeriodEndsAtMs ∨
    expiresAtMs < measuredAtMs + 30000 ∨ expiresAtMs > measuredAtMs + 900000 ∨
    expiresAtMs > billingPeriodEndsAtMs ∨ usedUnits > limitUnits)) invalid
  return {
    providerId, planId, billingPeriodId, billingPeriodStartedAtMs, billingPeriodEndsAtMs, limitUnits,
    usedUnits, measuredAtMs, expiresAtMs, provenance }

section Quota

variable (libraries : Libraries)

def hash (items : List String) : String := libraries.sha256Hex (jsonArray items)

def snapshotFingerprintFor (value : ProviderUsageSnapshotInputV1) : String :=
  hash libraries [
    jsonText "execution-provider-usage-v1", jsonText value.providerId,
    libraries.jsonString value.planId, libraries.jsonString value.billingPeriodId,
    toString value.billingPeriodStartedAtMs, toString value.billingPeriodEndsAtMs,
    jsonBigint value.limitUnits, jsonBigint value.usedUnits, toString value.measuredAtMs,
    toString value.expiresAtMs, jsonText value.provenance.text]

def createProviderUsageSnapshot (input : ProviderUsageSnapshotInputV1) :
    Checked ProviderUsageSnapshotV1 := catchInvalid do
  let fields ← snapshotInputFrom input
  let snapshotFingerprint := snapshotFingerprintFor libraries fields
  return { fields with
    snapshotId := "execution_provider_usage_" ++ snapshotFingerprint
    payloadVersion := 1
    snapshotFingerprint }

def snapshotFrom (record : ProviderUsageSnapshotV1) : Checked ProviderUsageSnapshotV1 := do
  require (record.payloadVersion = 1) invalid
  let fields ← snapshotInputFrom record.toProviderUsageSnapshotInputV1
  let snapshotFingerprint ← fingerprint record.snapshotFingerprint
  let expectedFingerprint := snapshotFingerprintFor libraries fields
  require (snapshotFingerprint = expectedFingerprint ∧
    record.snapshotId = "execution_provider_usage_" ++ expectedFingerprint) invalid
  return { fields with snapshotId := record.snapshotId, payloadVersion := 1, snapshotFingerprint }

def nullableSnapshotFrom : Option ProviderUsageSnapshotV1 → Checked (Option ProviderUsageSnapshotV1)
  | none => return none
  | some record => some <$> snapshotFrom libraries record

def snapshotIsCoherent (previous : Option ProviderUsageSnapshotV1) (current : ProviderUsageSnapshotV1) :
    Bool :=
  match previous with
  | none => true
  | some previous =>
    if current.providerId ≠ previous.providerId ∨ current.planId ≠ previous.planId then false
    else if current.billingPeriodId = previous.billingPeriodId then
      current.billingPeriodStartedAtMs = previous.billingPeriodStartedAtMs ∧
        current.billingPeriodEndsAtMs = previous.billingPeriodEndsAtMs ∧
        current.measuredAtMs ≥ previous.measuredAtMs ∧ current.usedUnits ≥ previous.usedUnits
    else current.billingPeriodStartedAtMs ≥ previous.billingPeriodEndsAtMs

/-! ## The quota decision -/

def policyFrom (record : ExecutionRiskPolicyV1) : Checked ExecutionRiskPolicyV1 := do
  require (record.payloadVersion = 1) invalid
  let reconstructed ← catchInvalid <|
    createExecutionRiskPolicy libraries.sha256Hex record.toExecutionRiskPolicyInputV1
  require (reconstructed.policyFingerprint = record.policyFingerprint) invalid
  return reconstructed

def quotaInputFrom (record : ProviderQuotaInputV1) : Checked ProviderQuotaInputV1 := do
  let policy ← policyFrom libraries record.policy
  let previousSnapshot ← nullableSnapshotFrom libraries record.previousSnapshot
  let snapshot ← nullableSnapshotFrom libraries record.snapshot
  let localUsedSinceMeasurement ← unsignedBigint record.localUsedSinceMeasurement
  let openPositions ← bounded record.openPositions 0 MAX_POSITION_INPUTS
  let consecutiveRateLimits ← timestampsFrom record.consecutiveRateLimits
  let allEndpointsUnavailable := record.allEndpointsUnavailable
  let nowMs ← timestamp record.nowMs
  require (¬ ∃ observedAtMs ∈ consecutiveRateLimits, observedAtMs > nowMs) invalid
  return {
    policy, previousSnapshot, snapshot, localUsedSinceMeasurement, openPositions,
    consecutiveRateLimits, allEndpointsUnavailable, nowMs }

def protectedUnits (fields : ProviderQuotaInputV1) : Int :=
  let policy := fields.policy
  fields.openPositions * (policy.providerExitCostUnitsPerPosition +
    policy.providerConfirmationCostUnitsPerPosition +
    policy.providerReconciliationCostUnitsPerPosition) + policy.providerSafetyMarginUnits

def recentRateLimitCount (fields : ProviderQuotaInputV1) : Nat :=
  (fields.consecutiveRateLimits.filter
    fun observedAtMs => observedAtMs ≥ fields.nowMs - RATE_LIMIT_WINDOW_MS).length

def quotaDecision (fields : ProviderQuotaInputV1) (state : ExecutionProviderQuotaState)
    (reasonCode : Option ExecutionProviderQuotaReasonCode) (remainingUnits : Option Int)
    (snapshotFingerprint : Option String) : ProviderQuotaDecisionV1 :=
  { payloadVersion := 1
    state, reasonCode, remainingUnits
    protectedUnits := protectedUnits fields
    entryCostUnits := fields.policy.providerEntryCostUnits
    recentRateLimitCount := recentRateLimitCount fields
    snapshotFingerprint }

/-- A snapshot that is coherent and neither expired nor too old for the policy. -/
def isUsable (fields : ProviderQuotaInputV1) (snapshot : ProviderUsageSnapshotV1) : Bool :=
  snapshotIsCoherent fields.previousSnapshot snapshot ∧ ¬ fields.nowMs > snapshot.expiresAtMs ∧
    ¬ fields.nowMs > snapshot.measuredAtMs + fields.policy.providerUsageMaxAgeMs

/-- `evaluateProviderQuota` after `quotaInputFrom` has accepted the fields. -/
def decisionOf (fields : ProviderQuotaInputV1) : ProviderQuotaDecisionV1 :=
  match fields.snapshot with
  | none => quotaDecision fields .UNKNOWN (some .PROVIDER_USAGE_UNKNOWN) none none
  | some snapshot =>
    if isUsable fields snapshot = false then
      quotaDecision fields .UNKNOWN (some .PROVIDER_USAGE_UNKNOWN) none
        (some snapshot.snapshotFingerprint)
    else
      let remainingUnits :=
        snapshot.limitUnits - snapshot.usedUnits - fields.localUsedSinceMeasurement
      if fields.allEndpointsUnavailable = true ∨ remainingUnits < protectedUnits fields then
        quotaDecision fields .EXIT_ONLY (some .PROVIDER_EXIT_ONLY) (some remainingUnits)
          (some snapshot.snapshotFingerprint)
      else if recentRateLimitCount fields ≥ 3 ∨
          remainingUnits - fields.policy.providerEntryCostUnits < protectedUnits fields then
        quotaDecision fields .ENTRY_BLOCKED (some .PROVIDER_ENTRY_LIMIT_REACHED)
          (some remainingUnits) (some snapshot.snapshotFingerprint)
      else
        quotaDecision fields .NORMAL none (some remainingUnits) (some snapshot.snapshotFingerprint)

def evaluateProviderQuota (input : ProviderQuotaInputV1) : Checked ProviderQuotaDecisionV1 :=
  catchInvalid do
    let fields ← quotaInputFrom libraries input
    return decisionOf fields

/-! ## Carrying a measurement forward -/

structure EnvelopeProviderCarryForwardInput where
  latest : ProviderUsageSnapshotV1
  localUsedUnits : Int
  measuredAtMs : Int
  maximumAgeMs : Int

def providerFrom (value : ProviderUsageSnapshotV1) : EntryEnvelope.Checked ProviderUsageSnapshotV1 := do
  let snapshot ← EntryEnvelope.caught <|
    createProviderUsageSnapshot libraries value.toProviderUsageSnapshotInputV1
  require (value.payloadVersion = 1 ∧ value.snapshotId = snapshot.snapshotId ∧
    value.snapshotFingerprint = snapshot.snapshotFingerprint) EntryEnvelope.invalid
  return snapshot

def createEnvelopeProviderSnapshot (record : EnvelopeProviderCarryForwardInput) :
    EntryEnvelope.Checked ProviderUsageSnapshotV1 := do
  let latest ← providerFrom libraries record.latest
  let localUsedUnits ← EntryEnvelope.bounded record.localUsedUnits 0 U64_MAX
  let measuredAtMs ← EntryEnvelope.timestamp record.measuredAtMs
  let maximumAgeMs ← EntryEnvelope.bounded record.maximumAgeMs 30000 900000
  let usedUnits := latest.usedUnits + localUsedUnits
  require (¬ (measuredAtMs ≤ latest.measuredAtMs ∨ measuredAtMs ≥ latest.billingPeriodEndsAtMs ∨
    usedUnits > latest.limitUnits)) EntryEnvelope.invalid
  EntryEnvelope.caught <| createProviderUsageSnapshot libraries {
    providerId := latest.providerId
    planId := latest.planId
    billingPeriodId := latest.billingPeriodId
    billingPeriodStartedAtMs := latest.billingPeriodStartedAtMs
    billingPeriodEndsAtMs := latest.billingPeriodEndsAtMs
    limitUnits := latest.limitUnits
    usedUnits
    measuredAtMs
    expiresAtMs := minimum (measuredAtMs + maximumAgeMs) latest.billingPeriodEndsAtMs
    provenance := .EXECUTOR_COUNTERS }

end Quota

end SolTokenListener.Source.ProviderQuota
