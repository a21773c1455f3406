import Mathlib.Algebra.Group.Int.Defs
import SolTokenListener.Lib.Checked

/-!
# Buy-risk policy evaluation

Source: src/domain/execution-risk-policy.ts:1-483. `bigint` values and safe-integer
`number` values are `Int`; bigint division truncates, so it is `Int.tdiv`. A record here
has exactly the source's keys and value kinds, so the own-key, proxy, prototype, frozen
and `typeof` tests of `exactRecord`, `boundedBigint` and `boundedInteger` have nothing
left to reject; the bounds themselves are modelled. SHA-256 stays a parameter of the
policy fingerprint. Nothing is claimed about the callers that act on a decision.
-/

namespace SolTokenListener.Source.ExecutionRiskPolicy

open Lib.Checked

def WSOL_MINT : String := "So11111111111111111111111111111111111111112"
def BPS_DENOMINATOR : Int := 10000
def U64_MAX : Int := 18446744073709551615
def I128_MAX : Int := 2 ^ 127 - 1
def I128_MIN : Int := -(2 ^ 127)
def MAX_POSITION_INPUTS : Nat := 16

inductive ExecutionTechnicalFailureReasonCode where
  | executionBuildFailed | buySimulationFailed | sellSimulationFailed
  | executionProviderFailed | confirmationTimeout | reconciliationRequired
  deriving DecidableEq, Repr

inductive ExecutionBuyRiskReasonCode where
  | capitalLimitExceeded | exposureLimitExceeded | drawdownLimitExceeded
  | quoteMintNotAllowed | reconciliationRequired
  | executionBuildFailed | buySimulationFailed | sellSimulationFailed
  | executionProviderFailed | confirmationTimeout
  deriving DecidableEq, Repr

/-- The technical codes are a subset of the buy-risk codes; the two unions share
`RECONCILIATION_REQUIRED`. -/
def ExecutionTechnicalFailureReasonCode.toBuyRisk :
    ExecutionTechnicalFailureReasonCode → ExecutionBuyRiskReasonCode
  | .executionBuildFailed => .executionBuildFailed
  | .buySimulationFailed => .buySimulationFailed
  | .sellSimulationFailed => .sellSimulationFailed
  | .executionProviderFailed => .executionProviderFailed
  | .confirmationTimeout => .confirmationTimeout
  | .reconciliationRequired => .reconciliationRequired

structure ExecutionRiskPolicyInputV1 where
  quoteMintAllowlist : List String
  initialCapitalLamports : Int
  maximumCapitalLamports : Int
  positionSizeBps : Int
  maximumOpenPositions : Int
  maximumTotalExposureBps : Int
  drawdownPauseBps : Int
  feeReserveLamports : Int
  walletSnapshotMaxAgeMs : Int
  providerUsageMaxAgeMs : Int
  providerEntryCostUnits : Int
  providerExitCostUnitsPerPosition : Int
  providerConfirmationCostUnitsPerPosition : Int
  providerReconciliationCostUnitsPerPosition : Int
  providerSafetyMarginUnits : Int
  maximumConsecutiveTechnicalFailures : Int
  deriving DecidableEq, Repr

structure ExecutionRiskPolicyV1 extends ExecutionRiskPolicyInputV1 where
  payloadVersion : Int
  policyFingerprint : String
  deriving DecidableEq, Repr

inductive ReconciliationStatus where
  | RECONCILED | UNKNOWN
  deriving DecidableEq, Repr

structure ExecutionOpenPositionRiskInputV1 where
  positionId : String
  costBasisLamports : Int
  conservativeLiquidationLamports : Option Int
  reconciliationStatus : ReconciliationStatus
  deriving DecidableEq, Repr

structure ExecutionBuyRiskInputV1 where
  policy : ExecutionRiskPolicyV1
  quoteMint : String
  requestedQuoteAmountRaw : Int
  realizedNetPnlLamports : Int
  reservedExposureLamports : Int
  openPositions : List ExecutionOpenPositionRiskInputV1
  consecutiveTechnicalFailures : Int
  lastTechnicalFailureReasonCode : Option ExecutionTechnicalFailureReasonCode
  deriving DecidableEq, Repr

inductive DecisionKind where
  | ADMISSIBLE | REJECTED
  deriving DecidableEq, Repr

structure ExecutionBuyRiskDecisionV1 where
  payloadVersion : Int
  kind : DecisionKind
  reasonCode : Option ExecutionBuyRiskReasonCode
  reconciledCapitalLamports : Int
  capitalAfterFeeReserveLamports : Int
  positionLimitLamports : Int
  totalExposureLimitLamports : Int
  projectedExposureLamports : Int
  conservativeUnrealizedLossLamports : Int
  drawdownBps : Int
  openPositionCount : Nat
  deriving DecidableEq, Repr

structure ExecutionRiskValidationError where
  message : String
  deriving DecidableEq, Repr

def invalid : ExecutionRiskValidationError := ⟨"Invalid execution risk input."⟩

abbrev Checked := Except ExecutionRiskValidationError

/-- `try { … } catch { throw invalid(); }` around the two exported functions. -/
def catchInvalid {α : Type} : Checked α → Checked α
  | .ok value => .ok value
  | .error _ => .error invalid

def minimum (left right : Int) : Int := if left < right then left else right

def maximum (left right : Int) : Int := if left > right then left else right

def saturatedU64Add (left right : Int) : Int :=
  if left > U64_MAX - right then U64_MAX else left + right

/-- `boundedBigint` and `boundedInteger`: the same range test on the two number kinds. -/
abbrev bounded (value minimumValue maximumValue : Int) : Checked Int :=
  inRange invalid value minimumValue maximumValue

def unsignedBigint (value : Int) : Checked Int := bounded value 0 U64_MAX

def positiveBigint (value : Int) : Checked Int := bounded value 1 U64_MAX

def signedBigint (value : Int) : Checked Int := bounded value I128_MIN I128_MAX

def nullableUnsignedBigint : Option Int → Checked (Option Int)
  | none => return none
  | some value => some <$> unsignedBigint value

def text (value : String) (maximumBytes : Nat) : Checked String := do
  require (value.length ≠ 0 ∧ value.utf8ByteSize ≤ maximumBytes) invalid
  return value

def isLowerHex (c : Char) : Bool := ('0' ≤ c ∧ c ≤ '9') ∨ ('a' ≤ c ∧ c ≤ 'f')

def fingerprintFrom (value : String) : Checked String := do
  require (value.length = 64 ∧ value.toList.all isLowerHex = true) invalid
  return value

def quoteMintAllowlistFrom (value : List String) : Checked (List String) := do
  require (value = [WSOL_MINT]) invalid
  return value

def policyInputFrom (value : ExecutionRiskPolicyInputV1) : Checked ExecutionRiskPolicyInputV1 := do
  let quoteMintAllowlist ← quoteMintAllowlistFrom value.quoteMintAllowlist
  let initialCapitalLamports ← unsignedBigint value.initialCapitalLamports
  let maximumCapitalLamports ← positiveBigint value.maximumCapitalLamports
  let positionSizeBps ← bounded value.positionSizeBps 1 1000
  let maximumOpenPositions ← bounded value.maximumOpenPositions 1 2
  let maximumTotalExposureBps ← bounded value.maximumTotalExposureBps 1 2000
  let drawdownPauseBps ← bounded value.drawdownPauseBps 1 2500
  let feeReserveLamports ← unsignedBigint value.feeReserveLamports
  let walletSnapshotMaxAgeMs ← bounded value.walletSnapshotMaxAgeMs 1 900000
  let providerUsageMaxAgeMs ← bounded value.providerUsageMaxAgeMs 30000 900000
  let providerEntryCostUnits ← positiveBigint value.providerEntryCostUnits
  let providerExitCostUnitsPerPosition ← positiveBigint value.providerExitCostUnitsPerPosition
  let providerConfirmationCostUnitsPerPosition ←
    positiveBigint value.providerConfirmationCostUnitsPerPosition
  let providerReconciliationCostUnitsPerPosition ←
    positiveBigint value.providerReconciliationCostUnitsPerPosition
  let providerSafetyMarginUnits ← unsignedBigint value.providerSafetyMarginUnits
  let maximumConsecutiveTechnicalFailures ←
    bounded value.maximumConsecutiveTechnicalFailures 2 2
  require (¬ (initialCapitalLamports > maximumCapitalLamports ∨
    feeReserveLamports > maximumCapitalLamports)) invalid
  return {
    quoteMintAllowlist, initialCapitalLamports, maximumCapitalLamports, positionSizeBps,
    maximumOpenPositions, maximumTotalExposureBps, drawdownPauseBps, feeReserveLamports,
    walletSnapshotMaxAgeMs, providerUsageMaxAgeMs, providerEntryCostUnits,
    providerExitCostUnitsPerPosition, providerConfirmationCostUnitsPerPosition,
    providerReconciliationCostUnitsPerPosition, providerSafetyMarginUnits,
    maximumConsecutiveTechnicalFailures }

/-- `JSON.stringify` of a string without characters that need escaping. -/
def jsonText (value : String) : String := "\"" ++ value ++ "\""

def jsonBigint (value : Int) : String := jsonText (toString value)

/-- The text hashed by `fingerprintPolicy`: bigints are quoted, numbers are not. -/
def fingerprintPayload (value : ExecutionRiskPolicyInputV1) : String :=
  "[" ++ String.intercalate "," [
    jsonText "execution-risk-policy-v1",
    "[" ++ String.intercalate "," (value.quoteMintAllowlist.map jsonText) ++ "]",
    jsonBigint value.initialCapitalLamports,
    jsonBigint value.maximumCapitalLamports,
    jsonBigint value.positionSizeBps,
    toString value.maximumOpenPositions,
    jsonBigint value.maximumTotalExposureBps,
    jsonBigint value.drawdownPauseBps,
    jsonBigint value.feeReserveLamports,
    toString value.walletSnapshotMaxAgeMs,
    toString value.providerUsageMaxAgeMs,
    jsonBigint value.providerEntryCostUnits,
    jsonBigint value.providerExitCostUnitsPerPosition,
    jsonBigint value.providerConfirmationCostUnitsPerPosition,
    jsonBigint value.providerReconciliationCostUnitsPerPosition,
    jsonBigint value.providerSafetyMarginUnits,
    toString value.maximumConsecutiveTechnicalFailures] ++ "]"

def fingerprintPolicy (sha256Hex : String → String) (value : ExecutionRiskPolicyInputV1) : String :=
  sha256Hex (fingerprintPayload value)

def createExecutionRiskPolicy (sha256Hex : String → String) (input : ExecutionRiskPolicyInputV1) :
    Checked ExecutionRiskPolicyV1 := catchInvalid do
  let fields ← policyInputFrom input
  return { fields with
    payloadVersion := 1
    policyFingerprint := fingerprintPolicy sha256Hex fields }

def policyFrom (sha256Hex : String → String) (value : ExecutionRiskPolicyV1) :
    Checked ExecutionRiskPolicyV1 := do
  require (value.payloadVersion = 1) invalid
  let policyFingerprint ← fingerprintFrom value.policyFingerprint
  let fields ← policyInputFrom value.toExecutionRiskPolicyInputV1
  require (policyFingerprint = fingerprintPolicy sha256Hex fields) invalid
  return { fields with payloadVersion := 1, policyFingerprint }

def positionFrom (value : ExecutionOpenPositionRiskInputV1) :
    Checked ExecutionOpenPositionRiskInputV1 := do
  let costBasisLamports ← unsignedBigint value.costBasisLamports
  let conservativeLiquidationLamports ←
    nullableUnsignedBigint value.conservativeLiquidationLamports
  return { value with costBasisLamports, conservativeLiquidationLamports }

/-- The loop of `positionsFrom`; `identities` are the ids met so far. -/
def positionsLoop (identities : List String) :
    List ExecutionOpenPositionRiskInputV1 → Checked (List ExecutionOpenPositionRiskInputV1)
  | [] => return []
  | value :: rest => do
    let positionId ← text value.positionId 128
    require (positionId ∉ identities) invalid
    let position ← positionFrom value
    let result ← positionsLoop (positionId :: identities) rest
    return position :: result

def positionsFrom (value : List ExecutionOpenPositionRiskInputV1) :
    Checked (List ExecutionOpenPositionRiskInputV1) := do
  require (value.length ≤ MAX_POSITION_INPUTS) invalid
  positionsLoop [] value

def riskInputFrom (sha256Hex : String → String) (value : ExecutionBuyRiskInputV1) :
    Checked ExecutionBuyRiskInputV1 := do
  let policy ← policyFrom sha256Hex value.policy
  let quoteMint ← text value.quoteMint 64
  let requestedQuoteAmountRaw ← positiveBigint value.requestedQuoteAmountRaw
  let realizedNetPnlLamports ← signedBigint value.realizedNetPnlLamports
  let reservedExposureLamports ← unsignedBigint value.reservedExposureLamports
  let openPositions ← positionsFrom value.openPositions
  let consecutiveTechnicalFailures ← bounded value.consecutiveTechnicalFailures 0 2147483647
  let lastTechnicalFailureReasonCode := value.lastTechnicalFailureReasonCode
  require (consecutiveTechnicalFailures = 0 ↔ lastTechnicalFailureReasonCode = none) invalid
  return {
    policy, quoteMint, requestedQuoteAmountRaw, realizedNetPnlLamports,
    reservedExposureLamports, openPositions, consecutiveTechnicalFailures,
    lastTechnicalFailureReasonCode }

def drawdownBasisPoints (loss capital : Int) : Int :=
  if loss = 0 then 0
  else if capital = 0 then BPS_DENOMINATOR
  else (loss * BPS_DENOMINATOR + capital - 1).tdiv capital

def rejectionReason (input : ExecutionBuyRiskInputV1) (positionLimitLamports
    totalExposureLimitLamports projectedExposureLamports drawdownBps : Int) :
    Option ExecutionBuyRiskReasonCode :=
  if input.quoteMint ∉ input.policy.quoteMintAllowlist then some .quoteMintNotAllowed
  else if input.openPositions.any (fun position => position.reconciliationStatus == .UNKNOWN) then
    some .reconciliationRequired
  else if input.consecutiveTechnicalFailures ≥ input.policy.maximumConsecutiveTechnicalFailures then
    some ((input.lastTechnicalFailureReasonCode.map (·.toBuyRisk)).getD .reconciliationRequired)
  else if input.requestedQuoteAmountRaw > positionLimitLamports then some .capitalLimitExceeded
  else if (input.openPositions.length : Int) ≥ input.policy.maximumOpenPositions ∨
      projectedExposureLamports > totalExposureLimitLamports then
    some .exposureLimitExceeded
  else if drawdownBps ≥ input.policy.drawdownPauseBps then some .drawdownLimitExceeded
  else none

def unrealizedLoss (position : ExecutionOpenPositionRiskInputV1) : Int :=
  maximum 0 (position.costBasisLamports - position.conservativeLiquidationLamports.getD 0)

/-- `evaluateBuyRisk` after `riskInputFrom` has accepted the fields. -/
def decision (fields : ExecutionBuyRiskInputV1) : ExecutionBuyRiskDecisionV1 :=
  let policy := fields.policy
  let rawCapital := policy.initialCapitalLamports + fields.realizedNetPnlLamports
  let reconciledCapitalLamports := minimum (maximum 0 rawCapital) policy.maximumCapitalLamports
  let capitalAfterFeeReserveLamports :=
    maximum 0 (reconciledCapitalLamports - policy.feeReserveLamports)
  let positionLimitLamports :=
    (capitalAfterFeeReserveLamports * policy.positionSizeBps).tdiv BPS_DENOMINATOR
  let totalExposureLimitLamports :=
    (reconciledCapitalLamports * policy.maximumTotalExposureBps).tdiv BPS_DENOMINATOR
  let projectedExposureLamports :=
    saturatedU64Add fields.reservedExposureLamports fields.requestedQuoteAmountRaw
  let conservativeUnrealizedLossLamports := fields.openPositions.foldl
    (fun sum position => saturatedU64Add sum (unrealizedLoss position)) 0
  let drawdownBps :=
    drawdownBasisPoints conservativeUnrealizedLossLamports reconciledCapitalLamports
  let reasonCode := rejectionReason fields positionLimitLamports totalExposureLimitLamports
    projectedExposureLamports drawdownBps
  { payloadVersion := 1
    kind := if reasonCode = none then .ADMISSIBLE else .REJECTED
    reasonCode, reconciledCapitalLamports, capitalAfterFeeReserveLamports,
    positionLimitLamports, totalExposureLimitLamports, projectedExposureLamports,
    conservativeUnrealizedLossLamports, drawdownBps
    openPositionCount := fields.openPositions.length }

def evaluateBuyRisk (sha256Hex : String → String) (input : ExecutionBuyRiskInputV1) :
    Checked ExecutionBuyRiskDecisionV1 := catchInvalid do
  let fields ← riskInputFrom sha256Hex input
  return decision fields

end SolTokenListener.Source.ExecutionRiskPolicy
