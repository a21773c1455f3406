/-!
# Qualification reports and the effective profile

Source: src/domain/qualification.ts:1-121, 340-386; src/domain/qualification-reasons.ts:1-18.
Only the data is here; the engine that evaluates a report is not. Condition records map own
keys, in order, to the four value kinds the source allows. Profile fields that no modelled
function reads (rules, dimension maximums, schema version) are left out.
-/

namespace SolTokenListener.Source.Qualification

inductive QualificationDimension where
  | preparation | socialAuthenticity | onchainHealth
  deriving DecidableEq, Repr

inductive QualificationVerdict where
  | QUALIFIED | WATCHLISTED | REJECTED
  deriving DecidableEq, Repr

inductive QualificationEvidenceStatus where
  | SATISFIED | NOT_SATISFIED | UNKNOWN
  deriving DecidableEq, Repr

inductive QualificationConditionMode where
  | DISABLED | REPORT_ONLY | ENFORCED
  deriving DecidableEq, Repr

inductive QualificationConditionStatus where
  | PASSED | TRIGGERED | UNKNOWN | NOT_CONFIGURED | DISABLED
  deriving DecidableEq, Repr

inductive QualificationSignalKey where
  | imageValid | descriptionAvailable | linksReachable | socialCrossLinkConfirmed
  | creatorHasNotSold | reverseQuoteAvailable | externalBuyersObserved
  deriving DecidableEq, Repr

inductive QualificationReasonCode where
  | CREATOR_EARLY_SELL | CREATOR_REPEAT_DUMPER | MINT_SOCIAL_MISMATCH
  | IMPERSONATION_SUSPECTED | HOLDER_CONCENTRATION_EXCEEDED | RELATED_WALLET_CLUSTER_EXCEEDED
  | SHARED_FUNDER_CLUSTER | BUY_SIMULATION_FAILED | SELL_QUOTE_UNAVAILABLE
  | ROUND_TRIP_LOSS_EXCEEDED | STALE_DATA | UNSUPPORTED_TOKEN_EXTENSION
  | METADATA_FETCH_FAILED | UNSUPPORTED_QUOTE_MINT
  deriving DecidableEq, Repr

def QUALIFICATION_REASON_CODES : List QualificationReasonCode := [
  .CREATOR_EARLY_SELL, .CREATOR_REPEAT_DUMPER, .MINT_SOCIAL_MISMATCH,
  .IMPERSONATION_SUSPECTED, .HOLDER_CONCENTRATION_EXCEEDED, .RELATED_WALLET_CLUSTER_EXCEEDED,
  .SHARED_FUNDER_CLUSTER, .BUY_SIMULATION_FAILED, .SELL_QUOTE_UNAVAILABLE,
  .ROUND_TRIP_LOSS_EXCEEDED, .STALE_DATA, .UNSUPPORTED_TOKEN_EXTENSION,
  .METADATA_FETCH_FAILED, .UNSUPPORTED_QUOTE_MINT]

/-- `bigint | number | boolean | null`. -/
inductive ConditionValue where
  | bigint (value : Int)
  | number (value : Int)
  | boolean (value : Bool)
  | null
  deriving DecidableEq, Repr

abbrev ConditionRecord := List (String × ConditionValue)

structure QualificationConditionPolicy where
  code : QualificationReasonCode
  mode : QualificationConditionMode
  maximumTop1Bps : Option Int
  maximumTop5Bps : Option Int
  maximumTop10Bps : Option Int
  maximumClusterBps : Option Int
  minimumSharedFunders : Option Int
  maximumRoundTripLossBps : Option Int
  deriving DecidableEq, Repr

structure EffectiveQualificationProfile where
  id : String
  version : Int
  status : String
  minimumTotalScore : Int
  fingerprint : String
  conditionPolicies : List QualificationConditionPolicy
  deriving DecidableEq, Repr

structure QualificationConditionEvidence where
  code : QualificationReasonCode
  mode : QualificationConditionMode
  status : QualificationConditionStatus
  observed : ConditionRecord
  thresholds : ConditionRecord
  message : String
  deriving DecidableEq, Repr

structure QualificationEvidence where
  signal : QualificationSignalKey
  dimension : QualificationDimension
  status : QualificationEvidenceStatus
  required : Bool
  weight : Int
  message : String
  deriving DecidableEq, Repr

structure QualificationScore where
  score : Int
  maximum : Int
  deriving DecidableEq, Repr

structure QualificationScores where
  preparation : QualificationScore
  socialAuthenticity : QualificationScore
  onchainHealth : QualificationScore
  total : QualificationScore
  deriving DecidableEq, Repr

structure QualificationBlocker where
  code : QualificationReasonCode
  message : String
  deriving DecidableEq, Repr

structure QualificationReportRuleSet where
  id : String
  version : Int
  status : String
  fingerprint : String
  minimumTotalScore : Int
  deriving DecidableEq, Repr

structure QualificationReport where
  ruleSet : QualificationReportRuleSet
  scores : QualificationScores
  evidence : List QualificationEvidence
  conditions : List QualificationConditionEvidence
  blockers : List QualificationBlocker
  verdict : QualificationVerdict
  evaluatedAtMs : Int
  deriving DecidableEq, Repr

end SolTokenListener.Source.Qualification
