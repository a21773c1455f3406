import Mathlib.Data.List.Sort
import SolTokenListener.Source.PaperLedger

/-!
# Paper commands: snapshots, validation and hashes

Source: src/paper/paper-trading-engine.ts:428-1037. Snapshots copy and freeze the caller's
object; on immutable records only their value tests remain. SHA-256 over the serialized value
is the parameter `digest` on the value itself, one constructor of `HashInput` per hashed shape;
`stringifyJson` keeps its refusal of bigints above 78 digits.
-/

namespace SolTokenListener.Source.PaperCommand

open Lib.Checked
open Source.Chain Source.Qualification
open Source.PaperTrading Source.PaperLedger

/-! ## Errors -/

def invalidQuote (field : String) : PaperError :=
  .paperTrading .QUOTE_INVALID ("Commande paper invalide: " ++ field ++ ".")

def invalidQualification : PaperError :=
  .paperTrading .QUALIFICATION_INVALID
    "Rapport de qualification incohérent pour la commande paper."

def roundTripLossExceeded (lossBps : Int) : PaperError :=
  .paperTrading .ROUND_TRIP_LOSS_EXCEEDED
    ("Perte aller-retour " ++ toString lossBps ++ " bps supérieure au plafond.")

def conflict : PaperError :=
  .paperTrading .POSITION_CONFLICT "Commande contradictoire pour la position paper."

def positionNotFound : PaperError :=
  .paperTrading .POSITION_NOT_FOUND "Position paper introuvable."

/-! ## Hashes -/

structure LegacyQualification where
  id : String
  version : Int
  status : String
  minimumTotalScore : Int
  scores : QualificationScores
  evidence : List QualificationEvidence
  blockers : List QualificationBlocker
  verdict : QualificationVerdict
  evaluatedAtMs : Int
  deriving DecidableEq, Repr

/-- The two shapes a qualification is hashed in: the legacy one has neither `fingerprint` nor
`conditions`. -/
inductive QualificationContent where
  | report (value : QualificationReport)
  | legacy (value : LegacyQualification)
  deriving DecidableEq, Repr

/-- An open command without `expectedCurrentQualification`, `entryDecisionAtMs` and
`entryDecisionJobId`, its trigger reduced to the id. -/
structure OpenCommandContent where
  mint : String
  quoteAsset : QuoteAsset
  strategy : PaperStrategyIdentity
  trigger : String
  qualification : QualificationContent
  buyQuote : PaperExecutionQuote
  reverseSellQuote : PaperExecutionQuote
  maximumRoundTripLossBps : Int
  strategySessionId : Option String
  qualificationReportId : Option String
  candidateId : Option String
  deriving DecidableEq, Repr

/-- A close command without `exitTriggerAtMs`, its trigger reduced to the id. -/
structure CloseCommandContent where
  positionId : String
  trigger : String
  sellQuote : PaperExecutionQuote
  reason : String
  deriving DecidableEq, Repr

inductive HashInput where
  | paperPosition (mint strategyId : String) (strategyVersion : Int) (triggerId : String)
  | paperTrade (positionId : String) (side : PaperTradeSide)
  | evt (type : PaperEventType) (positionId tradeId triggerId : String)
  | paperOpenCommand (content : OpenCommandContent)
  | paperCloseCommand (content : CloseCommandContent)
  deriving DecidableEq, Repr

def HashInput.space : HashInput → String
  | .paperPosition .. => "paper_position"
  | .paperTrade .. => "paper_trade"
  | .evt .. => "evt"
  | .paperOpenCommand _ => "paper_open_command"
  | .paperCloseCommand _ => "paper_close_command"

def quoteBigints (quote : PaperExecutionQuote) : List Int :=
  [quote.amountInRaw, quote.amountOutRaw, quote.minimumAmountOutRaw, quote.feesRaw,
    quote.slippageBps, quote.priceImpactBps, quote.observedSlot]

def recordBigints (record : ConditionRecord) : List Int :=
  record.filterMap fun entry => match entry.2 with
    | .bigint value => some value
    | _ => none

def qualificationBigints : QualificationContent → List Int
  | .report value => value.conditions.flatMap fun condition =>
    recordBigints condition.observed ++ recordBigints condition.thresholds
  | .legacy _ => []

def HashInput.bigints : HashInput → List Int
  | .paperOpenCommand content =>
    qualificationBigints content.qualification ++ quoteBigints content.buyQuote ++
      quoteBigints content.reverseSellQuote ++ [content.maximumRoundTripLossBps]
  | .paperCloseCommand content => quoteBigints content.sellQuote
  | _ => []

variable (digest : HashInput → String) (report : QualificationReport)
variable (command : OpenPaperPositionCommand) (profile : EffectiveQualificationProfile)

/-- `hashId`: the hashed parts are strings and safe integers, so serialization cannot throw. -/
def hashId (input : HashInput) : String :=
  input.space ++ "_" ++ digest input

def hashValue (input : HashInput) : Checked String := do
  require (input.bigints.all fitsNumeric = true)
    (.rangeError "Serialized bigint exceeds 78 decimal digits.")
  return hashId digest input

structure OpenCommandHashes where
  current : String
  legacy : String
  deriving DecidableEq, Repr

def LEGACY_QUALIFICATION_EVIDENCE_ORDER : List QualificationSignalKey :=
  [.imageValid, .socialCrossLinkConfirmed, .creatorHasNotSold, .reverseQuoteAvailable,
    .externalBuyersObserved]

def legacyEvidenceIndex (signal : QualificationSignalKey) : Nat :=
  LEGACY_QUALIFICATION_EVIDENCE_ORDER.idxOf signal

def legacyEvidenceMessage : QualificationSignalKey → Option String
  | .imageValid => some "Préparation visuelle du lancement valide."
  | .socialCrossLinkConfirmed => some "Liens sociaux cohérents."
  | .creatorHasNotSold => some "Aucune vente précoce du créateur."
  | .reverseQuoteAvailable => some "Cotation inverse disponible."
  | .externalBuyersObserved => some "Acheteurs externes observés."
  | .descriptionAvailable | .linksReachable => none

def legacyQualificationSnapshot : LegacyQualification where
  id := report.ruleSet.id
  version := report.ruleSet.version
  status := report.ruleSet.status
  minimumTotalScore := report.ruleSet.minimumTotalScore
  scores := report.scores
  evidence := (report.evidence.insertionSort fun left right =>
      legacyEvidenceIndex left.signal ≤ legacyEvidenceIndex right.signal).map fun item =>
    { item with message := (legacyEvidenceMessage item.signal).getD item.message }
  blockers := report.blockers
  verdict := report.verdict
  evaluatedAtMs := report.evaluatedAtMs

def openCommandContent : OpenCommandContent where
  mint := command.mint
  quoteAsset := command.quoteAsset
  strategy := command.strategy
  trigger := command.trigger.id
  qualification := .report command.qualification
  buyQuote := command.buyQuote
  reverseSellQuote := command.reverseSellQuote
  maximumRoundTripLossBps := command.maximumRoundTripLossBps
  strategySessionId := command.strategySessionId
  qualificationReportId := command.qualificationReportId
  candidateId := command.candidateId

def closeCommandContent (command : ClosePaperPositionCommand) : CloseCommandContent where
  positionId := command.positionId
  trigger := command.trigger.id
  sellQuote := command.sellQuote
  reason := command.reason

def legacyOpenCommandContent : OpenCommandContent :=
  { openCommandContent command with
    qualification := .legacy (legacyQualificationSnapshot command.qualification) }

def hashOpenCommand : Checked OpenCommandHashes := do
  return {
    current := ← hashValue digest (.paperOpenCommand (openCommandContent command))
    legacy := ← hashValue digest (.paperOpenCommand (legacyOpenCommandContent command)) }

def matchesOpenCommandHash (position : PaperPosition) (hashes : OpenCommandHashes) : Bool :=
  position.openCommandHash = hashes.current ∨ position.openCommandHash = hashes.legacy

def paperEventId (type : PaperEventType) (positionId tradeId triggerId : String) : String :=
  hashId digest (.evt type positionId tradeId triggerId)

/-! ## Snapshots -/

def snapshotTrigger (trigger : DomainEvent) : Checked DomainEvent := do
  domainChecked (assertValidChainCursor trigger.cursor)
  domainChecked (assertValidNullableTimestampMs .blockchainTimeMs trigger.blockchainTimeMs)
  domainChecked (assertValidTimestampMs .observedAtMs trigger.observedAtMs)
  return trigger

def isNullableBasisPoints : ConditionValue → Bool
  | .null => true
  | .bigint value => 0 ≤ value ∧ value ≤ 10000
  | _ => false

def isNullableSafeInteger (minimum maximum : Int) : ConditionValue → Bool
  | .null => true
  | .number value => isSafeInteger value ∧ minimum ≤ value ∧ value ≤ maximum
  | _ => false

def isNullableBoolean : ConditionValue → Bool
  | .null => true
  | .boolean _ => true
  | _ => false

def observedConditionValueIsValid (key : String) (value : ConditionValue) : Bool :=
  if key ∈ ["top1HolderBps", "top5HoldersBps", "top10HoldersBps", "maximumRelatedClusterBps",
      "roundTripLossBps"] then isNullableBasisPoints value
  else if key = "maximumSharedFunderCount" then isNullableSafeInteger 0 MAX_SAFE_INTEGER value
  else if key ∈ ["buySimulationSucceeded", "sellQuoteAvailable"] then isNullableBoolean value
  else false

def thresholdConditionValueIsValid (key : String) (value : ConditionValue) : Bool :=
  if key ∈ ["maximumTop1Bps", "maximumTop5Bps", "maximumTop10Bps", "maximumClusterBps",
      "maximumRoundTripLossBps"] then isNullableBasisPoints value
  else if key = "minimumSharedFunders" then isNullableSafeInteger 1 10000 value
  else false

inductive ConditionRecordKind where
  | observed | thresholds
  deriving DecidableEq, Repr

def conditionRecordKeys (condition : QualificationConditionEvidence) (kind : ConditionRecordKind) :
    List String :=
  if condition.status = .DISABLED then []
  else match condition.code, kind with
    | .HOLDER_CONCENTRATION_EXCEEDED, .observed =>
      ["top1HolderBps", "top5HoldersBps", "top10HoldersBps"]
    | .HOLDER_CONCENTRATION_EXCEEDED, .thresholds =>
      ["maximumTop1Bps", "maximumTop5Bps", "maximumTop10Bps"]
    | .RELATED_WALLET_CLUSTER_EXCEEDED, .observed => ["maximumRelatedClusterBps"]
    | .RELATED_WALLET_CLUSTER_EXCEEDED, .thresholds => ["maximumClusterBps"]
    | .SHARED_FUNDER_CLUSTER, .observed => ["maximumSharedFunderCount"]
    | .SHARED_FUNDER_CLUSTER, .thresholds => ["minimumSharedFunders"]
    | .BUY_SIMULATION_FAILED, .observed => ["buySimulationSucceeded"]
    | .SELL_QUOTE_UNAVAILABLE, .observed => ["sellQuoteAvailable"]
    | .ROUND_TRIP_LOSS_EXCEEDED, .observed => ["roundTripLossBps"]
    | .ROUND_TRIP_LOSS_EXCEEDED, .thresholds => ["maximumRoundTripLossBps"]
    | _, _ => []

/-- The loop of `snapshotConditionRecord` over the expected keys. -/
def snapshotConditionEntries (value : ConditionRecord)
    (validValue : String → ConditionValue → Bool) : List String → Checked ConditionRecord
  | [] => return []
  | key :: keys => do
    match value.lookup key with
    | none => throw (.typeError
        "Qualification condition records must contain enumerable data values.")
    | some entry =>
      require (validValue key entry = true) (.typeError
        "Qualification condition records must contain enumerable data values.")
      return (key, entry) :: (← snapshotConditionEntries value validValue keys)

def snapshotConditionRecord (value : ConditionRecord) (expectedKeys : List String)
    (validValue : String → ConditionValue → Bool) : Checked ConditionRecord := do
  require (value.length = expectedKeys.length ∧
    expectedKeys.all (fun key => (value.lookup key).isSome) = true)
    (.typeError "Qualification condition record keys are invalid.")
  snapshotConditionEntries value validValue expectedKeys

def snapshotCondition (item : QualificationConditionEvidence) :
    Checked QualificationConditionEvidence := do
  return { item with
    observed := ← snapshotConditionRecord item.observed (conditionRecordKeys item .observed)
      observedConditionValueIsValid
    thresholds := ← snapshotConditionRecord item.thresholds (conditionRecordKeys item .thresholds)
      thresholdConditionValueIsValid }

def snapshotConditions : List QualificationConditionEvidence →
    Checked (List QualificationConditionEvidence)
  | [] => return []
  | item :: rest => do return (← snapshotCondition item) :: (← snapshotConditions rest)

def snapshotQualification : Checked QualificationReport := do
  return { report with conditions := ← snapshotConditions report.conditions }

/-- Without `strategySessionId` the other lineage fields are dropped, and without
`entryDecisionAtMs` so is the job id; a missing companion becomes `''`. -/
def snapshotOpenCommand (trigger : DomainEvent) : Checked OpenPaperPositionCommand := do
  let qualification ← snapshotQualification command.qualification
  return { command with
    trigger, qualification
    entryDecisionJobId := command.entryDecisionAtMs.map fun _ => command.entryDecisionJobId.getD ""
    qualificationReportId := command.strategySessionId.bind fun _ => command.qualificationReportId
    candidateId := command.strategySessionId.bind fun _ => command.candidateId
    expectedCurrentQualification := command.strategySessionId.map fun _ =>
      command.expectedCurrentQualification.getD ⟨"", "", ""⟩ }

def snapshotCloseCommand (command : ClosePaperPositionCommand) :
    Checked ClosePaperPositionCommand := do
  return { command with trigger := ← snapshotTrigger command.trigger }

/-! ## Validation -/

/-- `new Map(items.map((item) => [item.code, item])).get(code)`: the last entry wins. -/
def policyOf (code : QualificationReasonCode) : Option QualificationConditionPolicy :=
  profile.conditionPolicies.reverse.find? (·.code = code)

def conditionOf (code : QualificationReasonCode) : Option QualificationConditionEvidence :=
  report.conditions.reverse.find? (·.code = code)

def nullableBigInt : Option Int → ConditionValue
  | none => .null
  | some value => .bigint value

def nullableNumber : Option Int → ConditionValue
  | none => .null
  | some value => .number value

def expectedPolicyThresholds (policy : QualificationConditionPolicy) : ConditionRecord :=
  if policy.mode = .DISABLED then []
  else match policy.code with
    | .HOLDER_CONCENTRATION_EXCEEDED => [
        ("maximumTop1Bps", nullableBigInt policy.maximumTop1Bps),
        ("maximumTop5Bps", nullableBigInt policy.maximumTop5Bps),
        ("maximumTop10Bps", nullableBigInt policy.maximumTop10Bps)]
    | .RELATED_WALLET_CLUSTER_EXCEEDED =>
      [("maximumClusterBps", nullableBigInt policy.maximumClusterBps)]
    | .SHARED_FUNDER_CLUSTER =>
      [("minimumSharedFunders", nullableNumber policy.minimumSharedFunders)]
    | .ROUND_TRIP_LOSS_EXCEEDED =>
      [("maximumRoundTripLossBps", nullableBigInt policy.maximumRoundTripLossBps)]
    | _ => []

def matchesPolicyThresholds (condition : QualificationConditionEvidence)
    (policy : QualificationConditionPolicy) : Bool :=
  let expected := expectedPolicyThresholds policy
  condition.thresholds.length = expected.length ∧
    expected.all fun entry => condition.thresholds.lookup entry.1 = some entry.2

/-- One turn of the loop of `validateQualificationReport`, on the code at the same index. -/
def conditionMatches (condition : QualificationConditionEvidence) (code : QualificationReasonCode) :
    Bool :=
  condition.code = code ∧
    (condition.mode = .DISABLED ↔ condition.status = .DISABLED) ∧
    (policyOf profile condition.code).any fun policy =>
      condition.mode = policy.mode ∧ matchesPolicyThresholds condition policy

def enforcedTriggers : List QualificationReasonCode :=
  (report.conditions.filter fun condition =>
    condition.mode = .ENFORCED ∧ condition.status = .TRIGGERED).map (·.code)

def validateQualificationReport : Checked Unit := do
  require (report.ruleSet.id = profile.id ∧ report.ruleSet.version = profile.version ∧
    report.ruleSet.status = profile.status ∧ report.ruleSet.fingerprint = profile.fingerprint ∧
    report.ruleSet.minimumTotalScore = profile.minimumTotalScore) invalidQualification
  require (report.conditions.length = QUALIFICATION_REASON_CODES.length) invalidQualification
  require ((report.conditions.zip QUALIFICATION_REASON_CODES).all
    (fun entry => conditionMatches profile entry.1 entry.2) = true) invalidQualification
  require (report.blockers.map (·.code) = enforcedTriggers report) invalidQualification
  require (report.verdict = .REJECTED ↔ 0 < (enforcedTriggers report).length) invalidQualification

def isEnforced (policy : Option QualificationConditionPolicy) : Bool :=
  policy.any (·.mode = .ENFORCED)

def observes (condition : Option QualificationConditionEvidence) (key : String)
    (value : ConditionValue) : Bool :=
  condition.any fun evidence => evidence.observed.lookup key = some value

def validateQualificationExecutionFacts (roundTripLossBps : Int)
    (profile : EffectiveQualificationProfile) : Checked Unit := do
  let buyPolicy := policyOf profile .BUY_SIMULATION_FAILED
  let sellPolicy := policyOf profile .SELL_QUOTE_UNAVAILABLE
  let roundTripPolicy := policyOf profile .ROUND_TRIP_LOSS_EXCEEDED
  require (buyPolicy.isSome ∧ sellPolicy.isSome ∧ roundTripPolicy.isSome) invalidQualification
  require (isEnforced buyPolicy → observes (conditionOf report .BUY_SIMULATION_FAILED)
    "buySimulationSucceeded" (.boolean true)) invalidQualification
  require (isEnforced sellPolicy → observes (conditionOf report .SELL_QUOTE_UNAVAILABLE)
    "sellQuoteAvailable" (.boolean true)) invalidQualification
  if isEnforced roundTripPolicy then
    require (observes (conditionOf report .ROUND_TRIP_LOSS_EXCEEDED) "roundTripLossBps"
      (.bigint roundTripLossBps)) invalidQualification
    match roundTripPolicy.bind (·.maximumRoundTripLossBps) with
    | none => throw invalidQualification
    | some maximum => require (¬ roundTripLossBps > maximum) (roundTripLossExceeded roundTripLossBps)

def isCreationEntry (strategy : PaperStrategyIdentity) : Bool := strategy.id = "creation-entry-v1"

def lineage : List (Option String) :=
  [command.strategySessionId, command.qualificationReportId, command.candidateId]

def validateEntryDecisionAt : Checked Unit :=
  match command.entryDecisionAtMs with
  | none => return ()
  | some entryDecisionAtMs => do
    domainChecked (assertValidTimestampMs .occurredAtMs entryDecisionAtMs)
    require (¬ entryDecisionAtMs > command.buyQuote.observedAtMs)
      (invalidQuote "buyQuote.observedAtMs")

def validateOpenCommand (allowlist : List String) (profile : EffectiveQualificationProfile)
    (openedAtMs : Int) : Checked Unit := do
  require (isBlank command.mint = false ∧ command.trigger.mint = command.mint) (invalidQuote "mint")
  let creationEntry := isCreationEntry command.strategy
  require (¬ ((command.entryDecisionAtMs.isNone ≠ command.entryDecisionJobId.isNone) ∨
    (creationEntry = true ∧
      (command.entryDecisionAtMs = none ∨ command.entryDecisionJobId = none))))
    (invalidQuote "entryDecision")
  validateEntryDecisionAt command
  require (command.entryDecisionJobId.any isBlank = false) (invalidQuote "entryDecisionJobId")
  require (¬ (creationEntry = true ∧ command.buyQuote.observedAtMs > openedAtMs))
    (invalidQuote "buyQuote.observedAtMs")
  require (isBlank command.strategy.id = false ∧ isSafeInteger command.strategy.version = true ∧
    ¬ command.strategy.version ≤ 0) (invalidQuote "strategy")
  require (¬ ((lineage command).any Option.isSome = true ∧
    ((lineage command).any Option.isNone = true ∨
      (lineage command).any (fun value => value.any isBlank) = true)))
    (invalidQuote "paper lineage")
  require (command.strategySessionId = none ∨ command.expectedCurrentQualification.any
    (fun identity => identity.mint = command.mint ∧
      some identity.reportId = command.qualificationReportId ∧
      identity.qualificationEventId = command.trigger.id) = true)
    (invalidQuote "current qualification")
  validateQualificationReport command.qualification profile
  require (command.qualification.blockers.length = 0)
    (.paperTrading .QUALIFICATION_BLOCKED "La qualification contient un blocker.")
  require (command.qualification.verdict = .QUALIFIED)
    (.paperTrading .QUALIFICATION_NOT_ACCEPTED "Le lancement n’est pas qualifié.")
  require (command.quoteAsset.mint ∈ allowlist)
    (.paperTrading .QUOTE_MINT_NOT_ALLOWED "Quote mint non autorisé en paper V1.")
  require (command.buyQuote.inputMint = command.quoteAsset.mint ∧
    command.buyQuote.outputMint = command.mint) (invalidQuote "buyQuote")
  require (¬ (command.maximumRoundTripLossBps < 0 ∨ command.maximumRoundTripLossBps > 10000))
    (invalidQuote "maximumRoundTripLossBps")

def rejectOrphanedTrigger (trigger : DomainEvent) : Checked Unit :=
  require (trigger.confirmationStatus ≠ .orphaned) (.paperTrading .TRIGGER_ORPHANED
    "Un événement orphaned ne peut pas déclencher une action paper.")

def validateExitTriggerAt (command : ClosePaperPositionCommand) (position : PaperPosition) :
    Checked Unit :=
  if isCreationEntry position.strategy then
    match command.exitTriggerAtMs with
    | none => require (command.reason = "MANUAL_KILL_SWITCH") (invalidQuote "exitTriggerAtMs")
    | some exitTriggerAtMs =>
      domainChecked (assertValidTimestampMs .occurredAtMs exitTriggerAtMs)
  else return ()

def validateCloseCommand (command : ClosePaperPositionCommand) (position : PaperPosition) :
    Checked Unit := do
  rejectOrphanedTrigger command.trigger
  validateExitTriggerAt command position
  require (command.trigger.mint = position.mint) (invalidQuote "trigger.mint")
  require (isBlank command.reason = false) (invalidQuote "reason")
  require (command.sellQuote.inputMint = position.mint ∧
    command.sellQuote.outputMint = position.quoteAsset.mint ∧
    command.sellQuote.amountInRaw = position.remainingBaseRaw) (invalidQuote "sellQuote")

end SolTokenListener.Source.PaperCommand
