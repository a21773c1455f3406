import SolTokenListener.Source.CreationEntryStrategy
import SolTokenListener.Source.SafetyQualification

/-!
# Trading candidates

Source: src/application/trading-candidate.service.ts:14-247, src/domain/trading-candidate.ts:12-204.
Numbers are integers: a sum of two of them that leaves the safe range is refused where it is stored, and
compares with a clock as its exact value does. SHA-256 is a parameter. Of the snapshot, the report and
the launch the fields that are read are kept.
-/

namespace SolTokenListener.Source.TradingCandidate

open Lib.Checked
open Source.Chain Source.Qualification
open Source.PaperTrading
open Source.PaperStrategy (PaperDecisionReasonCode PaperMinimumConfirmation
  TradingCandidateAsOf isTrimmedText confirmationReached createDeterministicDerivedEventId)
open Source.CreationEntryStrategy (BondingCurveTradeObservedEvent MarketTrade)
open Source.SafetyQualification (isHexId)

inductive TradingCandidateState where
  | NOT_ELIGIBLE | ELIGIBLE | EXPIRED | REVOKED
  deriving DecidableEq, Repr

structure QualificationProfileIdentity where
  id : String
  version : Int
  fingerprint : String
  deriving DecidableEq, Repr

structure CreateTradingCandidateInput where
  mint : String
  strategy : PaperStrategyIdentity
  qualificationReportId : String
  qualificationProfile : QualificationProfileIdentity
  evidenceFingerprint : String
  asOfEvent : DomainEvent
  state : TradingCandidateState
  quoteAsset : QuoteAsset
  buyQuote : Option PaperExecutionQuote
  reverseSellQuote : Option PaperExecutionQuote
  eligibleUntilMs : Option Int
  reasonCodes : List PaperDecisionReasonCode
  createdAtMs : Int
  purgeAfterMs : Int

structure TradingCandidateV1 where
  id : String
  mint : String
  strategy : PaperStrategyIdentity
  qualificationReportId : String
  qualificationProfile : QualificationProfileIdentity
  evidenceFingerprint : String
  asOf : TradingCandidateAsOf
  state : TradingCandidateState
  quoteAsset : QuoteAsset
  buyQuote : Option PaperExecutionQuote
  reverseSellQuote : Option PaperExecutionQuote
  eligibleUntilMs : Option Int
  reasonCodes : List PaperDecisionReasonCode
  createdAtMs : Int
  purgeAfterMs : Int
  deriving DecidableEq, Repr

/-- The digest of the canonical JSON of a candidate, beside those of the strategies. -/
structure Digests extends PaperStrategy.Digests where
  hashCandidate : TradingCandidateV1 → String

/-! ## The checked constructor -/

def text (value field : String) : Checked Unit :=
  require (isTrimmedText value = true ∧ value.utf8ByteSize ≤ 4096)
    (.typeError ("Candidate " ++ field ++ " is invalid."))

def positiveInteger (value : Int) (field : String) : Checked Unit :=
  require (isSafeInteger value = true ∧ 0 < value)
    (.typeError ("Candidate " ++ field ++ " is invalid."))

def fingerprint (value field : String) : Checked Unit :=
  require (isHexId "" value = true) (.typeError ("Candidate " ++ field ++ " is invalid."))

def timestamp (value : Int) : Checked Unit :=
  domainChecked (assertValidTimestampMs .observedAtMs value)

def validateQuoteAsset (asset : QuoteAsset) : Checked Unit := do
  text asset.mint "quote mint"
  require (0 ≤ asset.decimals ∧ asset.decimals ≤ 255)
    (.typeError "Candidate quote asset decimals are invalid.")

def validateQuote (inputMint outputMint : String) : Option PaperExecutionQuote → Checked Unit
  | none => return ()
  | some quote => do
    require (quote.id ≠ "" ∧ quote.inputMint = inputMint ∧ quote.outputMint = outputMint ∧
        0 < quote.amountInRaw ∧ 0 < quote.amountOutRaw ∧ 0 < quote.minimumAmountOutRaw ∧
        quote.minimumAmountOutRaw ≤ quote.amountOutRaw ∧ 0 ≤ quote.feesRaw ∧
        0 ≤ quote.slippageBps ∧ quote.slippageBps ≤ 10000 ∧
        0 ≤ quote.priceImpactBps ∧ quote.priceImpactBps ≤ 10000 ∧ 0 ≤ quote.observedSlot)
      (.typeError "Candidate quote is incoherent.")
    timestamp quote.observedAtMs

def validateEligibleWindow (createdAtMs : Int) : Option Int → Checked Unit
  | none => return ()
  | some eligibleUntilMs => do
    timestamp eligibleUntilMs
    require (createdAtMs < eligibleUntilMs) (.typeError "Candidate eligible window is invalid.")

/-- The reverse quote sells what the BUY conservatively fills. -/
def matchesFill (buyQuote reverseSellQuote : Option PaperExecutionQuote) : Bool :=
  match buyQuote, reverseSellQuote with
  | some buy, some reverse => reverse.amountInRaw = buy.minimumAmountOutRaw
  | _, _ => true

def validateCandidate (input : CreateTradingCandidateInput) : Checked Unit := do
  text input.mint "mint"
  text input.strategy.id "strategy id"
  positiveInteger input.strategy.version "strategy version"
  text input.qualificationReportId "qualification report id"
  text input.qualificationProfile.id "qualification profile id"
  positiveInteger input.qualificationProfile.version "qualification profile version"
  fingerprint input.qualificationProfile.fingerprint "qualification profile fingerprint"
  fingerprint input.evidenceFingerprint "evidence fingerprint"
  text input.asOfEvent.id "asOf event id"
  require (input.asOfEvent.mint = input.mint)
    (.typeError "Candidate asOf event mint is inconsistent.")
  domainChecked (assertValidChainCursor input.asOfEvent.cursor)
  timestamp input.asOfEvent.observedAtMs
  validateQuoteAsset input.quoteAsset
  require input.reasonCodes.Nodup (.typeError "Candidate reason codes are invalid.")
  timestamp input.createdAtMs
  timestamp input.purgeAfterMs
  require (input.createdAtMs < input.purgeAfterMs) (.typeError "Candidate purge date is invalid.")
  validateEligibleWindow input.createdAtMs input.eligibleUntilMs
  require (input.state = .ELIGIBLE → input.buyQuote.isSome = true ∧
      input.reverseSellQuote.isSome = true ∧ input.eligibleUntilMs.isSome = true)
    (.typeError "Eligible candidate requires coherent quotes and an eligible window.")
  validateQuote input.quoteAsset.mint input.mint input.buyQuote
  validateQuote input.mint input.quoteAsset.mint input.reverseSellQuote
  require (matchesFill input.buyQuote input.reverseSellQuote = true)
    (.typeError "Candidate reverse quote does not match the conservative BUY fill.")

def createTradingCandidate (digests : Digests) (input : CreateTradingCandidateInput) :
    Checked TradingCandidateV1 := do
  validateCandidate input
  return {
    id := "candidate_" ++ digests.hash [input.mint, input.strategy.id,
      toString input.strategy.version, input.qualificationProfile.id,
      toString input.qualificationProfile.version, input.qualificationProfile.fingerprint,
      input.evidenceFingerprint, input.asOfEvent.id,
      match input.asOfEvent.confirmationStatus with
      | .processed => "processed"
      | .confirmed => "confirmed"
      | .finalized => "finalized"
      | .orphaned => "orphaned"]
    mint := input.mint
    strategy := input.strategy
    qualificationReportId := input.qualificationReportId
    qualificationProfile := input.qualificationProfile
    evidenceFingerprint := input.evidenceFingerprint
    asOf := {
      eventId := input.asOfEvent.id
      cursor := input.asOfEvent.cursor
      confirmationStatus := input.asOfEvent.confirmationStatus
      observedAtMs := input.asOfEvent.observedAtMs }
    state := input.state
    quoteAsset := input.quoteAsset
    buyQuote := input.buyQuote
    reverseSellQuote := input.reverseSellQuote
    eligibleUntilMs := input.eligibleUntilMs
    reasonCodes := input.reasonCodes
    createdAtMs := input.createdAtMs
    purgeAfterMs := input.purgeAfterMs }

/-! ## The service -/

structure TradingCandidateServiceOptions where
  strategy : PaperStrategyIdentity
  quoteMintAllowlist : List String
  minimumConfirmation : PaperMinimumConfirmation
  entryWindowMs : Int
  maximumQuoteAgeMs : Int
  maximumQuoteSlotLag : Int
  retentionMs : Int
  creationEntryMaxAgeMs : Option Int
  creationEntryMaxSlotLag : Option Int
  deriving DecidableEq, Repr

def isCreationStrategy (options : TradingCandidateServiceOptions) : Bool :=
  options.strategy.id = "creation-entry-v1"

def validateOptions (options : TradingCandidateServiceOptions) : Checked Unit :=
  require (options.strategy.id ≠ "" ∧ isSafeInteger options.strategy.version = true ∧
      0 < options.strategy.version ∧ options.quoteMintAllowlist ≠ [] ∧
      options.quoteMintAllowlist.Nodup ∧ "" ∉ options.quoteMintAllowlist ∧
      isSafeInteger options.entryWindowMs = true ∧ 0 < options.entryWindowMs ∧
      isSafeInteger options.maximumQuoteAgeMs = true ∧ 0 ≤ options.maximumQuoteAgeMs ∧
      0 ≤ options.maximumQuoteSlotLag ∧ options.retentionMs = 14400000 ∧
      (isCreationStrategy options = true →
        options.creationEntryMaxAgeMs.any (fun age => isSafeInteger age && decide (0 < age)) = true ∧
        options.creationEntryMaxSlotLag.any (fun lag => decide (0 ≤ lag)) = true))
    (.typeError "Trading candidate service options are invalid.")

structure TokenLaunch where
  mint : String
  creator : String
  quoteAssets : List QuoteAsset
  createdAt : ChainCursor

structure PaperDecisionSnapshot where
  mint : String
  asOfEvent : DomainEvent
  canonicalLaunchActive : Bool
  launch : TokenLaunch
  launchDetectedAtMs : Int
  launchConfirmationStatus : ChainConfirmationStatus
  activeLaunchTrades : List BondingCurveTradeObservedEvent
  activeMarketTrades : List MarketTrade
  currentCandidate : Option TradingCandidateV1
  activePosition : Option PaperPosition

structure TradingCandidateInput where
  snapshot : PaperDecisionSnapshot
  report : QualificationReport
  reportId : String
  qualificationEvent : DomainEvent
  evidenceFingerprint : String
  quoteAsset : QuoteAsset
  buyQuote : Option PaperExecutionQuote
  reverseSellQuote : Option PaperExecutionQuote
  nowMs : Int

structure TradingCandidateResult where
  candidate : TradingCandidateV1
  event : DomainEvent

/-- A service that was built: its options passed the constructor's check. -/
structure TradingCandidateService where
  options : TradingCandidateServiceOptions
  valid : validateOptions options = .ok ()

def validateInput (input : TradingCandidateInput) : Checked Unit :=
  require (input.snapshot.mint = input.qualificationEvent.mint ∧
      input.snapshot.mint = input.snapshot.launch.mint ∧
      isHexId "qreport_" input.reportId = true ∧ isHexId "" input.evidenceFingerprint = true ∧
      isSafeInteger input.nowMs = true ∧ 0 ≤ input.nowMs)
    (.typeError "Trading candidate input is invalid.")

def coherentQuotePair (input : TradingCandidateInput) : Bool :=
  match input.buyQuote, input.reverseSellQuote with
  | some buy, some reverse =>
    buy.inputMint = input.quoteAsset.mint ∧ buy.outputMint = input.snapshot.mint ∧
      reverse.inputMint = input.snapshot.mint ∧ reverse.outputMint = input.quoteAsset.mint ∧
      reverse.amountInRaw = buy.minimumAmountOutRaw
  | _, _ => false

def freshQuote (quote : PaperExecutionQuote) (nowMs maximumAgeMs : Int) : Bool :=
  quote.observedAtMs ≤ nowMs ∧ nowMs - quote.observedAtMs ≤ maximumAgeMs

def slotDistance (left right : Int) : Int :=
  if left > right then left - right else right - left

section Service

variable (options : TradingCandidateServiceOptions) (input : TradingCandidateInput)

def lagsLaunch (maximumSlotLag : Int) (quote : Option PaperExecutionQuote) : Bool :=
  quote.any fun quote => quote.observedSlot < input.snapshot.launch.createdAt.slot ∨
    quote.observedSlot - input.snapshot.launch.createdAt.slot > maximumSlotLag

def creationEntryRejected : Bool :=
  if !isCreationStrategy options then false
  else if !input.snapshot.canonicalLaunchActive ||
      !confirmationReached input.snapshot.launchConfirmationStatus options.minimumConfirmation then
    true
  else
    let maximumSlotLag := options.creationEntryMaxSlotLag.getD options.maximumQuoteSlotLag
    lagsLaunch input maximumSlotLag input.buyQuote ||
      lagsLaunch input maximumSlotLag input.reverseSellQuote ||
      input.snapshot.activeLaunchTrades.any (fun event =>
        event.trade.kind = .SELL ∧ event.trade.trader = some input.snapshot.launch.creator ∧
          event.event.confirmationStatus ≠ .orphaned) ||
      input.snapshot.activeMarketTrades.any fun trade =>
        trade.kind = .SELL ∧ trade.trader = some input.snapshot.launch.creator ∧
          trade.confirmationStatus ≠ .orphaned

/-- What the quotes of an entry must meet besides being there. -/
def acceptableQuotes : Bool :=
  match input.buyQuote, input.reverseSellQuote with
  | some buy, some reverse =>
    coherentQuotePair input ∧ freshQuote buy input.nowMs options.maximumQuoteAgeMs ∧
      freshQuote reverse input.nowMs options.maximumQuoteAgeMs ∧
      slotDistance buy.observedSlot reverse.observedSlot ≤ options.maximumQuoteSlotLag
  | _, _ => false

def state (eligibleUntilMs : Int) : TradingCandidateState :=
  if input.qualificationEvent.confirmationStatus = .orphaned then .REVOKED
  else if input.nowMs > eligibleUntilMs then .EXPIRED
  else if input.report.verdict ≠ .QUALIFIED ∨ input.report.blockers ≠ [] ∨
      confirmationReached input.qualificationEvent.confirmationStatus
        options.minimumConfirmation = false ∨
      input.quoteAsset.mint ∉ options.quoteMintAllowlist ∨
      input.quoteAsset ∉ input.snapshot.launch.quoteAssets ∨
      input.snapshot.activePosition.isSome = true ∨ acceptableQuotes options input = false ∨
      creationEntryRejected options input = true then .NOT_ELIGIBLE
  else .ELIGIBLE

/-- The candidate of this strategy that the snapshot already has. -/
def existing : Option TradingCandidateV1 :=
  input.snapshot.currentCandidate.filter fun candidate => candidate.strategy = options.strategy

def createdAtMs : Int :=
  if isCreationStrategy options then input.snapshot.launchDetectedAtMs
  else ((existing options input).map (·.createdAtMs)).getD input.snapshot.asOfEvent.observedAtMs

/-- The configured window. -/
def windowMs : Int :=
  if isCreationStrategy options then options.creationEntryMaxAgeMs.getD options.entryWindowMs
  else options.entryWindowMs

def eligibleUntilMs : Int :=
  ((existing options input).bind (·.eligibleUntilMs)).getD
    (createdAtMs options input + windowMs options)

def reasonCode (state : TradingCandidateState) : PaperDecisionReasonCode :=
  match state with
  | .ELIGIBLE => .QUALIFIED_ENTRY
  | .EXPIRED => if isCreationStrategy options then .CREATION_ENTRY_EXPIRED else .ENTRY_WINDOW_EXPIRED
  | .REVOKED => .SOURCE_ORPHANED
  | .NOT_ELIGIBLE =>
    if isCreationStrategy options then .CREATION_ENTRY_REJECTED else .QUALIFICATION_NOT_ELIGIBLE

def candidateInput : CreateTradingCandidateInput :=
  let deadline := eligibleUntilMs options input
  let decided := state options input deadline
  let quotesCoherent := coherentQuotePair input
  { mint := input.snapshot.mint
    strategy := options.strategy
    qualificationReportId := input.reportId
    qualificationProfile := {
      id := input.report.ruleSet.id
      version := input.report.ruleSet.version
      fingerprint := input.report.ruleSet.fingerprint }
    evidenceFingerprint := input.evidenceFingerprint
    asOfEvent := input.qualificationEvent
    state := decided
    quoteAsset := input.quoteAsset
    buyQuote := if quotesCoherent then input.buyQuote else none
    reverseSellQuote := if quotesCoherent then input.reverseSellQuote else none
    eligibleUntilMs := if decided = .ELIGIBLE then some deadline else none
    reasonCodes := [reasonCode options decided]
    createdAtMs := createdAtMs options input
    purgeAfterMs := createdAtMs options input + options.retentionMs }

def candidateEvent (digests : Digests) (candidate : TradingCandidateV1) : Checked DomainEvent := do
  let event := input.qualificationEvent
  let id ← createDeterministicDerivedEventId digests.toDigests "TradingCandidateUpdated"
    candidate.mint "paper-decision" event.program event.signature event.cursor
    (candidate.id ++ ":" ++ digests.hashCandidate candidate)
  return { event with id := id, mint := candidate.mint, observedAtMs := candidate.createdAtMs }

end Service

def create (service : TradingCandidateService) (digests : Digests) (input : TradingCandidateInput) :
    Checked TradingCandidateResult := do
  validateInput input
  let candidate ← createTradingCandidate digests (candidateInput service.options input)
  let event ← candidateEvent input digests candidate
  return ⟨candidate, event⟩

end SolTokenListener.Source.TradingCandidate
