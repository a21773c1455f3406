import SolTokenListener.Lib.FirstByKey
import SolTokenListener.Source.PaperStrategy
import SolTokenListener.Source.PaperTradingEngine

/-!
# Reconciliation of a creation-entry position

Source: src/application/creation-entry-v1.strategy.ts:56-78, 378-587, 590-735, 747-813 and
src/ports/paper-quote-router.ts. The quote router's answer is an argument, and so is the paper
ledger: `decideReconcile` runs up to the close command and `completeExit` from the position the
ledger returns. `localeCompare` is a parameter that orders strings; `Array.prototype.sort` is
stable, so it is the insertion sort. Entry, source and evidence reconciliation are not here.
-/

namespace SolTokenListener.Source.CreationEntryStrategy

open Lib.Checked Lib.FirstByKey
open Source.Chain Source.PaperTrading
open Source.PaperLedger
open Source.PaperStrategy Source.PaperTradingEngine

/-! ## Inputs -/

/-- The options the constructor accepts. -/
structure CreationEntryOptions where
  retentionMs : Int
  externalMinimumBuyAmountRaw : Int
  takeProfitMultiplierBps : Int
  manualKillSwitch : Bool
  retention : retentionMs = 14400000
  minimumBuyPositive : 0 < externalMinimumBuyAmountRaw
  multiplierBounds : 10000 ≤ takeProfitMultiplierBps ∧ takeProfitMultiplierBps ≤ 1000000

/-- `String.prototype.localeCompare`, as a consistent comparator. -/
structure Collation where
  localeCompare : String → String → Ordering
  consistent : Std.TransCmp localeCompare

structure LaunchpadTrade where
  id : String
  launchMint : String
  kind : PaperTradeSide
  trader : Option String
  quoteAmountRaw : Int
  quoteAsset : QuoteAsset
  cursor : ChainCursor
  deriving DecidableEq, Repr

/-- `BondingCurveTradeObservedEventV1`: an observed event with a trade as its payload. -/
structure BondingCurveTradeObservedEvent where
  event : DomainEvent
  trade : LaunchpadTrade
  deriving DecidableEq, Repr

structure MarketTrade where
  id : String
  mint : String
  quoteAsset : QuoteAsset
  kind : PaperTradeSide
  trader : Option String
  quoteAmountRaw : Int
  program : String
  signature : String
  cursor : ChainCursor
  confirmationStatus : ChainConfirmationStatus
  blockchainTimeMs : Option Int
  observedAtMs : Int
  deriving DecidableEq, Repr

structure ReconcileInput where
  candidate : TradingCandidateV1
  session : PaperStrategySessionV2
  position : PaperPosition
  creator : String
  launchTrades : List BondingCurveTradeObservedEvent
  marketTrades : List MarketTrade
  nowMs : Int
  contextEvent : Option DomainEvent

inductive PaperQuoteFailureCode where
  | QUOTE_STATE_UNAVAILABLE | QUOTE_STATE_INCONSISTENT | QUOTE_STALE | VENUE_MIGRATION_PENDING
  | UNSUPPORTED_QUOTE_MINT
  deriving DecidableEq, Repr

def PaperQuoteFailureCode.text : PaperQuoteFailureCode → String
  | .QUOTE_STATE_UNAVAILABLE => "QUOTE_STATE_UNAVAILABLE"
  | .QUOTE_STATE_INCONSISTENT => "QUOTE_STATE_INCONSISTENT"
  | .QUOTE_STALE => "QUOTE_STALE"
  | .VENUE_MIGRATION_PENDING => "VENUE_MIGRATION_PENDING"
  | .UNSUPPORTED_QUOTE_MINT => "UNSUPPORTED_QUOTE_MINT"

def PaperQuoteFailureCode.retryable (code : PaperQuoteFailureCode) : Bool :=
  code = .QUOTE_STATE_UNAVAILABLE ∨ code = .QUOTE_STALE ∨ code = .VENUE_MIGRATION_PENDING

/-- What the `catch` of `reconcile` can receive. -/
inductive QuoteFailure where
  | paperQuote (code : PaperQuoteFailureCode) (message : String)
  | other
  deriving DecidableEq, Repr

def quoteFailureEvidence : QuoteFailure → PaperStrategyErrorEvidence
  | .paperQuote code message => ⟨code.text, message, code.retryable⟩
  | .other => ⟨"QUOTE_FAILURE", "Full-position sell quote failed.", false⟩

inductive RequestedAction where
  | NONE | OPEN | CLOSE
  deriving DecidableEq, Repr

structure CreationEntryStrategyResult where
  session : PaperStrategySessionV2
  sessionEvent : DomainEvent
  countedExternalBuys : List PaperExternalBuyEvidenceV2
  requestedAction : RequestedAction
  position : PaperPosition

/-! ## Events -/

variable (options : CreationEntryOptions) (collation : Collation) (digests : Digests)
variable (input : ReconcileInput) (observed : Observation)
variable (quoted : Except QuoteFailure PaperExecutionQuote) (sellQuote : PaperExecutionQuote)

def marketTrigger (trade : MarketTrade) : Checked DomainEvent := do
  let id ← createDeterministicDerivedEventId digests "PaperExternalBuyCounted" trade.mint
    "paper-decision" trade.program trade.signature trade.cursor trade.id
  return {
    id := id
    mint := trade.mint
    program := trade.program
    signature := trade.signature
    cursor := trade.cursor
    confirmationStatus := trade.confirmationStatus
    blockchainTimeMs := trade.blockchainTimeMs
    observedAtMs := trade.observedAtMs }

def candidateTrigger (candidate : TradingCandidateV1) : DomainEvent where
  id := candidate.asOf.eventId
  mint := candidate.mint
  program := "paper-decision"
  signature := "paper-decision"
  cursor := candidate.asOf.cursor
  confirmationStatus := candidate.asOf.confirmationStatus
  blockchainTimeMs := none
  observedAtMs := candidate.asOf.observedAtMs

def contextTrigger : DomainEvent :=
  input.contextEvent.getD (candidateTrigger input.candidate)

def createSessionEvent (session : PaperStrategySessionV2) (trigger : DomainEvent) :
    Checked DomainEvent := do
  let id ← createDeterministicDerivedEventId digests "PaperStrategySessionUpdated" session.mint
    "paper-decision" trigger.program trigger.signature trigger.cursor
    (session.id ++ ":" ++ digests.hashSession session)
  return {
    id := id
    mint := session.mint
    program := trigger.program
    signature := trigger.signature
    cursor := trigger.cursor
    confirmationStatus := trigger.confirmationStatus
    blockchainTimeMs := trigger.blockchainTimeMs
    observedAtMs := session.updatedAtMs }

def strategyResult (session : PaperStrategySessionV2)
    (countedExternalBuys : List PaperExternalBuyEvidenceV2) (position : PaperPosition)
    (trigger : DomainEvent) (requestedAction : RequestedAction) :
    Checked CreationEntryStrategyResult := do
  let sessionEvent ← createSessionEvent digests session trigger
  return ⟨session, sessionEvent, countedExternalBuys, requestedAction, position⟩

/-! ## Trades -/

/-- The fields of a trade that both loops over launch and market trades test. -/
structure TradeFacts where
  kind : PaperTradeSide
  trader : Option String
  mint : String
  quoteMint : String
  quoteAmountRaw : Int
  cursor : ChainCursor
  confirmationStatus : ChainConfirmationStatus

def launchFacts (event : BondingCurveTradeObservedEvent) : TradeFacts where
  kind := event.trade.kind
  trader := event.trade.trader
  mint := event.trade.launchMint
  quoteMint := event.trade.quoteAsset.mint
  quoteAmountRaw := event.trade.quoteAmountRaw
  cursor := event.trade.cursor
  confirmationStatus := event.event.confirmationStatus

def marketFacts (trade : MarketTrade) : TradeFacts where
  kind := trade.kind
  trader := trade.trader
  mint := trade.mint
  quoteMint := trade.quoteAsset.mint
  quoteAmountRaw := trade.quoteAmountRaw
  cursor := trade.cursor
  confirmationStatus := trade.confirmationStatus

/-- What a buy must satisfy besides its cursor, which is tested last. -/
def isExternalBuy (facts : TradeFacts) : Bool :=
  facts.kind = .BUY ∧ facts.trader ≠ none ∧ facts.trader ≠ some input.creator ∧
    facts.mint = input.candidate.mint ∧ facts.quoteMint = input.candidate.quoteAsset.mint ∧
    ¬ facts.quoteAmountRaw < input.session.externalMinimumBuyAmountRaw ∧
    confirmationReached facts.confirmationStatus input.session.minimumConfirmation

def isCreatorSell (facts : TradeFacts) : Bool :=
  facts.kind = .SELL ∧ facts.trader = some input.creator ∧
    facts.mint = input.candidate.mint ∧ facts.quoteMint = input.candidate.quoteAsset.mint ∧
    confirmationReached facts.confirmationStatus input.session.minimumConfirmation

/-- The last test of each filter: only reached, and only able to throw, when the others pass. -/
def afterEntry (accepted : Bool) (cursor : ChainCursor) : Checked Bool :=
  if accepted then isStrictlyAfterPaperEntry input.session cursor else return false

structure CanonicalBuy where
  id : String
  trader : String
  quoteAmountRaw : Int
  cursor : ChainCursor
  confirmationStatus : ChainConfirmationStatus
  observedAtMs : Int
  trigger : DomainEvent

def launchBuy (event : BondingCurveTradeObservedEvent) : Checked (Option CanonicalBuy) := do
  let facts := launchFacts event
  if ← afterEntry input (isExternalBuy input facts) facts.cursor then
    return some {
      id := event.trade.id
      trader := facts.trader.getD ""
      quoteAmountRaw := facts.quoteAmountRaw
      cursor := facts.cursor
      confirmationStatus := facts.confirmationStatus
      observedAtMs := event.event.observedAtMs
      trigger := event.event }
  else return none

def marketBuy (trade : MarketTrade) : Checked (Option CanonicalBuy) := do
  let facts := marketFacts trade
  if ← afterEntry input (isExternalBuy input facts) facts.cursor then
    let trigger ← marketTrigger digests trade
    return some {
      id := trade.id
      trader := facts.trader.getD ""
      quoteAmountRaw := facts.quoteAmountRaw
      cursor := facts.cursor
      confirmationStatus := facts.confirmationStatus
      observedAtMs := trade.observedAtMs
      trigger := trigger }
  else return none

def qualifyingBuys : Checked (List CanonicalBuy) := do
  let launched ← collect (launchBuy input) input.launchTrades
  let marketed ← collect (marketBuy digests input) input.marketTrades
  return launched ++ marketed

/-- The comparator of both sorts; the cursors were validated by the filter. -/
def tradeOrder (leftCursor : ChainCursor) (leftId : String) (rightCursor : ChainCursor)
    (rightId : String) : Ordering :=
  (compareValidCursors leftCursor rightCursor).then (collation.localeCompare leftId rightId)

def buyNotAfter (left right : CanonicalBuy) : Prop :=
  tradeOrder collation left.cursor left.id right.cursor right.id ≠ .gt

instance (collation : Collation) : DecidableRel (buyNotAfter collation) :=
  fun _ _ => inferInstanceAs (Decidable (_ ≠ _))

def canonicalBuys : Checked (List CanonicalBuy) := do
  let buys ← qualifyingBuys digests input
  return firstByKey (·.trader) [] (buys.insertionSort (buyNotAfter collation))

def launchSell (event : BondingCurveTradeObservedEvent) : Checked (Option DomainEvent) := do
  let facts := launchFacts event
  if ← afterEntry input (isCreatorSell input facts) facts.cursor then return some event.event
  else return none

def marketSell (trade : MarketTrade) : Checked (Option DomainEvent) := do
  let facts := marketFacts trade
  if ← afterEntry input (isCreatorSell input facts) facts.cursor then
    let trigger ← marketTrigger digests trade
    return some trigger
  else return none

def sellNotAfter (left right : DomainEvent) : Prop :=
  tradeOrder collation left.cursor left.id right.cursor right.id ≠ .gt

instance (collation : Collation) : DecidableRel (sellNotAfter collation) :=
  fun _ _ => inferInstanceAs (Decidable (_ ≠ _))

def assertValidCursors : List DomainEvent → Checked Unit
  | [] => return ()
  | event :: rest => do
    domainChecked (assertValidChainCursor event.cursor)
    assertValidCursors rest

def earliestCreatorSell : Checked (Option DomainEvent) := do
  let launched ← collect (launchSell input) input.launchTrades
  let marketed ← collect (marketSell digests input) input.marketTrades
  let sells := launched ++ marketed
  -- The comparator validates the event's own cursor, and only runs on two events or more.
  if 2 ≤ sells.length then assertValidCursors sells
  return (sells.insertionSort (sellNotAfter collation)).head?

/-! ## Counting -/

structure CountState where
  session : PaperStrategySessionV2
  counted : List PaperExternalBuyEvidenceV2
  trigger : DomainEvent
  targetBuy : Option CanonicalBuy

def buyInput (candidate : TradingCandidateV1) (buy : CanonicalBuy) : ExternalBuyInput where
  tradeId := buy.id
  mint := candidate.mint
  quoteMint := candidate.quoteAsset.mint
  trader := buy.trader
  quoteAmountRaw := buy.quoteAmountRaw
  cursor := buy.cursor
  confirmationStatus := buy.confirmationStatus
  observedAtMs := buy.observedAtMs

/-- The `for` loop over the canonical buys, with its `break`. -/
def countBuys (digests : Digests) (candidate : TradingCandidateV1) :
    CountState → List CanonicalBuy → Checked CountState
  | state, [] => return state
  | state, buy :: rest => do
    let result ← countUniqueExternalBuy digests state.session (buyInput candidate buy)
    let next : CountState := {
      session := result.session
      counted := state.counted ++ result.evidence.toList
      trigger := if result.evidence.isSome then buy.trigger else state.trigger
      targetBuy := state.targetBuy }
    if result.targetReached then
      return if result.evidence.isSome then { next with targetBuy := some buy } else next
    else countBuys digests candidate next rest

/-- The counted buy that reached the target, looked up again when this call did not count it. -/
def storedTargetBuy (session : PaperStrategySessionV2) (canonical : List CanonicalBuy) :
    Option CanonicalBuy :=
  if session.externalBuyCount ≥ session.externalBuyTarget then
    canonical.find? fun buy =>
      some buy.id = session.countedTradeIds[session.externalBuyTarget - 1]?
  else none

/-- Everything `reconcile` knows before it looks at the position's status. -/
structure Observation where
  session : PaperStrategySessionV2
  counted : List PaperExternalBuyEvidenceV2
  targetBuy : Option CanonicalBuy
  creatorSell : Option DomainEvent
  trigger : DomainEvent

def observe : Checked Observation := do
  let canonical ← canonicalBuys collation digests input
  let state ← countBuys digests input.candidate ⟨input.session, [], contextTrigger input, none⟩
    canonical
  let creatorSell ← earliestCreatorSell collation digests input
  let targetBuy := state.targetBuy.or (storedTargetBuy state.session canonical)
  let trigger := if options.manualKillSwitch then contextTrigger input
    else creatorSell.getD ((targetBuy.map (·.trigger)).getD state.trigger)
  return ⟨state.session, state.counted, targetBuy, creatorSell, trigger⟩

def mandatoryReason : Option CreationExitReason :=
  if options.manualKillSwitch then some .MANUAL_KILL_SWITCH
  else if observed.creatorSell = none then observed.session.pendingExitReason
  else some .CREATOR_EARLY_SELL

def manualExitTriggerAtMs (nowMs : Int) : Option Int :=
  if mandatoryReason options observed = some .MANUAL_KILL_SWITCH then
    observed.session.pendingExitTriggerAtMs.or
      (if observed.session.pendingExitReason = some .MANUAL_KILL_SWITCH then none else some nowMs)
  else none

/-! ## Outcomes -/

def updateSession (candidate : TradingCandidateV1) (next : PaperStrategySessionV2) :
    Checked PaperStrategySessionV2 :=
  createCreationEntrySession digests {
    candidate := candidate
    state := next.state
    reasonCode := next.reasonCode
    positionId := next.positionId
    entryCursor := next.entryCursor
    externalBuyTarget := next.externalBuyTarget
    externalBuyCount := next.externalBuyCount
    externalMinimumBuyAmountRaw := next.externalMinimumBuyAmountRaw
    countedTradeIds := next.countedTradeIds
    countedBuyerWallets := next.countedBuyerWallets
    lastCountedCursor := next.lastCountedCursor
    minimumConfirmation := next.minimumConfirmation
    lastQuote := next.lastQuote
    lastError := next.lastError
    pendingExitReason := next.pendingExitReason
    pendingExitTriggerAtMs := next.pendingExitTriggerAtMs
    entryBoundary := next.entryBoundary
    createdAtMs := next.createdAtMs
    updatedAtMs := next.updatedAtMs
    purgeAfterMs := next.purgeAfterMs }

def reachesMultiplier (proceedsRaw costRaw : Int) : Bool :=
  proceedsRaw * 10000 ≥ costRaw * options.takeProfitMultiplierBps

def recoveredReason (proceedsRaw costRaw : Int) : Option CreationExitReason :=
  if options.manualKillSwitch then some .MANUAL_KILL_SWITCH
  else if observed.creatorSell ≠ none then some .CREATOR_EARLY_SELL
  else if reachesMultiplier options proceedsRaw costRaw then some .TAKE_PROFIT_2X_EXECUTABLE
  else if observed.session.externalBuyCount ≥ observed.session.externalBuyTarget then
    some .EXTERNAL_UNIQUE_BUYERS_TARGET_REACHED
  else observed.session.pendingExitReason

/-- The branch of `reconcile` for a position the ledger already closed. -/
def recoverClosed : Checked CreationEntryStrategyResult :=
  match input.position.closedAtMs, input.position.purgeAfterMs, input.position.quoteProceedsRaw with
  | some closedAtMs, some purgeAfterMs, some quoteProceedsRaw =>
    match recoveredReason options observed quoteProceedsRaw input.position.quoteCostRaw with
    | none => throw (.typeError "Closed creation position has no recoverable exit reason.")
    | some reason => do
      let recovered ← updateSession digests input.candidate { observed.session with
        state := .PAPER_CLOSED
        reasonCode := reason.reasonCode
        pendingExitReason := some reason
        pendingExitTriggerAtMs := if reason = .MANUAL_KILL_SWITCH then
            observed.session.pendingExitTriggerAtMs.or input.position.exitTriggerAtMs
          else none
        lastError := none
        updatedAtMs := closedAtMs
        purgeAfterMs := purgeAfterMs }
      strategyResult digests recovered observed.counted input.position observed.trigger .NONE
  | _, _, _ => throw (.typeError "Closed creation position is missing terminal evidence.")

/-- The answer of the router, after the consistency test inside the `try`. -/
def checkedQuote : Except QuoteFailure PaperExecutionQuote := do
  let sellQuote ← quoted
  require (sellQuote.inputMint = input.candidate.mint ∧
    sellQuote.outputMint = input.candidate.quoteAsset.mint ∧
    sellQuote.amountInRaw = input.position.remainingBaseRaw)
    (.paperQuote .QUOTE_STATE_INCONSISTENT "Full-position sell quote is inconsistent.")
  return sellQuote

/-- A session that waits for a usable quote. -/
def exitPending (pendingExitReason : CreationExitReason) (pendingExitTriggerAtMs : Option Int)
    (lastError : PaperStrategyErrorEvidence) : Checked CreationEntryStrategyResult := do
  let pending ← updateSession digests input.candidate { observed.session with
    state := .EXIT_PENDING_QUOTE
    reasonCode := .SELL_QUOTE_UNAVAILABLE_OR_STALE
    pendingExitReason := some pendingExitReason
    pendingExitTriggerAtMs := pendingExitTriggerAtMs
    lastError := some lastError
    updatedAtMs := input.nowMs }
  strategyResult digests pending observed.counted input.position observed.trigger .NONE

/-- The `catch` of `reconcile`. -/
def quoteUnavailable (failure : QuoteFailure) : Checked CreationEntryStrategyResult :=
  match mandatoryReason options observed with
  | none => strategyResult digests observed.session observed.counted input.position observed.trigger .NONE
  | some reason => exitPending digests input observed reason
      (manualExitTriggerAtMs options observed input.nowMs) (quoteFailureEvidence failure)

def exitReason : Option CreationExitReason :=
  (mandatoryReason options observed).or <|
    if reachesMultiplier options sellQuote.minimumAmountOutRaw input.position.quoteCostRaw then
      some .TAKE_PROFIT_2X_EXECUTABLE
    else if observed.session.externalBuyCount ≥ observed.session.externalBuyTarget then
      some .EXTERNAL_UNIQUE_BUYERS_TARGET_REACHED
    else none

def monitoring : Checked CreationEntryStrategyResult := do
  let session ← updateSession digests input.candidate { observed.session with
    state := .WAITING_EXTERNAL_BUYS
    pendingExitTriggerAtMs := none
    lastQuote := some sellQuote
    lastError := none
    updatedAtMs := input.nowMs }
  strategyResult digests session observed.counted input.position observed.trigger .NONE

def creatorSourceMissing : PaperError := .typeError "Creator exit source is missing."

def buyerSourceMissing : PaperError := .typeError "External buyer exit source is missing."

/-- The time of the selected exit trigger; only a manual exit may have none. -/
def exitTriggerAtMs :
    CreationExitReason → Checked (Option Int)
  | .MANUAL_KILL_SWITCH => return manualExitTriggerAtMs options observed input.nowMs
  | .TAKE_PROFIT_2X_EXECUTABLE => return some sellQuote.observedAtMs
  | .CREATOR_EARLY_SELL =>
    match observed.creatorSell with
    | none => throw creatorSourceMissing
    | some sell => return some sell.observedAtMs
  | .EXTERNAL_UNIQUE_BUYERS_TARGET_REACHED =>
    match observed.targetBuy with
    | none => throw buyerSourceMissing
    | some buy => return some buy.observedAtMs

def staleQuote : QuoteFailure :=
  .paperQuote .QUOTE_STALE "Full-position sell quote predates the selected exit trigger."

/-- What is left to do once the ledger has accepted the close command. -/
structure ExitPlan where
  observed : Observation
  reason : CreationExitReason
  exitTriggerAtMs : Option Int
  sellQuote : PaperExecutionQuote
  command : ClosePaperPositionCommand

inductive Reconciliation where
  | settled (result : CreationEntryStrategyResult)
  | exit (plan : ExitPlan)

def planExit (reason : CreationExitReason) : Checked Reconciliation := do
  let triggerAtMs ← exitTriggerAtMs options input observed sellQuote reason
  if triggerAtMs.any (sellQuote.observedAtMs < ·) then
    let result ← exitPending digests input observed reason
      (if reason = .MANUAL_KILL_SWITCH then triggerAtMs else none) (quoteFailureEvidence staleQuote)
    return .settled result
  else
    return .exit ⟨observed, reason, triggerAtMs, sellQuote, {
      positionId := input.position.id
      trigger := observed.trigger
      sellQuote := sellQuote
      reason := reason.text
      exitTriggerAtMs := triggerAtMs }⟩

/-- The branch of `reconcile` for a position still held. -/
def decideHolding : Checked Reconciliation :=
  match checkedQuote input quoted with
  | .error failure => do return .settled (← quoteUnavailable options digests input observed failure)
  | .ok sellQuote =>
    match exitReason options input observed sellQuote with
    | none => do return .settled (← monitoring digests input observed sellQuote)
    | some reason => planExit options digests input observed sellQuote reason

def reconcileChecks : Checked Unit :=
  require (input.candidate.strategy.id = "creation-entry-v1" ∧
    input.session.candidateId = input.candidate.id ∧
    some input.position.id = input.session.positionId ∧
    (input.position.status = .PAPER_HOLDING ∨ input.position.status = .PAPER_CLOSED))
    (.typeError "Creation entry reconciliation is inconsistent.")

/-- `reconcile` up to its call of `ledger.close`. -/
def decideReconcile : Checked Reconciliation := do
  reconcileChecks input
  let observed ← observe options collation digests input
  if input.position.status = .PAPER_CLOSED then
    return .settled (← recoverClosed options digests input observed)
  else decideHolding options digests input observed quoted

/-- `reconcile` from the position `ledger.close` returned. -/
def completeExit (plan : ExitPlan) (position : PaperPosition) :
    Checked CreationEntryStrategyResult := do
  let closedAtMs := position.closedAtMs.getD input.nowMs
  -- `updateSession` computes the command id again, from the reason.
  let _ ← createDeterministicCreationExitCommandId digests input.position.id plan.reason
  let closed ← updateSession digests input.candidate { plan.observed.session with
    state := .PAPER_CLOSED
    reasonCode := plan.reason.reasonCode
    pendingExitReason := some plan.reason
    pendingExitTriggerAtMs :=
      if plan.reason = .MANUAL_KILL_SWITCH then plan.exitTriggerAtMs else none
    lastQuote := some plan.sellQuote
    lastError := none
    updatedAtMs := closedAtMs
    purgeAfterMs := position.purgeAfterMs.getD (closedAtMs + options.retentionMs) }
  strategyResult digests closed plan.observed.counted position plan.observed.trigger .CLOSE

/-- `reconcile` on the paper ledger: its result and the ledger it leaves. -/
def reconcile (engine : Engine) (env : Environment) (input : ReconcileInput)
    (quoted : Except QuoteFailure PaperExecutionQuote) (ledger : Ledger) :
    Checked CreationEntryStrategyResult × Ledger :=
  match decideReconcile options collation digests input quoted with
  | .error error => (.error error, ledger)
  | .ok (.settled result) => (.ok result, ledger)
  | .ok (.exit plan) =>
    match closePosition engine env plan.command ledger with
    | (.error error, after) => (.error error, after)
    | (.ok position, after) => (completeExit options digests input plan position, after)

end SolTokenListener.Source.CreationEntryStrategy
