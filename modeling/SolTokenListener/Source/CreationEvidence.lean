import SolTokenListener.Source.CreationEntryStrategy

/-!
# Reconciliation of a creation-entry session after an orphaned event

Source: src/application/creation-entry-v1.strategy.ts:287-376. The session is rebuilt from nothing: a held
position goes on with `reconcile`, a closed one keeps its close while a reason still supports it, any
other is retracted.
-/

namespace SolTokenListener.Source.CreationEntryStrategy

open Lib.Checked
open Source.Chain Source.PaperTrading
open Source.PaperLedger
open Source.PaperStrategy Source.PaperTradingEngine

structure EvidenceInput where
  candidate : TradingCandidateV1
  session : PaperStrategySessionV2
  position : PaperPosition
  creator : String
  launchTrades : List BondingCurveTradeObservedEvent
  marketTrades : List MarketTrade
  orphanedEvent : DomainEvent
  nowMs : Int

/-- The session without a counted buy; a manual exit stays pending. -/
def evidenceBaseline (digests : Digests) (input : EvidenceInput) : Checked PaperStrategySessionV2 :=
  updateSession digests input.candidate { input.session with
    state := .WAITING_EXTERNAL_BUYS
    reasonCode := .QUALIFIED_ENTRY
    externalBuyCount := 0
    countedTradeIds := []
    countedBuyerWallets := []
    lastCountedCursor := none
    pendingExitReason := if input.session.pendingExitReason = some .MANUAL_KILL_SWITCH then
        some .MANUAL_KILL_SWITCH
      else none
    pendingExitTriggerAtMs := if input.session.pendingExitReason = some .MANUAL_KILL_SWITCH then
        input.session.pendingExitTriggerAtMs
      else none
    lastQuote := input.candidate.buyQuote
    lastError := none
    updatedAtMs := max input.session.createdAtMs input.position.openedAtMs
    withinTarget := Nat.zero_le _
    tradesCounted := rfl
    walletsCounted := rfl
    distinctTrades := List.nodup_nil
    distinctWallets := List.nodup_nil }

def evidenceCall (input : EvidenceInput) (session : PaperStrategySessionV2) : ReconcileInput where
  candidate := input.candidate
  session := session
  position := input.position
  creator := input.creator
  launchTrades := input.launchTrades
  marketTrades := input.marketTrades
  nowMs := input.nowMs
  contextEvent := some input.orphanedEvent

/-- The `for` loop over the canonical buys, without a `break`. -/
def rebuildBuys (digests : Digests) (candidate : TradingCandidateV1) :
    PaperStrategySessionV2 × List PaperExternalBuyEvidenceV2 → List CanonicalBuy →
      Checked (PaperStrategySessionV2 × List PaperExternalBuyEvidenceV2)
  | rebuilt, [] => return rebuilt
  | (session, counted), buy :: rest => do
    let result ← countUniqueExternalBuy digests session (buyInput candidate buy)
    rebuildBuys digests candidate (result.session, counted ++ result.evidence.toList) rest

def profitStillSupported (options : CreationEntryOptions) (input : EvidenceInput) : Bool :=
  input.session.lastQuote.any fun quote =>
    quote.inputMint = input.candidate.mint ∧ quote.outputMint = input.candidate.quoteAsset.mint ∧
      quote.amountInRaw = input.position.baseFilledRaw ∧
      reachesMultiplier options quote.minimumAmountOutRaw input.position.quoteCostRaw = true

def evidenceReason (options : CreationEntryOptions) (input : EvidenceInput)
    (rebuilt : PaperStrategySessionV2) (creatorSell : Option DomainEvent) :
    Option CreationExitReason :=
  if options.manualKillSwitch then some .MANUAL_KILL_SWITCH
  else if creatorSell ≠ none then some .CREATOR_EARLY_SELL
  else if profitStillSupported options input then some .TAKE_PROFIT_2X_EXECUTABLE
  else if rebuilt.externalBuyCount ≥ rebuilt.externalBuyTarget then
    some .EXTERNAL_UNIQUE_BUYERS_TARGET_REACHED
  else none

/-- The close that a reason still supports. -/
def evidenceClosed (digests : Digests) (input : EvidenceInput) (rebuilt : PaperStrategySessionV2)
    (counted : List PaperExternalBuyEvidenceV2) (creatorSell : Option DomainEvent)
    (reason : CreationExitReason) : Checked CreationEntryStrategyResult :=
  match input.position.closedAtMs, input.position.purgeAfterMs with
  | some closedAtMs, some purgeAfterMs => do
    let closed ← updateSession digests input.candidate { rebuilt with
      state := .PAPER_CLOSED
      reasonCode := reason.reasonCode
      pendingExitReason := some reason
      pendingExitTriggerAtMs := if reason = .MANUAL_KILL_SWITCH then
          input.session.pendingExitTriggerAtMs.or input.position.exitTriggerAtMs
        else none
      updatedAtMs := closedAtMs
      purgeAfterMs := purgeAfterMs }
    strategyResult digests closed counted input.position (creatorSell.getD input.orphanedEvent) .NONE
  | _, _ => throw (.typeError "Closed creation position is missing terminal timestamps.")

/-- The retraction, from the position `ledger.retract` returned. -/
def evidenceRetracted (digests : Digests) (input : EvidenceInput) (rebuilt : PaperStrategySessionV2)
    (counted : List PaperExternalBuyEvidenceV2) (position : PaperPosition) :
    Checked CreationEntryStrategyResult :=
  match position.status, position.purgeAfterMs with
  | .PAPER_RETRACTED, some purgeAfterMs => do
    let retracted ← updateSession digests input.candidate { rebuilt with
      state := .PAPER_RETRACTED
      reasonCode := .SOURCE_ORPHANED
      pendingExitReason := none
      pendingExitTriggerAtMs := none
      updatedAtMs := max rebuilt.updatedAtMs input.orphanedEvent.observedAtMs
      purgeAfterMs := purgeAfterMs }
    strategyResult digests retracted counted position input.orphanedEvent .NONE
  | _, _ => throw (.typeError "Creation evidence reconciliation did not retract the position.")

/-- What the trades that are left support, for a position that is not held. -/
def evidenceObserved (collation : Collation) (digests : Digests) (input : EvidenceInput)
    (baseline : PaperStrategySessionV2) :
    Checked (PaperStrategySessionV2 × List PaperExternalBuyEvidenceV2 × Option DomainEvent) := do
  let canonical ← canonicalBuys collation digests (evidenceCall input baseline)
  let (rebuilt, counted) ← rebuildBuys digests input.candidate (baseline, []) canonical
  let creatorSell ← earliestCreatorSell collation digests (evidenceCall input rebuilt)
  return (rebuilt, counted, creatorSell)

def reconcileEvidence (options : CreationEntryOptions) (collation : Collation) (digests : Digests)
    (engine : Engine) (env : Environment) (input : EvidenceInput)
    (quoted : Except QuoteFailure PaperExecutionQuote) (ledger : Ledger) :
    Checked CreationEntryStrategyResult × Ledger :=
  if input.orphanedEvent.confirmationStatus ≠ .orphaned then
    (.error (.typeError "Creation evidence reconciliation requires an orphaned event."), ledger)
  else match evidenceBaseline digests input with
    | .error error => (.error error, ledger)
    | .ok baseline =>
      if input.position.status = .PAPER_HOLDING then
        reconcile options collation digests engine env (evidenceCall input baseline) quoted ledger
      else match evidenceObserved collation digests input baseline with
        | .error error => (.error error, ledger)
        | .ok (rebuilt, counted, creatorSell) =>
          match evidenceReason options input rebuilt creatorSell, input.position.status with
          | some reason, .PAPER_CLOSED =>
            (evidenceClosed digests input rebuilt counted creatorSell reason, ledger)
          | _, _ =>
            match retract engine env input.position.id input.orphanedEvent ledger with
            | (.error error, after) => (.error error, after)
            | (.ok position, after) => (evidenceRetracted digests input rebuilt counted position, after)

end SolTokenListener.Source.CreationEntryStrategy
