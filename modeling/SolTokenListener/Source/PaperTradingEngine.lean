import SolTokenListener.Source.PaperCommand

/-!
# The paper-trading engine

Source: src/paper/paper-trading-engine.ts:42-421 and the event builder at 955-998. A command
reads what it needs of its surroundings from an `Environment`: the successive readings of the
clock, the report authority, the current qualification and a possible database failure.
The profile test of the constructor is not modelled; the retention bound is a field.
-/

namespace SolTokenListener.Source.PaperTradingEngine

open Lib.Checked Lib.Transaction
open Source.Chain Source.Qualification
open Source.PaperTrading Source.PaperLedger
open Source.PaperCommand

inductive ExecutionMode where
  | observe | paper
  deriving DecidableEq, Repr

structure Engine where
  executionMode : ExecutionMode
  paperQuoteMintAllowlist : List String
  dataRetentionHours : Int
  qualificationProfile : EffectiveQualificationProfile
  digest : HashInput → String
  retentionPositive : 0 < dataRetentionHours

structure Environment where
  /-- The successive results of `clock.now()` within one command. -/
  clock : Nat → Int
  isAuthorized : QualificationReport → String → String → Bool
  isCurrent : PaperCurrentQualificationIdentity → Bool
  queriesLeft : Option Nat

variable (engine : Engine) (env : Environment)

def retentionMs : Int :=
  engine.dataRetentionHours * 60 * 60 * 1000

def requirePaperMode : Checked Unit :=
  require (engine.executionMode = .paper) (.paperTrading .PAPER_MODE_DISABLED
    "Le paper trading est désactivé en mode observe.")

def createPaperEvent (type : PaperEventType) (position : PaperPosition) (trade : PaperTrade)
    (trigger : DomainEvent) (observedAtMs : Int) :
    PaperEvent where
  id := paperEventId engine.digest type position.id trade.id trigger.id
  type := type
  mint := position.mint
  program := trigger.program
  signature := trigger.signature
  cursor := trigger.cursor
  confirmationStatus := trigger.confirmationStatus
  blockchainTimeMs := trigger.blockchainTimeMs
  observedAtMs := observedAtMs
  position := position
  trade := trade
  terminalAtMs := none
  purgeAfterMs := none

/-- The row `retractPosition` of the engine writes over `current`. -/
def retractedPosition (terminalAtMs : Int) (current : PaperPosition) : PaperPosition :=
  { current with
    status := .PAPER_RETRACTED
    closedAtMs := some (current.closedAtMs.getD terminalAtMs)
    purgeAfterMs := some (terminalAtMs + retentionMs engine) }

/-- `retractPosition` of the engine; `terminalAtMs` is its reading of the clock. -/
def retractCurrent (terminalAtMs : Int) (current : PaperPosition) : PaperTx PaperPosition :=
  if current.status = .PAPER_RETRACTED then return current
  else do
    check (domainChecked (assertValidTimestampMs .occurredAtMs terminalAtMs))
    retractPosition (retractedPosition engine terminalAtMs current)
    return retractedPosition engine terminalAtMs current

def reconcileOpenReplay (terminalAtMs : Int) (position : PaperPosition)
    (openCommandHashes : OpenCommandHashes) (trigger : DomainEvent) (entryDecisionAtMs : Option Int)
    (entryDecisionJobId : Option String) : PaperTx PaperPosition := do
  check (require (matchesOpenCommandHash position openCommandHashes = true) conflict)
  check (require (¬ (position.entryDecisionAtMs ≠ none ∧
    (position.entryDecisionAtMs ≠ entryDecisionAtMs ∨
      position.entryDecisionJobId ≠ entryDecisionJobId))) conflict)
  reconcileEventConfirmation
    (paperEventId engine.digest .PaperPositionOpened position.id position.entryTradeId trigger.id)
    trigger.confirmationStatus trigger.blockchainTimeMs trigger.observedAtMs
  if trigger.confirmationStatus = .orphaned then retractCurrent engine terminalAtMs position
  else return position

/-! ## Open and its reconciliation -/

structure PreparedOpen where
  snapshot : OpenPaperPositionCommand
  openedAtMs : Int
  roundTrip : PaperRoundTrip
  positionId : String
  openCommandHashes : OpenCommandHashes

def openPositionId (command : OpenPaperPositionCommand) : String :=
  hashId engine.digest (.paperPosition command.mint command.strategy.id command.strategy.version
    command.trigger.id)

/-- The tests `open` and `reconcileOpen` share, from `validateOpenCommand` on. -/
def prepareOpen (snapshot : OpenPaperPositionCommand) (openedAtMs : Int) :
    Checked PreparedOpen := do
  validateOpenCommand snapshot engine.paperQuoteMintAllowlist engine.qualificationProfile openedAtMs
  let roundTrip ← calculateRoundTrip snapshot.buyQuote snapshot.reverseSellQuote
  validateQualificationExecutionFacts snapshot.qualification roundTrip.lossBps
    engine.qualificationProfile
  require (¬ roundTrip.lossBps > snapshot.maximumRoundTripLossBps)
    (roundTripLossExceeded roundTrip.lossBps)
  let openCommandHashes ← hashOpenCommand engine.digest snapshot
  return ⟨snapshot, openedAtMs, roundTrip, openPositionId engine snapshot, openCommandHashes⟩

def openedTrade (prepared : PreparedOpen) : PaperTrade where
  id := hashId engine.digest (.paperTrade prepared.positionId .BUY)
  positionId := prepared.positionId
  side := .BUY
  quote := prepared.snapshot.buyQuote
  fillAmountOutRaw := prepared.snapshot.buyQuote.minimumAmountOutRaw
  reason := "QUALIFIED_ENTRY"
  createdAtMs := prepared.openedAtMs

def openedPosition (prepared : PreparedOpen) : PaperPosition where
  id := prepared.positionId
  mint := prepared.snapshot.mint
  quoteAsset := prepared.snapshot.quoteAsset
  strategy := prepared.snapshot.strategy
  status := .PAPER_HOLDING
  baseFilledRaw := prepared.roundTrip.baseFilledRaw
  remainingBaseRaw := prepared.roundTrip.baseFilledRaw
  quoteCostRaw := prepared.roundTrip.quoteCostRaw
  quoteProceedsRaw := none
  grossPnlQuoteRaw := none
  netPnlQuoteRaw := none
  roundTripLossBps := prepared.roundTrip.lossBps
  entryTradeId := (openedTrade engine prepared).id
  exitTradeId := none
  openCommandHash := prepared.openCommandHashes.current
  closeCommandHash := none
  triggerEventId := prepared.snapshot.trigger.id
  entryDecisionAtMs := prepared.snapshot.entryDecisionAtMs
  entryDecisionJobId := prepared.snapshot.entryDecisionJobId
  closeEventId := none
  exitTriggerAtMs := none
  strategySessionId := prepared.snapshot.strategySessionId
  qualificationReportId := prepared.snapshot.qualificationReportId
  candidateId := prepared.snapshot.candidateId
  openedAtMs := prepared.openedAtMs
  closedAtMs := none
  purgeAfterMs := none

def replayPrepared (terminalAtMs : Int) (prepared : PreparedOpen) (position : PaperPosition) :
    PaperTx PaperPosition :=
  reconcileOpenReplay engine terminalAtMs position prepared.openCommandHashes
    prepared.snapshot.trigger prepared.snapshot.entryDecisionAtMs
    prepared.snapshot.entryDecisionJobId

/-- The last part of the open transaction, when no position carries the id. -/
def insertPrepared (prepared : PreparedOpen) : PaperTx PaperPosition := do
  check (rejectOrphanedTrigger prepared.snapshot.trigger)
  let trade := openedTrade engine prepared
  let position := openedPosition engine prepared
  insertOpened position trade (createPaperEvent engine .PaperPositionOpened position trade
    prepared.snapshot.trigger prepared.snapshot.trigger.observedAtMs)
  return position

def requireExpectedQualification :
    Option PaperCurrentQualificationIdentity → PaperTx Unit
  | none => return ()
  | some identity => requireCurrentQualification env.isCurrent identity

def openTransaction (prepared : PreparedOpen) : PaperTx PaperPosition := do
  requireExpectedQualification env prepared.snapshot.expectedCurrentQualification
  match ← findPosition prepared.positionId with
  | some existing => replayPrepared engine (env.clock 1) prepared existing
  | none =>
    match ← findActivePosition prepared.snapshot.mint prepared.snapshot.strategy with
    | some active =>
      if active.id = prepared.positionId ∧
          matchesOpenCommandHash active prepared.openCommandHashes then
        replayPrepared engine (env.clock 1) prepared active
      else throw conflict
    | none =>
      match ← findPosition prepared.positionId with
      | some terminalReplay => replayPrepared engine (env.clock 1) prepared terminalReplay
      | none => insertPrepared engine prepared

def openChecks (command : OpenPaperPositionCommand) : Checked PreparedOpen := do
  requirePaperMode engine
  let trigger ← snapshotTrigger command.trigger
  require (env.isAuthorized command.qualification command.mint trigger.id = true)
    invalidQualification
  let snapshot ← snapshotOpenCommand command trigger
  let openedAtMs := env.clock 0
  domainChecked (assertValidTimestampMs .occurredAtMs openedAtMs)
  prepareOpen engine snapshot openedAtMs

/-- Run the checks made before the transaction, then the transaction. -/
def runCommand {α β : Type} (checks : Checked α) (body : α → PaperTx β) (ledger : Ledger) :
    Except PaperError β × Ledger :=
  match checks with
  | .error error => (.error error, ledger)
  | .ok prepared => transactPaper env.queriesLeft (body prepared) ledger

def openPosition (command : OpenPaperPositionCommand) (ledger : Ledger) :
    Except PaperError PaperPosition × Ledger :=
  runCommand env (openChecks engine env command) (openTransaction engine env) ledger

def reconcileOpenChecks (command : OpenPaperPositionCommand) : Checked PreparedOpen := do
  requirePaperMode engine
  let trigger ← snapshotTrigger command.trigger
  let snapshot ← snapshotOpenCommand command trigger
  -- Here the reading of the clock is not itself validated.
  prepareOpen engine snapshot (env.clock 0)

def reconcileOpenTransaction (prepared : PreparedOpen) : PaperTx PaperPosition := do
  match ← findPosition prepared.positionId with
  | none => throw positionNotFound
  | some existing => replayPrepared engine (env.clock 1) prepared existing

def reconcileOpen (command : OpenPaperPositionCommand) (ledger : Ledger) :
    Except PaperError PaperPosition × Ledger :=
  runCommand env (reconcileOpenChecks engine env command) (reconcileOpenTransaction engine env) ledger

/-! ## Close, its reconciliation and retraction -/

structure PreparedClose where
  snapshot : ClosePaperPositionCommand
  closeCommandHash : String
  closedAtMs : Int

def closeChecks (command : ClosePaperPositionCommand) : Checked PreparedClose := do
  requirePaperMode engine
  let snapshot ← snapshotCloseCommand command
  validatePaperQuote snapshot.sellQuote
  require (snapshot.exitTriggerAtMs.any (snapshot.sellQuote.observedAtMs < ·) = false)
    (invalidQuote "sellQuote.observedAtMs")
  let closeCommandHash ← hashValue engine.digest (.paperCloseCommand (closeCommandContent snapshot))
  let closedAtMs := env.clock 0
  domainChecked (assertValidTimestampMs .occurredAtMs closedAtMs)
  return ⟨snapshot, closeCommandHash, closedAtMs⟩

/-- The branch of `close` for a position that is no longer held. -/
def replayClose (prepared : PreparedClose) (current : PaperPosition) : PaperTx PaperPosition := do
  let snapshot := prepared.snapshot
  check (require (current.closeCommandHash = some prepared.closeCommandHash) conflict)
  match current.exitTradeId with
  | none => throw conflict
  | some exitTradeId =>
    check (require (¬ (current.exitTriggerAtMs ≠ none ∧
      current.exitTriggerAtMs ≠ snapshot.exitTriggerAtMs)) conflict)
    reconcileEventConfirmation
      (current.closeEventId.getD
        (paperEventId engine.digest .PaperPositionClosed current.id exitTradeId snapshot.trigger.id))
      snapshot.trigger.confirmationStatus snapshot.trigger.blockchainTimeMs
      (current.exitTriggerAtMs.getD snapshot.trigger.observedAtMs)
    if snapshot.trigger.confirmationStatus = .orphaned then
      retractCurrent engine (env.clock 1) current
    else return current

def closedTrade (prepared : PreparedClose) (current : PaperPosition) :
    PaperTrade where
  id := hashId engine.digest (.paperTrade current.id .SELL)
  positionId := current.id
  side := .SELL
  quote := prepared.snapshot.sellQuote
  fillAmountOutRaw := prepared.snapshot.sellQuote.minimumAmountOutRaw
  reason := prepared.snapshot.reason
  createdAtMs := prepared.closedAtMs

def closedPosition (prepared : PreparedClose) (current : PaperPosition) : PaperPosition :=
  let trade := closedTrade engine prepared current
  { current with
    status := .PAPER_CLOSED
    remainingBaseRaw := 0
    quoteProceedsRaw := some prepared.snapshot.sellQuote.minimumAmountOutRaw
    grossPnlQuoteRaw := some (prepared.snapshot.sellQuote.amountOutRaw - current.quoteCostRaw)
    netPnlQuoteRaw :=
      some (prepared.snapshot.sellQuote.minimumAmountOutRaw - current.quoteCostRaw)
    exitTradeId := some trade.id
    closeCommandHash := some prepared.closeCommandHash
    closeEventId := some (paperEventId engine.digest .PaperPositionClosed current.id trade.id
      prepared.snapshot.trigger.id)
    exitTriggerAtMs := prepared.snapshot.exitTriggerAtMs
    closedAtMs := some prepared.closedAtMs
    purgeAfterMs := some (prepared.closedAtMs + retentionMs engine) }

def closeHeld (prepared : PreparedClose) (current : PaperPosition) : PaperTx PaperPosition := do
  check (validateCloseCommand prepared.snapshot current)
  let trade := closedTrade engine prepared current
  let position := closedPosition engine prepared current
  updateClosed position trade (createPaperEvent engine .PaperPositionClosed position trade
    prepared.snapshot.trigger
    (prepared.snapshot.exitTriggerAtMs.getD prepared.snapshot.trigger.observedAtMs))
  return position

def closeTransaction (prepared : PreparedClose) : PaperTx PaperPosition := do
  match ← findPosition prepared.snapshot.positionId with
  | none => throw positionNotFound
  | some current =>
    if current.status ≠ .PAPER_HOLDING then replayClose engine env prepared current
    else closeHeld engine prepared current

def closePosition (command : ClosePaperPositionCommand) (ledger : Ledger) :
    Except PaperError PaperPosition × Ledger :=
  runCommand env (closeChecks engine env command) (closeTransaction engine env) ledger

def reconcileCloseChecks (triggerEvent : DomainEvent) : Checked DomainEvent := do
  requirePaperMode engine
  snapshotTrigger triggerEvent

def reconcileCloseTransaction (positionId : String) (trigger : DomainEvent) :
    PaperTx PaperPosition := do
  match ← findPosition positionId with
  | none => throw positionNotFound
  | some current =>
    if current.status = .PAPER_RETRACTED then return current
    else
      match current.status, current.exitTradeId, current.closeEventId with
      | .PAPER_CLOSED, some exitTradeId, some closeEventId => do
        check (require (closeEventId =
            paperEventId engine.digest .PaperPositionClosed current.id exitTradeId trigger.id)
          (.paperTrading .CLOSE_TRIGGER_MISMATCH
            "L’événement observé ne déclenche pas cette clôture paper."))
        reconcileEventConfirmation closeEventId trigger.confirmationStatus
          trigger.blockchainTimeMs trigger.observedAtMs
        if trigger.confirmationStatus = .orphaned then
          retractCurrent engine (env.clock 0) current
        else return current
      | _, _, _ => throw conflict

def reconcileClose (positionId : String) (triggerEvent : DomainEvent) (ledger : Ledger) :
    Except PaperError PaperPosition × Ledger :=
  runCommand env (reconcileCloseChecks engine triggerEvent)
    (reconcileCloseTransaction engine env positionId) ledger

def retractChecks (triggerEvent : DomainEvent) : Checked DomainEvent := do
  requirePaperMode engine
  let trigger ← snapshotTrigger triggerEvent
  require (trigger.confirmationStatus = .orphaned) (.paperTrading .TRIGGER_ORPHANED
    "La rétraction paper exige un événement orphaned.")
  return trigger

def retractTransaction (positionId : String) : PaperTx PaperPosition := do
  match ← findPosition positionId with
  | none => throw positionNotFound
  | some current => retractCurrent engine (env.clock 0) current

def retract (positionId : String) (triggerEvent : DomainEvent) (ledger : Ledger) :
    Except PaperError PaperPosition × Ledger :=
  runCommand env (retractChecks engine triggerEvent)
    (fun _ => retractTransaction engine env positionId) ledger

/-! ## Runs of commands -/

inductive PaperCommand where
  | open (command : OpenPaperPositionCommand)
  | reconcileOpen (command : OpenPaperPositionCommand)
  | close (command : ClosePaperPositionCommand)
  | reconcileClose (positionId : String) (trigger : DomainEvent)
  | retract (positionId : String) (trigger : DomainEvent)

def execute (ledger : Ledger) :
    PaperCommand → Except PaperError PaperPosition × Ledger
  | .open command => openPosition engine env command ledger
  | .reconcileOpen command => reconcileOpen engine env command ledger
  | .close command => closePosition engine env command ledger
  | .reconcileClose positionId trigger => reconcileClose engine env positionId trigger ledger
  | .retract positionId trigger => retract engine env positionId trigger ledger

/-- The ledger after a sequence of commands, each with its own surroundings. -/
def runCommands (ledger : Ledger) (commands : List (Environment × PaperCommand)) : Ledger :=
  commands.foldl (fun ledger entry => (execute engine entry.1 ledger entry.2).2) ledger

end SolTokenListener.Source.PaperTradingEngine
