import Mathlib.Algebra.Group.Nat.Defs
import SolTokenListener.Lib.KeyedRows
import SolTokenListener.Lib.Transaction
import SolTokenListener.Source.PaperTrading

/-!
# The paper-trading repository

Source: src/storage/paper-trading.repository.ts:38-611, with the table constraints of
migrations 004, 013, 018 and 019. The three tables are lists of rows. A row of
`paper_positions` is its decoded payload: every statement writes the columns and the payload
together, and only the columns that `decodePosition` reads are kept. Advisory locks order
transactions and change no row, so they are left out; transactions run one at a time.

`queriesLeft` lets the database refuse any query for reasons the model does not see (a lost
connection, a missing `token_launches` row). The tables of `requireCurrentQualification` are
outside the ledger; their answer is a parameter.
-/

namespace SolTokenListener.Source.PaperLedger

open Lib.Checked Lib.KeyedRows Lib.Transaction
open Source.Chain Source.PaperTrading

inductive PaperEventType where
  | PaperPositionOpened | PaperPositionClosed
  deriving DecidableEq, Repr

/-- A `domain_events` row whose source is `paper-trading`; its payload is the pair of
`position` and `trade`. -/
structure PaperEvent where
  id : String
  type : PaperEventType
  mint : String
  program : String
  signature : String
  cursor : ChainCursor
  confirmationStatus : ChainConfirmationStatus
  blockchainTimeMs : Option Int
  observedAtMs : Int
  position : PaperPosition
  trade : PaperTrade
  terminalAtMs : Option Int
  purgeAfterMs : Option Int
  deriving DecidableEq, Repr

structure Ledger where
  positions : List PaperPosition
  trades : List PaperTrade
  events : List PaperEvent
  deriving DecidableEq, Repr

def Ledger.empty : Ledger := ⟨[], [], []⟩

/-- The ledger inside one transaction; with `queriesLeft = some n` the database fails after
`n` more queries. -/
structure Store where
  ledger : Ledger
  queriesLeft : Option Nat
  deriving DecidableEq, Repr

abbrev PaperTx := Tx Store PaperError

def query : PaperTx Unit := do
  match (← get).queriesLeft with
  | none => return ()
  | some 0 => throw (.database "query failed")
  | some (left + 1) => modify fun store => { store with queriesLeft := some left }

def writeLedger (write : Ledger → Ledger) : PaperTx Unit :=
  modify fun store => { store with ledger := write store.ledger }

/-! ## Column types and constraints -/

/-- `NUMERIC(78,0)`. -/
def fitsNumeric (value : Int) : Bool := value.natAbs < 10 ^ 78

def INT4_MAX : Int := 2147483647

/-- `INTEGER`. -/
def fitsInteger (value : Int) : Bool := -INT4_MAX - 1 ≤ value ∧ value ≤ INT4_MAX

/-- A millisecond time that `new Date` and `TIMESTAMPTZ` both represent. -/
def fitsDate (value : Int) : Bool := -210866803200000 ≤ value ∧ value ≤ 8640000000000000

def constraint : PaperError := .database "constraint violation"

variable (position : PaperPosition) (trade : PaperTrade) (event : PaperEvent)

/-- The column types and CHECK constraints of `paper_positions`. -/
def positionRowValid : Bool :=
  (0 ≤ position.quoteAsset.decimals ∧ position.quoteAsset.decimals ≤ 255) ∧
  (0 < position.strategy.version ∧ fitsInteger position.strategy.version) ∧
  (fitsNumeric position.baseFilledRaw ∧ fitsNumeric position.remainingBaseRaw ∧
    fitsNumeric position.quoteCostRaw ∧ fitsNumeric position.roundTripLossBps ∧
    position.quoteProceedsRaw.all fitsNumeric ∧ position.grossPnlQuoteRaw.all fitsNumeric ∧
    position.netPnlQuoteRaw.all fitsNumeric) ∧
  (fitsDate position.openedAtMs ∧ position.closedAtMs.all fitsDate ∧
    position.purgeAfterMs.all fitsDate ∧ position.entryDecisionAtMs.all fitsDate ∧
    position.exitTriggerAtMs.all fitsDate) ∧
  (if position.status = .PAPER_HOLDING then
    position.closedAtMs = none ∧ position.purgeAfterMs = none
  else position.closedAtMs ≠ none ∧ position.purgeAfterMs ≠ none) ∧
  (position.entryDecisionJobId = none ∨ position.entryDecisionAtMs ≠ none) ∧
  position.entryDecisionJobId.all (fun id => 1 ≤ id.utf8ByteSize ∧ id.utf8ByteSize ≤ 256) ∧
  position.entryDecisionAtMs.all (· ≤ position.openedAtMs) ∧
  position.exitTriggerAtMs.all fun trigger => position.closedAtMs.all (trigger ≤ ·)

/-- The primary key and the three unique indexes of `paper_positions`. -/
def positionsCollide (row position : PaperPosition) : Bool :=
  row.id = position.id ∨
  (row.status = .PAPER_HOLDING ∧ position.status = .PAPER_HOLDING ∧ row.mint = position.mint ∧
    row.strategy = position.strategy) ∨
  (row.strategySessionId ≠ none ∧ row.strategySessionId = position.strategySessionId) ∨
  (row.closeEventId ≠ none ∧ row.closeEventId = position.closeEventId)

def quoteRowValid (quote : PaperExecutionQuote) : Bool :=
  fitsNumeric quote.amountInRaw ∧ fitsNumeric quote.amountOutRaw ∧
  fitsNumeric quote.minimumAmountOutRaw ∧ fitsNumeric quote.feesRaw ∧
  fitsNumeric quote.slippageBps ∧ fitsNumeric quote.priceImpactBps ∧
  fitsNumeric quote.observedSlot ∧ fitsDate quote.observedAtMs

def tradeRowValid : Bool :=
  quoteRowValid trade.quote ∧ fitsNumeric trade.fillAmountOutRaw ∧ fitsDate trade.createdAtMs

/-- `trade_id` and `(position_id, side)` are unique in `paper_trades`. -/
def tradesCollide (row trade : PaperTrade) : Bool :=
  row.id = trade.id ∨ (row.positionId = trade.positionId ∧ row.side = trade.side)

def eventRowValid : Bool :=
  fitsNumeric event.cursor.slot ∧ fitsInteger event.cursor.transactionIndex ∧
  fitsInteger event.cursor.instructionIndex ∧ event.cursor.innerInstructionIndex.all fitsInteger ∧
  event.blockchainTimeMs.all fitsDate ∧ fitsDate event.observedAtMs ∧
  event.terminalAtMs.all fitsDate ∧ event.purgeAfterMs.all fitsDate ∧
  (event.purgeAfterMs = none ∨ event.terminalAtMs ≠ none)

/-! ## Decoding a stored position -/

def invalidPayload (field : String) : PaperError :=
  .typeError ("Payload paper position invalide: " ++ field ++ ".")

def decodeText (value field : String) : Checked Unit :=
  require (value ≠ "") (invalidPayload field)

def decodeNullableText (value : Option String) (field : String) : Checked Unit :=
  require (value.all (· ≠ "")) (invalidPayload field)

def decodeBounded (value : Int) (field : String) (minimum maximum : Int) : Checked Unit :=
  require (isTimestampMs value ∧ minimum ≤ value ∧ value ≤ maximum) (invalidPayload field)

def decodeNullableInteger (value : Option Int) (field : String) : Checked Unit :=
  require (value.all isTimestampMs) (invalidPayload field)

def validatePositionState : Checked Unit := do
  require (¬ position.remainingBaseRaw > position.baseFilledRaw) (invalidPayload "remainingBaseRaw")
  match position.status with
  | .PAPER_HOLDING =>
    require (¬ (position.remainingBaseRaw = 0 ∨ position.quoteProceedsRaw ≠ none ∨
      position.grossPnlQuoteRaw ≠ none ∨ position.netPnlQuoteRaw ≠ none ∨
      position.exitTradeId ≠ none ∨ position.closeCommandHash ≠ none ∨
      position.closedAtMs ≠ none ∨ position.purgeAfterMs ≠ none)) (invalidPayload "status")
  | .PAPER_CLOSED =>
    require (¬ (position.remainingBaseRaw ≠ 0 ∨ position.quoteProceedsRaw = none ∨
      position.quoteProceedsRaw.any (· < 0) ∨ position.grossPnlQuoteRaw = none ∨
      position.netPnlQuoteRaw = none ∨ position.exitTradeId = none ∨
      position.closeCommandHash = none ∨ position.closedAtMs = none ∨
      position.purgeAfterMs = none ∨
      position.purgeAfterMs.any fun purge => position.closedAtMs.any (purge < ·)))
      (invalidPayload "status")
  | .PAPER_RETRACTED =>
    require (¬ (position.closedAtMs = none ∨ position.purgeAfterMs = none ∨
      position.purgeAfterMs.any fun purge => position.closedAtMs.any (purge < ·)))
      (invalidPayload "status")
    let retractedBeforeSell := position.remainingBaseRaw > 0 ∧
      position.quoteProceedsRaw = none ∧ position.grossPnlQuoteRaw = none ∧
      position.netPnlQuoteRaw = none ∧ position.exitTradeId = none ∧
      position.closeCommandHash = none
    let retractedAfterSell := position.remainingBaseRaw = 0 ∧
      position.quoteProceedsRaw ≠ none ∧ position.quoteProceedsRaw.all (· ≥ 0) ∧
      position.grossPnlQuoteRaw ≠ none ∧ position.netPnlQuoteRaw ≠ none ∧
      position.exitTradeId ≠ none ∧ position.closeCommandHash ≠ none
    require (retractedBeforeSell ∨ retractedAfterSell) (invalidPayload "status")

/-- The value tests of `decodePosition`; an accepted row is returned unchanged. -/
def decodePosition : Checked PaperPosition := do
  decodeNullableText position.strategySessionId "strategySessionId"
  require (position.strategySessionId = none ∨ position.qualificationReportId.any (· ≠ ""))
    (invalidPayload "qualificationReportId")
  require (position.strategySessionId = none ∨ position.candidateId.any (· ≠ ""))
    (invalidPayload "candidateId")
  decodeText position.id "id"
  decodeText position.mint "mint"
  decodeText position.quoteAsset.mint "quoteAsset.mint"
  decodeBounded position.quoteAsset.decimals "quoteAsset.decimals" 0 255
  decodeText position.strategy.id "strategy.id"
  decodeBounded position.strategy.version "strategy.version" 1 MAX_SAFE_INTEGER
  require (¬ position.baseFilledRaw ≤ 0) (invalidPayload "baseFilledRaw")
  require (¬ position.remainingBaseRaw < 0) (invalidPayload "remainingBaseRaw")
  require (¬ position.quoteCostRaw ≤ 0) (invalidPayload "quoteCostRaw")
  require (¬ (position.roundTripLossBps < 0 ∨ position.roundTripLossBps > 10000))
    (invalidPayload "roundTripLossBps")
  decodeText position.entryTradeId "entryTradeId"
  decodeNullableText position.exitTradeId "exitTradeId"
  decodeText position.openCommandHash "openCommandHash"
  decodeNullableText position.closeCommandHash "closeCommandHash"
  decodeText position.triggerEventId "triggerEventId"
  decodeNullableText position.entryDecisionJobId "source text"
  decodeNullableText position.closeEventId "source text"
  decodeBounded position.openedAtMs "openedAtMs" 0 MAX_SAFE_INTEGER
  decodeNullableInteger position.closedAtMs "closedAtMs"
  decodeNullableInteger position.purgeAfterMs "purgeAfterMs"
  validatePositionState position
  return position

/-! ## The transaction's operations -/

def requireCurrentQualification (isCurrent : PaperCurrentQualificationIdentity → Bool)
    (identity : PaperCurrentQualificationIdentity) : PaperTx Unit := do
  query
  check (require (isCurrent identity)
    (.paperTrading .QUALIFICATION_NOT_CURRENT "Paper qualification is not current."))

/-- `decodePosition(result.rows[0])`. -/
def decodeRow : Option PaperPosition → PaperTx (Option PaperPosition)
  | none => return none
  | some row => return some (← check (decodePosition row))

def findPosition (id : String) : PaperTx (Option PaperPosition) := do
  query
  decodeRow ((← get).ledger.positions.find? (·.id = id))

def findActivePosition (mint : String) (strategy : PaperStrategyIdentity) :
    PaperTx (Option PaperPosition) := do
  query
  decodeRow ((← get).ledger.positions.find? fun row =>
    row.mint = mint ∧ row.strategy = strategy ∧ row.status = .PAPER_HOLDING)

def insertPosition : PaperTx Unit := do
  query
  let positions := (← get).ledger.positions
  check (require (positionRowValid position ∧
    positions.any (positionsCollide · position) = false) constraint)
  writeLedger fun ledger => { ledger with positions := ledger.positions ++ [position] }

def insertTrade : PaperTx Unit := do
  query
  let ledger := (← get).ledger
  check (require (tradeRowValid trade ∧ ledger.positions.any (·.id = trade.positionId) ∧
    ledger.trades.any (tradesCollide · trade) = false) constraint)
  writeLedger fun ledger => { ledger with trades := ledger.trades ++ [trade] }

/-- `ON CONFLICT (event_id) DO NOTHING`. -/
def insertEvent (terminalAtMs purgeAfterMs : Option Int) : PaperTx Unit := do
  query
  let row := { event with terminalAtMs, purgeAfterMs }
  check (require (eventRowValid row) constraint)
  writeLedger fun ledger =>
    if ledger.events.any (·.id = event.id) then ledger
    else { ledger with events := ledger.events ++ [row] }

/-- `UPDATE paper_positions … WHERE` the selected rows; the constraints apply when some row
is selected. -/
def updatePositions (selected : PaperPosition → Bool) (position : PaperPosition) :
    PaperTx Unit := do
  query
  let positions := (← get).ledger.positions
  check (require (positions.any selected = true → (positionRowValid position ∧
    (positions.filter (fun row => selected row = false)).any (positionsCollide · position) = false))
    constraint)
  writeLedger fun ledger =>
    { ledger with positions := replaceWhere selected position ledger.positions }

def markPositionEventsTerminal : PaperTx Unit := do
  query
  writeLedger fun ledger =>
    { ledger with
      events := ledger.events.map fun event =>
        if event.position.id = position.id ∧ event.purgeAfterMs = none then
          { event with terminalAtMs := position.closedAtMs, purgeAfterMs := position.purgeAfterMs }
        else event }

def insertOpened : PaperTx Unit := do
  insertPosition position
  insertTrade trade
  insertEvent event none none

def updateClosed : PaperTx Unit := do
  insertEvent event position.closedAtMs position.purgeAfterMs
  updatePositions (fun row => row.id = position.id ∧ row.status = .PAPER_HOLDING) position
  insertTrade trade
  markPositionEventsTerminal position

def retractPosition : PaperTx Unit := do
  updatePositions (fun row => row.id = position.id) position
  markPositionEventsTerminal position

/-- `LEAST(a, b)` where an absent side is ignored. -/
def least (stored : Option Int) (incoming : Option Int) : Option Int :=
  match stored, incoming with
  | none, value => value
  | value, none => value
  | some a, some b => some (min a b)

def reconcileEventConfirmation (eventId : String) (confirmationStatus : ChainConfirmationStatus)
    (blockchainTimeMs : Option Int) (observedAtMs : Int) : PaperTx Unit := do
  query
  match (← get).ledger.events.find? (·.id = eventId) with
  | none => throw (.typeError "Paper event is missing.")
  | some event =>
    let reconciliation ←
      check (domainChecked (reconcileConfirmationStatus event.confirmationStatus confirmationStatus))
    let next := if reconciliation = .update then confirmationStatus else event.confirmationStatus
    query
    check (require (blockchainTimeMs.all fitsDate ∧ fitsDate observedAtMs) constraint)
    writeLedger fun ledger =>
      { ledger with
        events := ledger.events.map fun row =>
          if row.id = eventId then
            { row with
              confirmationStatus := next
              blockchainTimeMs := least row.blockchainTimeMs blockchainTimeMs
              observedAtMs := min row.observedAtMs observedAtMs }
          else row }

/-- `PostgresPaperTradingRepository.transact`, the commit being a query as well. -/
def transactPaper {α : Type} (queriesLeft : Option Nat) (operation : PaperTx α) (ledger : Ledger) :
    Except PaperError α × Ledger :=
  let (result, store) := transact (do let value ← operation; query; return value)
    ⟨ledger, queriesLeft⟩
  (result, store.ledger)

end SolTokenListener.Source.PaperLedger
