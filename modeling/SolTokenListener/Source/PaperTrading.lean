import SolTokenListener.Source.Chain
import SolTokenListener.Source.Qualification

/-!
# Paper positions, trades, commands and quote arithmetic

Source: src/domain/paper-trading.ts:1-158, src/paper/paper-math.ts:1-63. Amounts are
unbounded integers and bigint division truncates. An absent optional field is `none`; the
source tells `undefined` and `null` apart only where a value is read back from storage,
which maps both to `null`.
-/

namespace SolTokenListener.Source.PaperTrading

open Lib.Checked
open Source.Chain Source.Qualification

inductive PaperTradingErrorCode where
  | PAPER_MODE_DISABLED | QUALIFICATION_INVALID | QUALIFICATION_NOT_ACCEPTED
  | QUALIFICATION_BLOCKED | QUALIFICATION_NOT_CURRENT | QUOTE_MINT_NOT_ALLOWED | QUOTE_INVALID
  | ROUND_TRIP_LOSS_EXCEEDED | TRIGGER_ORPHANED | POSITION_NOT_FOUND | POSITION_NOT_OPEN
  | POSITION_CONFLICT | CLOSE_TRIGGER_MISMATCH
  deriving DecidableEq, Repr

/-- Everything a paper command can throw. -/
inductive PaperError where
  | paperTrading (code : PaperTradingErrorCode) (message : String)
  | domain (error : DomainError)
  | typeError (message : String)
  | rangeError (message : String)
  | database (message : String)
  deriving DecidableEq, Repr

abbrev Checked := Except PaperError

/-- An error of a domain helper, unchanged. -/
def domainChecked {α : Type} : Except DomainError α → Checked α
  | .ok value => .ok value
  | .error error => .error (.domain error)

inductive TokenProgramKind where
  | SPL_TOKEN | TOKEN_2022
  deriving DecidableEq, Repr

structure QuoteAsset where
  mint : String
  decimals : Int
  tokenProgram : TokenProgramKind
  deriving DecidableEq, Repr

structure PaperExecutionQuote where
  id : String
  inputMint : String
  outputMint : String
  amountInRaw : Int
  amountOutRaw : Int
  minimumAmountOutRaw : Int
  feesRaw : Int
  slippageBps : Int
  priceImpactBps : Int
  observedAtMs : Int
  observedSlot : Int
  deriving DecidableEq, Repr

structure PaperRoundTrip where
  quoteCostRaw : Int
  baseFilledRaw : Int
  returnRaw : Int
  lossRaw : Int
  lossBps : Int
  deriving DecidableEq, Repr

inductive PaperPositionStatus where
  | PAPER_HOLDING | PAPER_CLOSED | PAPER_RETRACTED
  deriving DecidableEq, Repr

inductive PaperTradeSide where
  | BUY | SELL
  deriving DecidableEq, Repr

structure PaperStrategyIdentity where
  id : String
  version : Int
  deriving DecidableEq, Repr

structure PaperCurrentQualificationIdentity where
  mint : String
  reportId : String
  qualificationEventId : String
  deriving DecidableEq, Repr

structure PaperPosition where
  id : String
  mint : String
  quoteAsset : QuoteAsset
  strategy : PaperStrategyIdentity
  status : PaperPositionStatus
  baseFilledRaw : Int
  remainingBaseRaw : Int
  quoteCostRaw : Int
  quoteProceedsRaw : Option Int
  grossPnlQuoteRaw : Option Int
  netPnlQuoteRaw : Option Int
  roundTripLossBps : Int
  entryTradeId : String
  exitTradeId : Option String
  openCommandHash : String
  closeCommandHash : Option String
  triggerEventId : String
  entryDecisionAtMs : Option Int
  entryDecisionJobId : Option String
  closeEventId : Option String
  exitTriggerAtMs : Option Int
  strategySessionId : Option String
  qualificationReportId : Option String
  candidateId : Option String
  openedAtMs : Int
  closedAtMs : Option Int
  purgeAfterMs : Option Int
  deriving DecidableEq, Repr

structure PaperTrade where
  id : String
  positionId : String
  side : PaperTradeSide
  quote : PaperExecutionQuote
  fillAmountOutRaw : Int
  reason : String
  createdAtMs : Int
  deriving DecidableEq, Repr

structure OpenPaperPositionCommand where
  mint : String
  quoteAsset : QuoteAsset
  strategy : PaperStrategyIdentity
  trigger : DomainEvent
  qualification : QualificationReport
  buyQuote : PaperExecutionQuote
  reverseSellQuote : PaperExecutionQuote
  maximumRoundTripLossBps : Int
  strategySessionId : Option String
  qualificationReportId : Option String
  candidateId : Option String
  expectedCurrentQualification : Option PaperCurrentQualificationIdentity
  entryDecisionAtMs : Option Int
  entryDecisionJobId : Option String
  deriving DecidableEq, Repr

structure ClosePaperPositionCommand where
  positionId : String
  trigger : DomainEvent
  sellQuote : PaperExecutionQuote
  reason : String
  exitTriggerAtMs : Option Int
  deriving DecidableEq, Repr

/-! ## Quote arithmetic -/

def MAX_BPS : Int := 10000

def invalid (field : String) : PaperError :=
  .paperTrading .QUOTE_INVALID ("Champ de quote invalide: " ++ field ++ ".")

def validateBps (field : String) (value : Int) : Checked Unit :=
  require (¬ (value < 0 ∨ value > MAX_BPS)) (invalid field)

def validatePaperQuote (quote : PaperExecutionQuote) : Checked Unit := do
  require (isBlank quote.id = false) (invalid "id")
  require (isBlank quote.inputMint = false) (invalid "inputMint")
  require (isBlank quote.outputMint = false) (invalid "outputMint")
  require (quote.inputMint ≠ quote.outputMint) (invalid "outputMint")
  require (¬ quote.amountInRaw ≤ 0) (invalid "amountInRaw")
  require (¬ quote.amountOutRaw ≤ 0) (invalid "amountOutRaw")
  require (¬ (quote.minimumAmountOutRaw ≤ 0 ∨ quote.minimumAmountOutRaw > quote.amountOutRaw))
    (invalid "minimumAmountOutRaw")
  require (¬ quote.feesRaw < 0) (invalid "feesRaw")
  validateBps "slippageBps" quote.slippageBps
  validateBps "priceImpactBps" quote.priceImpactBps
  domainChecked (assertValidTimestampMs .observedAtMs quote.observedAtMs)
  require (¬ quote.observedSlot < 0) (invalid "observedSlot")

def calculateLossBps (costRaw returnRaw : Int) : Checked Int := do
  require (¬ costRaw ≤ 0) (invalid "quoteCostRaw")
  require (¬ returnRaw < 0) (invalid "returnRaw")
  let lossRaw := if costRaw > returnRaw then costRaw - returnRaw else 0
  return if lossRaw = 0 then 0 else (lossRaw * MAX_BPS + costRaw - 1).tdiv costRaw

def calculateRoundTrip (buy reverseSell : PaperExecutionQuote) : Checked PaperRoundTrip := do
  validatePaperQuote buy
  validatePaperQuote reverseSell
  require (reverseSell.inputMint = buy.outputMint) (invalid "inputMint")
  require (reverseSell.outputMint = buy.inputMint) (invalid "outputMint")
  require (reverseSell.amountInRaw = buy.minimumAmountOutRaw) (invalid "amountInRaw")
  let lossRaw := if buy.amountInRaw > reverseSell.minimumAmountOutRaw then
    buy.amountInRaw - reverseSell.minimumAmountOutRaw else 0
  let lossBps ← calculateLossBps buy.amountInRaw reverseSell.minimumAmountOutRaw
  return {
    quoteCostRaw := buy.amountInRaw
    baseFilledRaw := buy.minimumAmountOutRaw
    returnRaw := reverseSell.minimumAmountOutRaw
    lossRaw, lossBps }

end SolTokenListener.Source.PaperTrading
