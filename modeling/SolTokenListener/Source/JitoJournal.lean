import SolTokenListener.Source.JitoConfig

/-!
# Journal of the JitoSOL bot

Source: src/jitosol/journal.ts:9-64, src/jitosol/types.ts:64-150. `validateJournalState` returns
its argument when it accepts it. The text that describes schema issues is left open, as is the
canonical base64 test.
-/

namespace SolTokenListener.Source.JitoJournal

open Lib.Checked Source.Chain Source.JitoConfig

/-! ## Data -/

inductive ActionKind where
  | buy | withdraw | deactivate | claim
  deriving DecidableEq, Repr

def ActionKind.text : ActionKind → String
  | .buy => "buy"
  | .withdraw => "withdraw"
  | .deactivate => "deactivate"
  | .claim => "claim"

structure ExpectedEffects where
  stakeAddress : Option String
  minJitoReceivedUnits : Option String
  jitoSpentUnits : Option String
  refundableRentLamports : Option String
  minimumRedemptionLamports : Option String
  deriving DecidableEq

structure PendingTransaction where
  kind : ActionKind
  signature : String
  wireTransactionBase64 : String
  lastValidBlockHeight : Int
  preparedAtMs : Int
  quoteExpiresAtMs : Option Int
  estimatedFeeLamports : String
  expected : ExpectedEffects
  broadcastAttempts : Option Int
  lastBroadcastAtMs : Option Int
  lastBroadcastError : Option String
  deriving DecidableEq

structure TransactionEffects where
  feeLamports : String
  actualInputLamports : Option String
  actualJitoReceivedUnits : Option String
  actualJitoSpentUnits : Option String
  stakeAddress : Option String
  actualClaimedLamports : Option String
  refundableRentLamports : Option String
  nonRefundableCostLamports : Option String
  deriving DecidableEq

inductive PositionStage where
  | buyPending | purchased | withdrawn | deactivated | complete
  deriving DecidableEq, Repr

structure Position where
  id : String
  stage : PositionStage
  openedAtMs : Int
  inputLamports : String
  actualJitoReceivedUnits : String
  stakeAddress : Option String
  stakeRentLamports : String
  tokenAccountRentLamports : String
  feesLamports : String
  nonRefundableCostLamports : String
  actualClaimedLamports : Option String
  realizedProfitLamports : Option String
  completedAtMs : Option Int
  deriving DecidableEq

inductive JournalStatus where
  | running | halted
  deriving DecidableEq, Repr

structure Confirmation where
  quoteId : String
  observedAtMs : Int
  contextSlot : Int
  deriving DecidableEq

inductive ReceiptOutcome where
  | finalized | failed
  deriving DecidableEq, Repr

structure TransactionRecord where
  positionId : String
  transaction : PendingTransaction
  outcome : ReceiptOutcome
  effects : TransactionEffects
  recordedAtMs : Int
  deriving DecidableEq

structure JournalState where
  configFingerprint : String
  sequence : Int
  status : JournalStatus
  haltReason : Option String
  completedCycles : Int
  totalFeesLamports : String
  realizedProfitLamports : String
  realizedLossLamports : String
  confirmation : Option Confirmation
  position : Option Position
  pending : Option PendingTransaction
  transactions : List TransactionRecord
  completedPositions : List Position
  deriving DecidableEq

/-! ## Schema -/

/-- What the schema library decides outside this model. -/
structure JournalCodecs where
  canonicalBase64 : String → Bool
  schemaIssues : JournalState → String

/-- The length of a JavaScript string, in UTF-16 units. -/
def utf16Length (value : String) : Nat :=
  value.toList.foldl (fun length c => length + if 0x10000 ≤ c.toNat then 2 else 1) 0

/-- `z.number().int().nonnegative().max(Number.MAX_SAFE_INTEGER)`. -/
def isInteger (value : Int) : Bool := 0 ≤ value ∧ value ≤ MAX_SAFE_INTEGER

def isSignedDecimal (value : String) : Bool :=
  match value.toList with
  | '-' :: digits => isUnsignedDecimal (String.ofList digits)
  | _ => isUnsignedDecimal value

/-- `z.string().regex(/^-?(0|[1-9]\d*)$/).max(24)`. -/
def isSigned (value : String) : Bool := utf16Length value ≤ 24 ∧ isSignedDecimal value

def isFingerprint (value : String) : Bool :=
  value.length = 64 ∧ value.toList.all fun c => c.isDigit ∨ ('a' ≤ c ∧ c ≤ 'f')

def isSchemaTransaction (codecs : JournalCodecs) (transaction : PendingTransaction) : Bool :=
  1 ≤ utf16Length transaction.signature ∧ utf16Length transaction.signature ≤ 128 ∧
    4 ≤ utf16Length transaction.wireTransactionBase64 ∧
    utf16Length transaction.wireTransactionBase64 ≤ 10000 ∧
    codecs.canonicalBase64 transaction.wireTransactionBase64 ∧
    isInteger transaction.lastValidBlockHeight ∧ isInteger transaction.preparedAtMs ∧
    transaction.quoteExpiresAtMs.all isInteger ∧ isAmount transaction.estimatedFeeLamports ∧
    transaction.expected.stakeAddress.all (· ≠ "") ∧
    transaction.expected.minJitoReceivedUnits.all isAmount ∧
    transaction.expected.jitoSpentUnits.all isAmount ∧
    transaction.expected.refundableRentLamports.all isAmount ∧
    transaction.expected.minimumRedemptionLamports.all isAmount ∧
    transaction.broadcastAttempts.all isInteger ∧ transaction.lastBroadcastAtMs.all isInteger

def isSchemaEffects (effects : TransactionEffects) : Bool :=
  isAmount effects.feeLamports ∧ effects.actualInputLamports.all isAmount ∧
    effects.actualJitoReceivedUnits.all isAmount ∧ effects.actualJitoSpentUnits.all isAmount ∧
    effects.stakeAddress.all (· ≠ "") ∧ effects.actualClaimedLamports.all isAmount ∧
    effects.refundableRentLamports.all isAmount ∧ effects.nonRefundableCostLamports.all isAmount

def isSchemaPosition (position : Position) : Bool :=
  position.id ≠ "" ∧ isInteger position.openedAtMs ∧ isAmount position.inputLamports ∧
    isAmount position.actualJitoReceivedUnits ∧ position.stakeAddress.all (· ≠ "") ∧
    isAmount position.stakeRentLamports ∧ isAmount position.tokenAccountRentLamports ∧
    isAmount position.feesLamports ∧ isAmount position.nonRefundableCostLamports ∧
    position.actualClaimedLamports.all isAmount ∧ position.realizedProfitLamports.all isSigned ∧
    position.completedAtMs.all isInteger

def isSchemaRecord (codecs : JournalCodecs) (record : TransactionRecord) : Bool :=
  record.positionId ≠ "" ∧ isSchemaTransaction codecs record.transaction ∧
    isSchemaEffects record.effects ∧ isInteger record.recordedAtMs

def isSchemaJournal (codecs : JournalCodecs) (state : JournalState) : Bool :=
  isFingerprint state.configFingerprint ∧ isInteger state.sequence ∧ isInteger state.completedCycles ∧
    isAmount state.totalFeesLamports ∧ isSigned state.realizedProfitLamports ∧
    isAmount state.realizedLossLamports ∧
    state.confirmation.all (fun confirmation => confirmation.quoteId ≠ "" ∧
      isInteger confirmation.observedAtMs ∧ isInteger confirmation.contextSlot) ∧
    state.position.all isSchemaPosition ∧ state.pending.all (isSchemaTransaction codecs) ∧
    state.transactions.all (isSchemaRecord codecs) ∧ state.transactions.length ≤ 1000 ∧
    state.completedPositions.all isSchemaPosition ∧ state.completedPositions.length ≤ 100

/-! ## Validation -/

/-- The profit of a completed position, which must carry its realized accounting. -/
def completedProfit (position : Position) : Checked Int :=
  match position.realizedProfitLamports, position.actualClaimedLamports, position.completedAtMs with
  | some profit, some _, some _ => return signedValue profit
  | _, _, _ => throw "completed position lacks realized accounting"

def realizedTotals : List Position → Checked (Int × Int)
  | [] => return (0, 0)
  | position :: rest => do
    let profit ← completedProfit position
    let (realizedProfit, realizedLoss) ← realizedTotals rest
    return (realizedProfit + profit, if profit < 0 then realizedLoss - profit else realizedLoss)

def receiptFees : List TransactionRecord → Checked Nat
  | [] => return 0
  | record :: rest => do
    let fee ← amount record.effects.feeLamports
    let others ← receiptFees rest
    return fee + others

def journalFaults (codecs : JournalCodecs) (state : JournalState) : Checked Unit := do
  require (isSchemaJournal codecs state) (codecs.schemaIssues state)
  require (state.completedCycles = state.completedPositions.length)
    "completed cycle count does not match history"
  require (state.pending.isSome → state.position.isSome) "pending transaction has no position"
  require (state.status = .halted → state.haltReason.any (· ≠ "")) "halted journal has no reason"
  require (state.position.all (·.stage ≠ .complete) ∧
    state.completedPositions.all (·.stage = .complete)) "inconsistent position lifecycle"
  require (state.pending.all fun pending =>
      state.transactions.all fun record => record.transaction.signature ≠ pending.signature)
    "pending signature already recorded"
  let totalFees ← receiptFees state.transactions
  let recordedFees ← amount state.totalFeesLamports
  require (totalFees = recordedFees) "fee ledger total does not match receipts"
  let (realizedProfit, realizedLoss) ← realizedTotals state.completedPositions
  let recordedLoss ← amount state.realizedLossLamports
  require (realizedProfit = signedValue state.realizedProfitLamports ∧ realizedLoss = recordedLoss)
    "realized totals do not match completed positions"
  require (¬ (state.status = .running ∧ state.position.any (·.stage = .buyPending) ∧
      state.pending.map (·.kind) ≠ some .buy))
    "running buy-pending position has no pending buy"

def validateJournalState (codecs : JournalCodecs) (state : JournalState) : Checked Unit :=
  match journalFaults codecs state with
  | .ok () => return
  | .error fault => throw ("Invalid journal: " ++ fault)

end SolTokenListener.Source.JitoJournal
