import SolTokenListener.Lib.TextPattern
import SolTokenListener.Lib.Utf16Text
import SolTokenListener.Source.Chain

/-!
# Early exits of envelope positions

Source: src/domain/fast-exit.ts:1-285, src/domain/solana-public-key.ts:1-39. The facts and the policy
are taken as records with exactly their keys, so the prototype, proxy and freezing tests have nothing
to reject; a `bigint` and a safe integer are an `Int`. `Number` of a retry suffix is exact as far as it
is compared.
-/

namespace SolTokenListener.Source.FastExit

open Lib.Checked Lib.TextPattern Lib.Utf16Text
open Source.Chain

abbrev Checked := Except String

/-! ## Public keys -/

def BASE58_ALPHABET : List Char :=
  "123456789ABCDEFGHJKLMNPQRSTUVWXYZabcdefghijkmnopqrstuvwxyz".toList

/-- `while (carry > 0)`: the bytes of the carry, lowest first. -/
def carryBytes (carry : Nat) : List Nat :=
  if carry = 0 then [] else carry % 256 :: carryBytes (carry / 256)

/-- The little-endian bytes times 58 plus the carry. -/
def shiftDigit : List Nat → Nat → List Nat
  | [], carry => carryBytes carry
  | decoded :: rest, carry =>
    let next := decoded * 58 + carry
    next % 256 :: shiftDigit rest (next / 256)

def decodeLittleEndian (value : String) : Option (List Nat) :=
  value.toList.foldlM (fun decoded character =>
    (BASE58_ALPHABET.idxOf? character).map (shiftDigit decoded)) [0]

def isCanonicalSolanaPublicKey (value : String) : Bool :=
  if value.utf8ByteSize < 32 ∨ 44 < value.utf8ByteSize ∨
      value.toList.head?.any isTrimmed ∨ value.toList.getLast?.any isTrimmed then false
  else
    let leadingZeroBytes := (value.toList.takeWhile (· = '1')).length
    match decodeLittleEndian value with
    | none => false
    | some decoded => leadingZeroBytes + (if decoded = [0] then 0 else decoded.length) = 32

/-! ## Facts and policy -/

inductive FastExitReason where
  | envelopeRevoked | creatorSold | takeProfit | externalBuyers
  deriving DecidableEq, Repr

def FastExitReason.text : FastExitReason → String
  | .envelopeRevoked => "ENVELOPE_REVOKED"
  | .creatorSold => "CREATOR_SOLD"
  | .takeProfit => "TAKE_PROFIT"
  | .externalBuyers => "EXTERNAL_BUYERS"

/-- In evaluation order. -/
def FAST_EXIT_REASONS : List FastExitReason :=
  [.envelopeRevoked, .creatorSold, .takeProfit, .externalBuyers]

inductive ExitReason where
  | early (reason : FastExitReason)
  | deadline
  deriving DecidableEq, Repr

inductive TradeKind where
  | buy | sell
  deriving DecidableEq, Repr

structure FastExitPolicy where
  takeProfitBps : Int
  externalBuyersTarget : Int
  externalMinimumBuyRaw : Int
  deriving DecidableEq, Repr

structure FastExitTrade where
  eventId : String
  kind : TradeKind
  trader : Option String
  baseAmountRaw : Int
  quoteAmountRaw : Int
  slot : Int
  transactionIndex : Int
  instructionIndex : Int
  innerInstructionIndex : Option Int
  deriving DecidableEq, Repr

structure FastExitFacts where
  envelopeState : String
  /-- `none` is unknown or ambiguous. -/
  creator : Option String
  walletPublicKey : String
  remainingBaseRaw : Int
  quoteCostRaw : Int
  /-- `none` is unreadable. Otherwise filtered: slot after entry, WSOL, confirmed or finalized. -/
  trades : Option (List FastExitTrade)
  deriving DecidableEq, Repr

def BPS_DENOMINATOR : Int := 10000
def U64_MAX : Int := 18446744073709551615
def MINIMUM_TAKE_PROFIT_BPS : Int := 10001
def MAXIMUM_TAKE_PROFIT_BPS : Int := 100000
def MAXIMUM_BUYERS_TARGET : Int := 1000
def MAXIMUM_TRADES : Nat := 100000
def MAXIMUM_EVENT_ID_BYTES : Nat := 256
def ENVELOPE_STATES : List String := ["ACTIVE", "EXHAUSTED", "REVOKED", "EXPIRED"]

def INVALID_INPUT : String := "Invalid fast exit input."

/-! ## Checks -/

def publicKey (value : String) : Checked String := do
  require (isCanonicalSolanaPublicKey value) INVALID_INPUT
  return value

def amount (value : Int) : Checked Int := do
  require (0 ≤ value ∧ value ≤ U64_MAX) INVALID_INPUT
  return value

def index (value : Int) : Checked Int := do
  require (isSafeInteger value ∧ 0 ≤ value ∧ value ≤ 2147483647) INVALID_INPUT
  return value

def policyFrom (policy : FastExitPolicy) : Checked FastExitPolicy := do
  require (MINIMUM_TAKE_PROFIT_BPS ≤ policy.takeProfitBps ∧
    policy.takeProfitBps ≤ MAXIMUM_TAKE_PROFIT_BPS) INVALID_INPUT
  require (isSafeInteger policy.externalBuyersTarget ∧ 1 ≤ policy.externalBuyersTarget ∧
    policy.externalBuyersTarget ≤ MAXIMUM_BUYERS_TARGET) INVALID_INPUT
  let minimumBuy ← amount policy.externalMinimumBuyRaw
  require (1 ≤ minimumBuy) INVALID_INPUT
  return { policy with externalMinimumBuyRaw := minimumBuy }

def tradeFrom (trade : FastExitTrade) : Checked FastExitTrade := do
  require (trade.eventId ≠ "" ∧ trade.eventId.utf8ByteSize ≤ MAXIMUM_EVENT_ID_BYTES) INVALID_INPUT
  let trader ← trade.trader.mapM publicKey
  let baseAmountRaw ← amount trade.baseAmountRaw
  let quoteAmountRaw ← amount trade.quoteAmountRaw
  let slot ← amount trade.slot
  let transactionIndex ← index trade.transactionIndex
  let instructionIndex ← index trade.instructionIndex
  let innerInstructionIndex ← trade.innerInstructionIndex.mapM index
  return { trade with
    trader, baseAmountRaw, quoteAmountRaw, slot, transactionIndex, instructionIndex,
    innerInstructionIndex }

def tradesFrom (list : List FastExitTrade) : Checked (List FastExitTrade) := do
  require (list.length ≤ MAXIMUM_TRADES) INVALID_INPUT
  list.mapM tradeFrom

/-- The wallet and the amounts must be valid. A malformed creator becomes unknown, and a malformed
trade list, or any malformed trade in it, drops the whole list. -/
def factsFrom (facts : FastExitFacts) : Checked FastExitFacts := do
  let walletPublicKey ← publicKey facts.walletPublicKey
  let remainingBaseRaw ← amount facts.remainingBaseRaw
  let quoteCostRaw ← amount facts.quoteCostRaw
  return { facts with
    creator := facts.creator.bind fun creator => (publicKey creator).toOption
    walletPublicKey
    remainingBaseRaw
    quoteCostRaw
    trades := facts.trades.bind fun list => (tradesFrom list).toOption }

/-! ## Decision -/

def compareCursor (left right : FastExitTrade) : Int :=
  if left.slot ≠ right.slot then if left.slot > right.slot then 1 else -1
  else if left.transactionIndex ≠ right.transactionIndex then
    left.transactionIndex - right.transactionIndex
  else if left.instructionIndex ≠ right.instructionIndex then
    left.instructionIndex - right.instructionIndex
  else
    let leftInner := left.innerInstructionIndex.getD (-1)
    let rightInner := right.innerInstructionIndex.getD (-1)
    if leftInner ≠ rightInner then leftInner - rightInner
    -- Two trades at the same on-chain position should not exist.
    else if left.eventId = right.eventId then 0
    else if before right.eventId left.eventId then 1
    else -1

def creatorSold (input : FastExitFacts) (trades : List FastExitTrade) : Bool :=
  input.creator.isSome ∧ trades.any fun trade => trade.kind = .sell ∧ trade.trader = input.creator

/-- One pass of the loop that keeps the latest trade of others. -/
def keepLatest (walletPublicKey : String) (last : Option FastExitTrade) (trade : FastExitTrade) :
    Option FastExitTrade :=
  if trade.trader = some walletPublicKey ∨ trade.baseAmountRaw ≤ 0 then last
  else
    match last with
    | none => some trade
    | some kept => if compareCursor trade kept > 0 then some trade else some kept

def takesProfit (input : FastExitFacts) (rules : FastExitPolicy) (trades : List FastExitTrade) : Bool :=
  0 < input.quoteCostRaw ∧
    (trades.foldl (keepLatest input.walletPublicKey) none).any fun last =>
      input.quoteCostRaw * rules.takeProfitBps * last.baseAmountRaw ≤
        input.remainingBaseRaw * last.quoteAmountRaw * BPS_DENOMINATOR

/-- One pass of the loop that collects the wallets of external buyers. -/
def addBuyer (input : FastExitFacts) (rules : FastExitPolicy) (buyers : List String)
    (trade : FastExitTrade) : List String :=
  match trade.trader with
  | none => buyers
  | some trader =>
    if trade.kind ≠ .buy ∨ some trader = input.creator ∨ trader = input.walletPublicKey ∨
        trade.quoteAmountRaw < rules.externalMinimumBuyRaw then buyers
    else buyers.insert trader

def decideFastExit (facts : FastExitFacts) (policy : FastExitPolicy) :
    Checked (Option FastExitReason) := do
  let rules ← policyFrom policy
  require (facts.envelopeState ∈ ENVELOPE_STATES) INVALID_INPUT
  -- A revoked envelope exits whatever the trade data looks like.
  if facts.envelopeState = "REVOKED" then return some .envelopeRevoked
  else
    let input ← factsFrom facts
    match input.trades with
    | none => return none
    | some trades =>
      if creatorSold input trades then return some .creatorSold
      else if takesProfit input rules trades then return some .takeProfit
      else if rules.externalBuyersTarget ≤ (trades.foldl (addBuyer input rules) []).length then
        return some .externalBuyers
      else return none

/-! ## Logical keys -/

def MAXIMUM_RE_EXITS : Nat := 3

def isHexDigit (c : Char) : Bool := c.isDigit ∨ ('a' ≤ c ∧ c ≤ 'f')

def isReasonChar (c : Char) : Bool := ('A' ≤ c ∧ c ≤ 'Z') ∨ c = '_'

/-- A literal of a pattern. -/
def text (value : String) : Pattern Char := .literal value.toList

/-- `execution_live_position_[0-9a-f]{64}`. -/
def POSITION_ID : Pattern Char := .seq (text "execution_live_position_") (.repeated isHexDigit 64 (some 64))

/-- `a|b|…` of literals. -/
def anyOf : List String → Pattern Char
  | [] => .repeated (fun _ => false) 1 none
  | [value] => text value
  | value :: rest => .alt (text value) (anyOf rest)

/-- The keys that still admit a re-exit, as the database selects them. -/
def REEXIT_ELIGIBLE_LOGICAL_KEY_SQL_PATTERN : Pattern Char :=
  .seq (.seq (.seq
    (.alt (text "maximum-holding")
      (.seq (text "fast-exit:") (anyOf (FAST_EXIT_REASONS.map FastExitReason.text))))
    (text ":")) POSITION_ID)
    (.option (.seq (text ":retry-")
      (.repeated (fun c => '1'.toNat ≤ c.toNat ∧ c.toNat ≤ '0'.toNat + (MAXIMUM_RE_EXITS - 1)) 1 (some 1))))

def LOGICAL_KEY_PATTERN : Pattern Char :=
  .seq
    (.group "root" (.seq (.seq
      (.alt (text "maximum-holding")
        (.seq (text "fast-exit:") (.group "reason" (.repeated isReasonChar 1 none))))
      (text ":")) POSITION_ID))
    (.option (.seq (text ":retry-")
      (.group "retry" (.seq (.repeated (fun c => '1' ≤ c ∧ c ≤ '9') 1 (some 1))
        (.repeated Char.isDigit 0 none)))))

def fastExitLogicalCommandId (reason : FastExitReason) (positionId : String) : Checked String := do
  require (exec POSITION_ID positionId.toList).isSome "Invalid live position id."
  return "fast-exit:" ++ reason.text ++ ":" ++ positionId

structure LogicalKey where
  root : String
  reason : ExitReason
  retry : Nat
  deriving DecidableEq, Repr

/-- The number a run of digits writes. -/
def digitsValue (digits : List Char) : Nat :=
  digits.foldl (fun value digit => 10 * value + (digit.toNat - '0'.toNat)) 0

def reasonOf (group : Option (List Char)) : Option ExitReason :=
  match group with
  | none => some .deadline
  | some name => (FAST_EXIT_REASONS.find? fun reason => reason.text.toList = name).map .early

def parseLogicalKey (key : String) : Option LogicalKey := do
  if 256 < (units key).length then none
  else
    let groups ← exec LOGICAL_KEY_PATTERN key.toList
    let root ← groups.lookup "root"
    let retry := ((groups.lookup "retry").map digitsValue).getD 0
    if MAXIMUM_RE_EXITS < retry then none
    else
      let reason ← reasonOf (groups.lookup "reason")
      return ⟨String.ofList root, reason, retry⟩

def exitReasonOfLogicalKey (key : String) : Option ExitReason :=
  (parseLogicalKey key).map (·.reason)

def reExitLogicalCommandId (currentLogicalCommandId : String) : Option String :=
  match parseLogicalKey currentLogicalCommandId with
  | none => none
  | some parsed =>
    if MAXIMUM_RE_EXITS < parsed.retry + 1 then none
    else some (parsed.root ++ ":retry-" ++ toString (parsed.retry + 1))

end SolTokenListener.Source.FastExit
