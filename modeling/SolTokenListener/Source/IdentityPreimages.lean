import SolTokenListener.Lib.DecimalUnits
import SolTokenListener.Lib.Framing
import SolTokenListener.Lib.Utf8Decoder
import SolTokenListener.Lib.WireFormat
import SolTokenListener.Lib.JsonText

/-!
# What the identities are hashed from

Source: src/domain/execution-intent.ts:229-241, 453-468, 519-524, 543-546, 569-582, 626-635,
src/application/pumpfun-catch-up-block-classifier.ts:117-137, 657-684. A text is the list of its UTF-16
units, lone surrogates included; `Buffer.from(text, 'utf8')` writes U+FFFD for a lone surrogate. The hash
is a parameter. The other fields of a draft and of a discovery are not hashed and are left out.
-/

namespace SolTokenListener.Source.IdentityPreimages

open Lib
open Lib.Framing (prefixed)
open Lib.JsonText (Text ascii byteLength isHigh isLow)
open Lib.WireFormat (littleEndian)

/-! ## Bytes of texts -/

def REPLACEMENT_CHARACTER : Char := Char.ofNat 0xFFFD

def scalar (unit : Nat) : Char := if isHigh unit ∨ isLow unit then REPLACEMENT_CHARACTER else Char.ofNat unit

/-- The characters of a text, with U+FFFD for each lone surrogate. -/
def scalars : Text → List Char
  | [] => []
  | [unit] => [scalar unit]
  | unit :: next :: rest =>
    if isHigh unit ∧ isLow next then
      Char.ofNat (0x10000 + (unit - 0xD800) * 0x400 + (next - 0xDC00)) :: scalars rest
    else scalar unit :: scalars (next :: rest)

/-- `Buffer.from(text, 'utf8')`. -/
def utf8 (text : Text) : List UInt8 := Utf8Decoder.encode (scalars text)

/-- `String(number)`. -/
def decimal (number : Nat) : Text := DecimalUnits.natUnits number

/-! ## Execution intents -/

inductive ExecutionIntentSide where
  | BUY | SELL
  deriving DecidableEq, Repr

def sideText : ExecutionIntentSide → Text
  | .BUY => ascii "BUY"
  | .SELL => ascii "SELL"

structure ExecutionIntentIdentity (Content : Type) where
  strategyId : Content
  strategyVersion : Nat
  positionId : Content
  side : ExecutionIntentSide
  logicalCommandId : Content
  deriving DecidableEq, Repr

def ExecutionIntentIdentity.map {A B : Type} (f : A → B) (identity : ExecutionIntentIdentity A) :
    ExecutionIntentIdentity B :=
  { identity with
    strategyId := f identity.strategyId
    positionId := f identity.positionId
    logicalCommandId := f identity.logicalCommandId }

def INT32_MAX : Nat := 2147483647

/-- `textFrom` returns what it accepts. -/
def isText (value : Text) : Bool := value ≠ [] ∧ byteLength value ≤ 256

/-- `identityFrom` returns what it accepts. -/
def isIdentity (identity : ExecutionIntentIdentity Text) : Bool :=
  isText identity.strategyId ∧ (1 ≤ identity.strategyVersion ∧ identity.strategyVersion ≤ INT32_MAX) ∧
    isText identity.positionId ∧ isText identity.logicalCommandId

/-- `writeUInt32BE`. -/
def uint32 (length : Nat) : List UInt8 := (littleEndian 4 length).reverse

def lengthPrefixedUtf8 (values : List Text) : List UInt8 := values.flatMap fun value => prefixed uint32 (utf8 value)

def identityTexts (identity : ExecutionIntentIdentity Text) : List Text :=
  [ascii "execution-intent-v1", identity.strategyId, decimal identity.strategyVersion, identity.positionId,
    sideText identity.side, identity.logicalCommandId]

def createExecutionIntentId (sha256 : List UInt8 → String) (identity : ExecutionIntentIdentity Text) :
    Option String :=
  if isIdentity identity then some ("execution_intent_" ++ sha256 (lengthPrefixedUtf8 (identityTexts identity)))
  else none

/-! ## Catch-up decisions -/

inductive CatchUpClassificationDisposition where
  | ACTIONABLE | DEFERRED | IGNORED | QUARANTINED
  deriving DecidableEq, Repr

def dispositionText : CatchUpClassificationDisposition → Text
  | .ACTIONABLE => ascii "ACTIONABLE"
  | .DEFERRED => ascii "DEFERRED"
  | .IGNORED => ascii "IGNORED"
  | .QUARANTINED => ascii "QUARANTINED"

inductive CatchUpClassificationReasonCode where
  | PUMP_ACTION_SUPPORTED | PUMP_TRADE_UNTRACKED | SOLANA_TRANSACTION_FAILED
  | NO_SUPPORTED_PUMP_ACTION | PUMP_SCHEMA_UNSUPPORTED | PROVIDER_SIGNATURE_MISSING
  deriving DecidableEq, Repr

def reasonText : CatchUpClassificationReasonCode → Text
  | .PUMP_ACTION_SUPPORTED => ascii "PUMP_ACTION_SUPPORTED"
  | .PUMP_TRADE_UNTRACKED => ascii "PUMP_TRADE_UNTRACKED"
  | .SOLANA_TRANSACTION_FAILED => ascii "SOLANA_TRANSACTION_FAILED"
  | .NO_SUPPORTED_PUMP_ACTION => ascii "NO_SUPPORTED_PUMP_ACTION"
  | .PUMP_SCHEMA_UNSUPPORTED => ascii "PUMP_SCHEMA_UNSUPPORTED"
  | .PROVIDER_SIGNATURE_MISSING => ascii "PROVIDER_SIGNATURE_MISSING"

inductive TransactionNotificationIngestionHint where
  | PUMPFUN_CREATE | PUMPFUN_TRADE | PUMPFUN_CURVE_TRADE | PUMPSWAP_POOL_TRADE
  deriving DecidableEq, Repr

def hintText : TransactionNotificationIngestionHint → Text
  | .PUMPFUN_CREATE => ascii "PUMPFUN_CREATE"
  | .PUMPFUN_TRADE => ascii "PUMPFUN_TRADE"
  | .PUMPFUN_CURVE_TRADE => ascii "PUMPFUN_CURVE_TRADE"
  | .PUMPSWAP_POOL_TRADE => ascii "PUMPSWAP_POOL_TRADE"

inductive PumpInstructionFamily where
  | CREATE | BUY | SELL | MIGRATE
  deriving DecidableEq, Repr

def familyText : PumpInstructionFamily → Text
  | .CREATE => ascii "CREATE"
  | .BUY => ascii "BUY"
  | .SELL => ascii "SELL"
  | .MIGRATE => ascii "MIGRATE"

structure SemanticAction (Content : Type) where
  family : PumpInstructionFamily
  mint : Content
  instructionIndex : Nat
  innerInstructionIndex : Option Nat
  deriving DecidableEq, Repr

/-- A decision, with the signature and the slot of its discovery. -/
structure ClassificationDecision (Content : Type) where
  signature : Content
  slot : Nat
  disposition : CatchUpClassificationDisposition
  reasonCode : CatchUpClassificationReasonCode
  ingestionHint : Option TransactionNotificationIngestionHint
  ingestionHintMint : Option Content
  mints : List Content
  actions : List (SemanticAction Content)
  marker : Content
  deriving DecidableEq, Repr

def SemanticAction.map {A B : Type} (f : A → B) (action : SemanticAction A) : SemanticAction B :=
  { action with mint := f action.mint }

def ClassificationDecision.map {A B : Type} (f : A → B) (decision : ClassificationDecision A) :
    ClassificationDecision B :=
  { decision with
    signature := f decision.signature
    ingestionHintMint := decision.ingestionHintMint.map f
    mints := decision.mints.map f
    actions := decision.actions.map (·.map f)
    marker := f decision.marker }

def NONE : Text := ascii "NONE"

def actionSegment (action : SemanticAction Text) : Text :=
  ascii "ACTION:" ++ (decimal action.instructionIndex ++ ascii ":" ++
    ((action.innerInstructionIndex.map decimal).getD NONE ++ ascii ":" ++
      (familyText action.family ++ ascii ":" ++ action.mint)))

def evidenceSegments (decision : ClassificationDecision Text) : List Text :=
  [ascii "pumpfun-catch-up-classification-v1",
    ascii "SIGNATURE:" ++ decision.signature,
    ascii "SLOT:" ++ decimal decision.slot,
    ascii "DISPOSITION:" ++ dispositionText decision.disposition,
    ascii "REASON:" ++ reasonText decision.reasonCode,
    ascii "HINT:" ++ (decision.ingestionHint.map hintText).getD NONE,
    ascii "HINT_MINT:" ++ decision.ingestionHintMint.getD NONE,
    ascii "MINT_COUNT:" ++ decimal decision.mints.length] ++
  (decision.mints.map (ascii "MINT:" ++ ·) ++
    (ascii "ACTION_COUNT:" ++ decimal decision.actions.length) ::
      (decision.actions.map actionSegment ++ [ascii "OUTCOME:" ++ decision.marker]))

/-- `digest.update(String(bytes.length)); digest.update(':');` -/
def decimalHeader (length : Nat) : List UInt8 := utf8 (decimal length) ++ utf8 (ascii ":")

/-- What the digest of `evidenceFingerprint` is updated with. -/
def evidencePreimage (decision : ClassificationDecision Text) : List UInt8 :=
  (evidenceSegments decision).flatMap fun segment => prefixed decimalHeader (utf8 segment)

def evidenceFingerprint (sha256 : List UInt8 → String) (decision : ClassificationDecision Text) : String :=
  sha256 (evidencePreimage decision)

end SolTokenListener.Source.IdentityPreimages
