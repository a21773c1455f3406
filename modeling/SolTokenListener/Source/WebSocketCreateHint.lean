import SolTokenListener.Lib.Base58
import SolTokenListener.Lib.DecimalUnits
import SolTokenListener.Lib.JsonText
import SolTokenListener.Lib.StackScanner
import SolTokenListener.Lib.TextPattern
import SolTokenListener.Source.Chain

/-!
# Passive mentions of Pump in websocket logs

Source: src/launchpads/pumpfun/websocket-create-hint.ts:20-94,164-223. Logs and veto programs are lists
of texts, so the tests of proxies, holes and accessors of `snapshotLogs` have nothing left to reject; its
limits are modelled. A text is the list of its UTF-16 units, lone surrogates included. The parser of
public keys and the Unicode classes of the control test are parameters. The create and trade hints of the
same file are not modelled.
-/

namespace SolTokenListener.Source.WebSocketCreateHint

open Lib Lib.TextPattern
open Lib.DecimalUnits (isDigit natUnits)
open Lib.JsonText (Text ascii byteLength isHigh isLow)
open Lib.StackScanner (Move)
open Source.Chain (MAX_SAFE_INTEGER)

structure Libraries where
  /-- `new PublicKey(value).toBase58() === value`, without throwing. -/
  isPublicKey : Text → Bool
  /-- The code points of `[\p{Cc}\p{Cf}\p{Zl}\p{Zp}]`. -/
  isControl : Nat → Bool

def PUMP_PROGRAM_ID : Text := ascii "6EF8rrecthR5Dkzon8Nwu78hRvfCKubJ14M5uBEwF6P"
def MAX_PUMPFUN_WEBSOCKET_LOG_COUNT : Nat := 256
def MAX_PUMPFUN_WEBSOCKET_LOG_LINE_BYTES : Nat := 16384
def MAX_PUMPFUN_WEBSOCKET_LOG_TOTAL_BYTES : Nat := 65536
def MAX_VETO_PROGRAM_COUNT : Nat := 16

/-! ## Line patterns -/

def text (value : String) : Pattern Nat := .literal (ascii value)

def isBase58 (unit : Nat) : Bool := unit ∈ Base58.ALPHABET.map Char.toNat

/-- `([1-9A-HJ-NP-Za-km-z]{32,44})`. -/
def programGroup : Pattern Nat := .group "program" (.repeated isBase58 32 (some 44))

/-- `[1-9][0-9]*`. -/
def positiveDecimal : Pattern Nat :=
  .seq (.repeated (fun unit => isDigit unit ∧ unit ≠ 48) 1 (some 1)) (.repeated isDigit 0 none)

/-- `0|[1-9][0-9]*`. -/
def unsignedDecimal : Pattern Nat := .alt (text "0") positiveDecimal

def PASSIVE_PROGRAM_INVOCATION : Pattern Nat :=
  .seq (text "Program ") (.seq programGroup
    (.seq (text " invoke [") (.seq (.group "depth" positiveDecimal) (text "]"))))

def PASSIVE_PROGRAM_SUCCESS : Pattern Nat :=
  .seq (text "Program ") (.seq programGroup (text " success"))

def PASSIVE_PROGRAM_CONSUMPTION : Pattern Nat :=
  .seq (text "Program ") (.seq programGroup
    (.seq (text " consumed ") (.seq (.group "consumed" unsignedDecimal)
      (.seq (text " of ") (.seq (.group "available" unsignedDecimal) (text " compute units"))))))

def group (name : String) (captures : Captures Nat) : Option Text :=
  (captures.find? (·.1 = name)).map (·.2)

/-- `Number` of a text of digits; beyond the safe integers only that it is beyond them matters. -/
def number (digits : Text) : Nat :=
  digits.foldl (fun value digit => 10 * value + (digit - 48)) 0

def isSafeNumber (value : Nat) : Bool := (value : Int) ≤ MAX_SAFE_INTEGER

/-! ## Snapshots -/

/-- The loop of `snapshotLogs` over the lines, with the bytes so far. -/
def withinBytes (totalBytes : Nat) : List Text → Bool
  | [] => true
  | line :: rest =>
    let bytes := byteLength line
    ¬ (bytes > MAX_PUMPFUN_WEBSOCKET_LOG_LINE_BYTES ∨
      totalBytes + bytes > MAX_PUMPFUN_WEBSOCKET_LOG_TOTAL_BYTES) ∧
      withinBytes (totalBytes + bytes) rest

def snapshotLogs (value : List Text) : Option (List Text) :=
  if value.length > MAX_PUMPFUN_WEBSOCKET_LOG_COUNT then none
  else if withinBytes 0 value then some value else none

def snapshotVetoPrograms (libraries : Libraries) (value : List Text) : Option (List Text) := do
  let programs ← snapshotLogs value
  if programs.length > MAX_VETO_PROGRAM_COUNT then none
  else if programs.all fun program =>
      32 ≤ program.length ∧ program.length ≤ 44 ∧ libraries.isPublicKey program then some programs
  else none

/-! ## The scanner -/

/-- The code points of a text; a lone surrogate is one of its own. -/
def codePoints : Text → List Nat
  | [] => []
  | [unit] => [unit]
  | unit :: next :: rest =>
    if isHigh unit ∧ isLow next then
      (0x10000 + (unit - 0xD800) * 0x400 + (next - 0xDC00)) :: codePoints rest
    else unit :: codePoints (next :: rest)

section Scanner

variable (libraries : Libraries) (vetoPrograms : List Text)

/-- A consumption line inside the frame of `current`. Where the source returns `false` a move is
`none`. -/
def consumptionMove (current : Text) (consumption : Captures Nat) : Option (Move Text) :=
  let consumed := number ((group "consumed" consumption).getD [])
  let available := number ((group "available" consumption).getD [])
  if group "program" consumption ≠ some current ∨ isSafeNumber consumed = false ∨
      isSafeNumber available = false ∨ consumed > available then none
  else some .stay

/-- A line inside the frame of `current` that opens none. -/
def insideMove (current : Text) (line : Text) : Option (Move Text) :=
  match exec PASSIVE_PROGRAM_SUCCESS line with
  | some success => if group "program" success ≠ some current then none else some .leave
  | none =>
    if (ascii "Program log: ").isPrefixOf line then some .stay
    else
      match exec PASSIVE_PROGRAM_CONSUMPTION line with
      | some consumption => consumptionMove current consumption
      | none => none

def invocationMove (stack : List Text) (invocation : Captures Nat) : Option (Move Text) :=
  let program := (group "program" invocation).getD []
  if group "depth" invocation ≠ some (natUnits (stack.length + 1)) ∨
      program = PUMP_PROGRAM_ID ∨ vetoPrograms.contains program ∨ libraries.isPublicKey program = false then none
  else some (.enter program)

/-- What a line does to the stack, the innermost program first. -/
def lineMove (stack : List Text) (line : Text) : Option (Move Text) :=
  if (codePoints line).any libraries.isControl = true then none
  else
    match exec PASSIVE_PROGRAM_INVOCATION line with
    | some invocation => invocationMove libraries vetoPrograms stack invocation
    | none =>
      match stack with
      | [] => none
      | current :: _ => insideMove current line

/-- The loop; `invoked` says that a program was pushed. -/
def scanLines (stack : List Text) (invoked : Bool) : List Text → Bool
  | [] => invoked ∧ stack.length = 0
  | line :: rest =>
    match lineMove libraries vetoPrograms stack line with
    | none => false
    | some (.enter program) => scanLines (program :: stack) true rest
    | some .leave => scanLines stack.tail invoked rest
    | some .stay => scanLines stack invoked rest

end Scanner

def isPassivePumpMentionFromLogs (libraries : Libraries) (logs vetoProgramIds : List Text) : Bool :=
  match snapshotLogs logs, snapshotVetoPrograms libraries vetoProgramIds with
  | some snapshot, some vetoPrograms =>
    if snapshot.length = 0 then false else scanLines libraries vetoPrograms [] false snapshot
  | _, _ => false

end SolTokenListener.Source.WebSocketCreateHint
