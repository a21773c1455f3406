import SolTokenListener.Lib.JsonText

/-!
# The text check of qualification profiles

Source: src/qualification/qualification-profile.ts:20-21, 293-491. The text is the list of its UTF-16 units
and an index into it is what remains of it from there on. The frames are listed from the innermost one
outwards. `loop` is the `for (;;)`, one turn at a time, with `none` for a loop that has not ended yet.
-/

namespace SolTokenListener.Source.ProfileJsonText

open Lib.JsonText (Text ascii hexUnit)

def MAX_PROFILE_JSON_DEPTH : Nat := 64
def MAX_PROFILE_JSON_NODES : Nat := 10000

/-! ## Scanners -/

/-- `text[index] === unit`, and then the text behind it. -/
def expect (unit : Nat) : Text → Option Text
  | [] => none
  | first :: rest => if first = unit then some rest else none

def skipJsonWhitespace (text : Text) : Text :=
  text.dropWhile fun unit => unit = 32 ∨ unit = 10 ∨ unit = 13 ∨ unit = 9

def isDigit (unit : Option Nat) : Bool := unit.any fun value => 48 ≤ value ∧ value ≤ 57
def isNonZeroDigit (unit : Option Nat) : Bool := unit.any fun value => 49 ≤ value ∧ value ≤ 57

def skipDigits (text : Text) : Text := text.dropWhile fun unit => isDigit (some unit)

def requireDigits (text : Text) : Option Text := if isDigit text.head? then some (skipDigits text) else none

def scanInteger (text : Text) : Option Text :=
  match expect 48 text with
  | some rest => if isDigit rest.head? then none else some rest
  | none => if isNonZeroDigit text.head? then some (skipDigits text) else none

def scanFraction (text : Text) : Option Text :=
  match expect 46 text with
  | some rest => requireDigits rest
  | none => some text

def scanExponent (text : Text) : Option Text :=
  match (expect 101 text).or (expect 69 text) with
  | some rest => requireDigits (((expect 43 rest).or (expect 45 rest)).getD rest)
  | none => some text

def scanJsonNumber (text : Text) : Option Text :=
  ((scanInteger ((expect 45 text).getD text)).bind scanFraction).bind scanExponent

def scanLiteral (literal : String) (text : Text) : Option Text :=
  if (ascii literal).isPrefixOf text then some (text.drop (ascii literal).length) else none

def JSON_SIMPLE_ESCAPES (escape : Nat) : Option Nat :=
  if escape = 34 then some 34
  else if escape = 92 then some 92
  else if escape = 47 then some 47
  else if escape = 98 then some 8
  else if escape = 102 then some 12
  else if escape = 110 then some 10
  else if escape = 114 then some 13
  else if escape = 116 then some 9
  else none

def prepend (unit : Nat) (scanned : Text × Text) : Text × Text := (unit :: scanned.1, scanned.2)

/-- The decoded value and what is behind the closing quote, for a text behind its opening quote. -/
def scanJsonString : Text → Option (Text × Text)
  | [] => none
  | code :: rest =>
    if code = 0x22 then some ([], rest)
    else if code < 0x20 then none
    else if code ≠ 0x5c then (scanJsonString rest).map (prepend code)
    else
      match rest with
      | [] => none
      | escape :: rest =>
        match JSON_SIMPLE_ESCAPES escape with
        | some simpleEscape => (scanJsonString rest).map (prepend simpleEscape)
        | none =>
          if escape ≠ 117 then none
          else
            match rest with
            | a :: b :: c :: d :: rest =>
              (hexUnit a b c d).bind fun unit => (scanJsonString rest).map (prepend unit)
            | _ => none

/-! ## The loop -/

inductive ArrayState where
  | valueOrEnd | value | commaOrEnd

inductive ObjectState where
  | keyOrEnd | key | colon | value | commaOrEnd

inductive JsonFrame where
  | array (state : ArrayState)
  | object (state : ObjectState) (keys : List Text)

/-- `'value' | 'end'`. -/
inductive RootState where
  | value | ended

structure Scan where
  frames : List JsonFrame
  rootState : RootState
  rest : Text
  nodes : Nat

inductive Turn where
  | returned
  | thrown
  | continued (scan : Scan)

def Scan.resume (scan : Scan) : Option Text → Turn
  | none => .thrown
  | some rest => .continued { scan with rest }

/-- The scan stands at the value, with the state of its frame already moved on. -/
def consumeValue (before : Scan) : Turn :=
  let scan := { before with nodes := before.nodes + 1 }
  if MAX_PROFILE_JSON_NODES < scan.nodes then .thrown
  else
    let character := scan.rest.head?
    if character = some 34 then scan.resume ((scanJsonString scan.rest.tail).map Prod.snd)
    else if character = some 123 ∨ character = some 91 then
      if MAX_PROFILE_JSON_DEPTH ≤ scan.frames.length then .thrown
      else
        let opened := if character = some 123 then .object .keyOrEnd [] else .array .valueOrEnd
        .continued { scan with frames := opened :: scan.frames, rest := scan.rest.tail }
    else if character = some 116 then scan.resume (scanLiteral "true" scan.rest)
    else if character = some 102 then scan.resume (scanLiteral "false" scan.rest)
    else if character = some 110 then scan.resume (scanLiteral "null" scan.rest)
    else scan.resume (scanJsonNumber scan.rest)

/-- The key of a member; the object has seen `keys`. -/
def consumeKey (scan : Scan) (keys : List Text) (below : List JsonFrame) : Turn :=
  match (expect 34 scan.rest).bind scanJsonString with
  | none => .thrown
  | some (key, rest) =>
    if key ∈ keys then .thrown
    else .continued { scan with frames := .object .colon (key :: keys) :: below, rest }

/-- A comma leads to the frame `next`, the closing bracket to the frames below. -/
def consumeSeparator (scan : Scan) (close : Nat) (next : JsonFrame) (below : List JsonFrame) : Turn :=
  match expect 44 scan.rest with
  | some rest => .continued { scan with frames := next :: below, rest }
  | none => Scan.resume { scan with frames := below } (expect close scan.rest)

/-- One turn of the loop, for a scan behind the white space. -/
def turn (scan : Scan) : Turn :=
  match scan.frames with
  | [] =>
    match scan.rootState with
    | .ended => if scan.rest.isEmpty then .returned else .thrown
    | .value => if scan.rest.isEmpty then .thrown else consumeValue { scan with rootState := .ended }
  | .object .keyOrEnd keys :: below =>
    match expect 125 scan.rest with
    | some rest => .continued { scan with frames := below, rest }
    | none => consumeKey scan keys below
  | .object .key keys :: below => consumeKey scan keys below
  | .object .colon keys :: below =>
    Scan.resume { scan with frames := .object .value keys :: below } (expect 58 scan.rest)
  | .object .value keys :: below => consumeValue { scan with frames := .object .commaOrEnd keys :: below }
  | .object .commaOrEnd keys :: below => consumeSeparator scan 125 (.object .key keys) below
  | .array .valueOrEnd :: below =>
    match expect 93 scan.rest with
    | some rest => .continued { scan with frames := below, rest }
    | none => consumeValue { scan with frames := .array .commaOrEnd :: below }
  | .array .value :: below => consumeValue { scan with frames := .array .commaOrEnd :: below }
  | .array .commaOrEnd :: below => consumeSeparator scan 93 (.array .value) below

/-- Whether the loop returned or threw, after at most so many turns. -/
def loop : Nat → Scan → Option Bool
  | 0, _ => none
  | turns + 1, scan =>
    match turn { scan with rest := skipJsonWhitespace scan.rest } with
    | .returned => some true
    | .thrown => some false
    | .continued next => loop turns next

/-- The call, as far as so many turns: whether it returned or threw. -/
def validateJsonText (turns : Nat) (text : Text) : Option Bool := loop turns ⟨[], .value, text, 0⟩

end SolTokenListener.Source.ProfileJsonText
