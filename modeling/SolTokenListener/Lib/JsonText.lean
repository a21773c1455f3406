/-!
# Units of JSON texts

Texts are lists of UTF-16 units: which of them are surrogates, digits and escapes, and how many bytes a
text has in UTF-8.
-/

namespace SolTokenListener.Lib.JsonText

abbrev Text := List Nat

def ascii (word : String) : Text := word.toList.map Char.toNat

def isHigh (unit : Nat) : Bool := 0xD800 ≤ unit ∧ unit ≤ 0xDBFF
def isLow (unit : Nat) : Bool := 0xDC00 ≤ unit ∧ unit ≤ 0xDFFF

def hexValue (unit : Nat) : Option Nat :=
  if 48 ≤ unit ∧ unit ≤ 57 then some (unit - 48)
  else if 97 ≤ unit ∧ unit ≤ 102 then some (unit - 87)
  else if 65 ≤ unit ∧ unit ≤ 70 then some (unit - 55)
  else none

def hexUnit (first second third fourth : Nat) : Option Nat := do
  let first ← hexValue first
  let second ← hexValue second
  let third ← hexValue third
  let fourth ← hexValue fourth
  return ((first * 16 + second) * 16 + third) * 16 + fourth

def simpleEscape (unit : Nat) : Option Nat :=
  if unit = 34 ∨ unit = 92 ∨ unit = 47 then some unit
  else if unit = 98 then some 8
  else if unit = 102 then some 12
  else if unit = 110 then some 10
  else if unit = 114 then some 13
  else if unit = 116 then some 9
  else none

def isDigit (unit : Nat) : Bool := 48 ≤ unit ∧ unit ≤ 57

/-! ## Bytes -/

def unitBytes (unit : Nat) : Nat := if unit < 0x80 then 1 else if unit < 0x800 then 2 else 3

/-- `Buffer.byteLength(text, 'utf8')`. -/
def byteLength : Text → Nat
  | [] => 0
  | [unit] => unitBytes unit
  | unit :: next :: rest =>
    if isHigh unit ∧ isLow next then 4 + byteLength rest
    else unitBytes unit + byteLength (next :: rest)

end SolTokenListener.Lib.JsonText
