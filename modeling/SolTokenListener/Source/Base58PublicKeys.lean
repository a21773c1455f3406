import SolTokenListener.Lib.JsonText
import SolTokenListener.Source.FastExit

/-!
# The two tests of base58 public keys

Source: src/domain/solana-public-key.ts:1-39, src/domain/execution-intent.ts:127, 608-624. A text is the
list of its UTF-16 units, lone surrogates included; `for … of` visits a surrogate pair as one character.
-/

namespace SolTokenListener.Source.Base58PublicKeys

open Lib.JsonText (Text byteLength isHigh isLow)
open Source.Chain (isTrimmed)
open Source.FastExit (BASE58_ALPHABET shiftDigit)

def MIN_PUBLIC_KEY_TEXT_BYTES : Nat := 32
def MAX_PUBLIC_KEY_TEXT_BYTES : Nat := 44
def PUBLIC_KEY_BYTES : Nat := 32

/-- What `for (const character of value)` visits. -/
def characters : Text → List Text
  | [] => []
  | [unit] => [[unit]]
  | unit :: next :: rest =>
    if isHigh unit ∧ isLow next then [unit, next] :: characters rest
    else [unit] :: characters (next :: rest)

/-- `BASE58_VALUES.get(character)` and `BASE58_ALPHABET.indexOf(character)`. -/
def digitOf (character : Text) : Option Nat := (BASE58_ALPHABET.map fun c => [c.toNat]).idxOf? character

/-- A loop over the characters that returns at the first one that is no digit. -/
def foldDigits {α : Type} (next : α → Nat → α) (first : α) (value : Text) : Option α :=
  (characters value).foldlM (fun decoded character => (digitOf character).map (next decoded)) first

/-- `value !== value.trim()`. -/
def isPadded (value : Text) : Bool :=
  value.head?.any (fun unit => isTrimmed (Char.ofNat unit)) ||
    value.getLast?.any (fun unit => isTrimmed (Char.ofNat unit))

def isCanonicalSolanaPublicKey (value : Text) : Bool :=
  if byteLength value < MIN_PUBLIC_KEY_TEXT_BYTES ∨ MAX_PUBLIC_KEY_TEXT_BYTES < byteLength value ∨
      isPadded value then false
  else
    let leadingZeroBytes := ((characters value).takeWhile (· = [49])).length
    match foldDigits shiftDigit [0] value with
    | none => false
    | some decodedLittleEndian =>
      let nonZeroBytes := if decodedLittleEndian = [0] then 0 else decodedLittleEndian.length
      leadingZeroBytes + nonZeroBytes = PUBLIC_KEY_BYTES

/-- `while (decoded > 0n)`. -/
def encodedByteLength (decoded : Nat) : Nat :=
  if decoded = 0 then 0 else encodedByteLength (decoded / 256) + 1

def isCanonicalBase58PublicKey (value : Text) : Bool :=
  if value.length < 32 ∨ 44 < value.length then false
  else
    match foldDigits (fun decoded digit => decoded * 58 + digit) 0 value with
    | none => false
    | some decoded =>
      let leadingZeroByteLength := (value.takeWhile (· = 49)).length
      encodedByteLength decoded + leadingZeroByteLength = 32

end SolTokenListener.Source.Base58PublicKeys
