import SolTokenListener.Lib.Base64
import SolTokenListener.Lib.DecimalUnits
import SolTokenListener.Lib.JsonText
import SolTokenListener.Source.Chain

/-!
# The block payload codec

Source: src/solana/rpc/block-transaction-payload-codec.ts:5-110. Texts are lists of UTF-16 units. A number
that is no integer is refused as a budget like one out of range, and has no counterpart here. The byte
lengths are safe integers, for which the rounded quotient of `base64Length` has the exact ceiling, and
`Number` of a text of digits is safe exactly when its value is. zlib, SHA-256 and the deserializer of V8
are parameters; a deserializer that throws gives `none`.
-/

namespace SolTokenListener.Source.BlockTransactionPayloadCodec

open Lib
open Lib.Checked (require)
open Lib.DecimalUnits (natUnits natOfUnits isPositive)
open Lib.JsonText (Text ascii)
open Source.Chain (MAX_SAFE_INTEGER isSafeInteger)

def MAX_COMPRESSED_TRANSACTION_BYTES : Nat := 1048576
def MAX_BLOCK_COMPRESSION_INPUT_BYTES : Nat := 33554432

inductive BlockTransactionPayloadCodecError where
  | failed
  deriving DecidableEq, Repr

/-- `[0-9a-f]`. -/
def isHexUnit (unit : Nat) : Bool := (48 ≤ unit ∧ unit ≤ 57) ∨ (97 ≤ unit ∧ unit ≤ 102)

/-- zlib and SHA-256, with what is known of them. -/
structure Runtime where
  sha256Hex : List UInt8 → Text
  length_sha256Hex : ∀ bytes, (sha256Hex bytes).length = 64
  isHex_sha256Hex : ∀ bytes, ∀ unit ∈ sha256Hex bytes, isHexUnit unit = true
  deflateRawSync : List UInt8 → List UInt8
  /-- The output and how many bytes of the input were read. -/
  inflateRawSync : List UInt8 → (maxOutputLength : Nat) → Option (List UInt8 × Nat)
  inflate_deflate : ∀ bytes maxOutputLength, bytes.length ≤ maxOutputLength →
    inflateRawSync (deflateRawSync bytes) maxOutputLength = some (bytes, (deflateRawSync bytes).length)
  /-- A stream has at least one block. -/
  inflate_nil : ∀ maxOutputLength, inflateRawSync [] maxOutputLength = none

structure Uint8Array where
  bytes : List UInt8
  byteLength_safe : isSafeInteger bytes.length = true

structure EncodedPayload where
  payload : Text
  compressionInputBytes : Nat
  deriving DecidableEq, Repr

def base64Length (byteLength : Nat) : Nat := (byteLength + 2) / 3 * 4

/-! ## The base64 test -/

def BASE64_ALPHABET : Text := ascii "ABCDEFGHIJKLMNOPQRSTUVWXYZabcdefghijklmnopqrstuvwxyz0123456789+/"

/-- `[A-Za-z0-9+/=]`. -/
def isBase64Unit (unit : Nat) : Bool :=
  (65 ≤ unit ∧ unit ≤ 90) ∨ (97 ≤ unit ∧ unit ≤ 122) ∨ (48 ≤ unit ∧ unit ≤ 57) ∨ unit = 43 ∨ unit = 47 ∨ unit = 61

def isCanonicalBase64 (encoded : Text) : Bool :=
  if encoded.length = 0 ∨ encoded.length % 4 ≠ 0 ∨ encoded.all isBase64Unit = false then false
  else
    match encoded.idxOf? 61 with
    | none => true
    | some paddingIndex =>
      let padding := encoded.drop paddingIndex
      if padding ≠ ascii "=" ∧ padding ≠ ascii "==" then false
      else
        -- Before the first unit there is none, and the empty text has index 0.
        let lastValue := if paddingIndex = 0 then some 0
          else (encoded[paddingIndex - 1]?).bind (BASE64_ALPHABET.idxOf? ·)
        lastValue.any fun value => value &&& (if padding.length = 2 then 15 else 3) = 0

/-! ## The codec -/

section Codec

variable (runtime : Runtime)

def encodeBlockTransactionPayload (serialized : Uint8Array) (remainingCompressionBytes : Int) :
    Except BlockTransactionPayloadCodecError EncodedPayload := do
  require (isSafeInteger remainingCompressionBytes ∧ 0 ≤ remainingCompressionBytes ∧
    remainingCompressionBytes ≤ MAX_BLOCK_COMPRESSION_INPUT_BYTES ∧ serialized.bytes.length ≠ 0) .failed
  let originalLength := serialized.bytes.length
  let hash := runtime.sha256Hex serialized.bytes
  let payload := fun (mode : Text) (bytes : List UInt8) =>
    [58].intercalate [ascii "b1", mode, natUnits originalLength, hash, Base64.encode bytes]
  if originalLength ≤ MAX_COMPRESSED_TRANSACTION_BYTES ∧ originalLength ≤ remainingCompressionBytes then
    let compressed := runtime.deflateRawSync serialized.bytes
    if base64Length compressed.length < base64Length originalLength then
      return ⟨payload (ascii "d") compressed, originalLength⟩
    else return ⟨payload (ascii "r") serialized.bytes, originalLength⟩
  else return ⟨payload (ascii "r") serialized.bytes, 0⟩

/-- The stored bytes, inflated when they were deflated. -/
def originalBytes (mode : Text) (storedBytes : List UInt8) (originalLength : Nat) :
    Except BlockTransactionPayloadCodecError (List UInt8) :=
  if mode = ascii "d" then
    match runtime.inflateRawSync storedBytes originalLength with
    | none => throw .failed
    | some (buffer, bytesWritten) => if bytesWritten ≠ storedBytes.length then throw .failed else return buffer
  else return storedBytes

/-- The bytes that are handed to the deserializer. -/
def decodeBytes (payload : Text) : Except BlockTransactionPayloadCodecError (List UInt8) :=
  match payload.splitOn 58 with
  | [version, mode, lengthText, hash, encoded] => do
    require (version = ascii "b1" ∧ (mode = ascii "r" ∨ mode = ascii "d") ∧ isPositive lengthText ∧
      hash.length = 64 ∧ hash.all isHexUnit) .failed
    let originalLength := natOfUnits lengthText
    require (isSafeInteger originalLength ∧ natUnits originalLength = lengthText ∧
      (mode = ascii "d" → originalLength ≤ MAX_COMPRESSED_TRANSACTION_BYTES)) .failed
    let rawBase64Length := base64Length originalLength
    require ((mode = ascii "r" → encoded.length = rawBase64Length) ∧
      (mode = ascii "d" → encoded.length ≤ rawBase64Length) ∧ isCanonicalBase64 encoded) .failed
    let storedBytes := Base64.decode encoded
    require (Base64.encode storedBytes = encoded) .failed
    let original ← originalBytes runtime mode storedBytes originalLength
    require (original.length = originalLength ∧ runtime.sha256Hex original = hash) .failed
    return original
  | _ => throw .failed

def decodeBlockTransactionPayload {Value : Type} (deserialize : List UInt8 → Option Value) (payload : Text) :
    Except BlockTransactionPayloadCodecError Value := do
  let original ← decodeBytes runtime payload
  match deserialize original with
  | none => throw .failed
  | some value => return value

end Codec

end SolTokenListener.Source.BlockTransactionPayloadCodec
