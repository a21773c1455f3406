import Mathlib.Data.List.AList
import SolTokenListener.Lib.JsonText

/-!
# The check of a compiled v0 message

Source: src/executor-simulation/message-compiler.ts:74-138, src/executor-simulation/build-plan.ts:5-15.
A message is any object of the type `MessageV0`: its counts and indexes are integers of either sign, and
reading a list at an index outside it gives `undefined`. Texts are lists of UTF-16 units. The SDK's public
keys and how Node reads base64 are parameters. `none` stands for the thrown error.
-/

namespace SolTokenListener.Source.MessageCompiler

open Lib.JsonText (Text)

structure NormalizedInstructionAccountV1 where
  address : Text
  isSigner : Bool
  isWritable : Bool
deriving DecidableEq

structure NormalizedInstructionV1 where
  programId : Text
  accounts : List NormalizedInstructionAccountV1
  dataBase64 : Text
deriving DecidableEq

/-! ## Keys and messages of the SDK -/

/-- `new PublicKey(text)`, which throws for some texts, the methods of a key that are used, and
`Buffer.from(text, 'base64')`. -/
structure Libraries (PublicKey : Type) where
  newPublicKey : Text → Option PublicKey
  equals : PublicKey → PublicKey → Bool
  toBase58 : PublicKey → Text
  fromBase64 : Text → List UInt8

structure MessageHeader where
  numRequiredSignatures : Int
  numReadonlySignedAccounts : Int
  numReadonlyUnsignedAccounts : Int

structure MessageCompiledInstruction where
  programIdIndex : Int
  accountKeyIndexes : List Int
  data : List UInt8

structure MessageAddressTableLookup (PublicKey : Type) where
  accountKey : PublicKey
  writableIndexes : List Int
  readonlyIndexes : List Int

structure MessageV0 (PublicKey : Type) where
  header : MessageHeader
  staticAccountKeys : List PublicKey
  recentBlockhash : Text
  compiledInstructions : List MessageCompiledInstruction
  addressTableLookups : List (MessageAddressTableLookup PublicKey)

variable {PublicKey : Type} (libraries : Libraries PublicKey) (message : MessageV0 PublicKey)

/-- `message.staticAccountKeys[index]?.toBase58()`. -/
def keyText (index : Int) : Option Text :=
  if index < 0 then none else message.staticAccountKeys[index.toNat]?.map libraries.toBase58

/-! ## Expected keys -/

structure Privilege where
  signer : Bool
  writable : Bool
deriving DecidableEq

abbrev ExpectedKeys := AList fun _ : Text => Privilege

def expectAccount (expectedKeys : ExpectedKeys) (account : NormalizedInstructionAccountV1) : ExpectedKeys :=
  let current := (expectedKeys.lookup account.address).getD ⟨false, false⟩
  expectedKeys.insert account.address
    ⟨current.signer || account.isSigner, current.writable || account.isWritable⟩

def expectInstruction (expectedKeys : ExpectedKeys) (instruction : NormalizedInstructionV1) : ExpectedKeys :=
  instruction.accounts.foldl expectAccount
    (expectedKeys.insert instruction.programId
      ((expectedKeys.lookup instruction.programId).getD ⟨false, false⟩))

def expectedKeysOf (feePayer : Text) (instructions : List NormalizedInstructionV1) : ExpectedKeys :=
  instructions.foldl expectInstruction (AList.singleton feePayer ⟨true, true⟩)

/-! ## The check -/

/-- What the header says of the static key at an index. -/
def privilegeAt (index : Nat) : Privilege :=
  let header := message.header
  let signer := decide ((index : Int) < header.numRequiredSignatures)
  { signer
    writable :=
      if signer then decide ((index : Int) < header.numRequiredSignatures - header.numReadonlySignedAccounts)
      else decide ((index : Int) < message.staticAccountKeys.length - header.numReadonlyUnsignedAccounts) }

/-- The callback of `some`: a key that nobody expects differs in both flags. -/
def isUnexpected (expectedKeys : ExpectedKeys) (key : PublicKey) (index : Nat) : Bool :=
  let actual := privilegeAt message index
  let expected := (expectedKeys.lookup (libraries.toBase58 key)).getD ⟨!actual.signer, !actual.writable⟩
  expected.signer != actual.signer || expected.writable != actual.writable

/-- A loop over the indexes of `expected` that rejects when either entry is missing or the test fails. -/
def allAt {α β : Type} (test : α → β → Bool) (expected : List α) (actual : List β) : Bool :=
  (List.range expected.length).all fun index =>
    match expected[index]?, actual[index]? with
    | some wanted, some found => test wanted found
    | _, _ => false

def pointsAt (index : Int) (address : Text) : Bool :=
  decide (index < message.staticAccountKeys.length) && keyText libraries message index == some address

def isExpectedInstruction (expected : NormalizedInstructionV1) (actual : MessageCompiledInstruction) :
    Bool :=
  pointsAt libraries message actual.programIdIndex expected.programId &&
    actual.data == libraries.fromBase64 expected.dataBase64 &&
    actual.accountKeyIndexes.length == expected.accounts.length &&
    allAt (fun account keyIndex => pointsAt libraries message keyIndex account.address) expected.accounts
      actual.accountKeyIndexes

def assertCompiledMessage (feePayer : Text) (instructions : List NormalizedInstructionV1)
    (blockhash : Text) : Option Unit := do
  guard (message.recentBlockhash = blockhash ∧ message.addressTableLookups.length = 0 ∧
    message.header.numRequiredSignatures = 1)
  let first ← message.staticAccountKeys[0]?
  let payer ← libraries.newPublicKey feePayer
  guard (libraries.equals first payer ∧ message.compiledInstructions.length = instructions.length)
  let expectedKeys := expectedKeysOf feePayer instructions
  guard (message.staticAccountKeys.length = expectedKeys.entries.length ∧
    ¬ message.staticAccountKeys.zipIdx.any fun entry => isUnexpected libraries message expectedKeys entry.1 entry.2)
  guard (allAt (isExpectedInstruction libraries message) instructions message.compiledInstructions)

end SolTokenListener.Source.MessageCompiler
