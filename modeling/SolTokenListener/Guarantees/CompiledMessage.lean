import SolTokenListener.Lib.Base58
import SolTokenListener.Source.MessageCompiler

/-!
# An accepted message is the given instructions

The check never compares the list of static keys with the expected ones. It asks that every static key is
expected, and the index lookups of the instructions show that every expected key is a static one; as both
lists have one length and the expected keys differ from each other, so do the static keys. A map entry
is read back as the union of what was asked for its address, by induction over the requests.
-/

namespace SolTokenListener.Guarantees.CompiledMessage

open Lib.Base58 (ALPHABET decode encode encode_decode)
open Lib.JsonText (Text ascii)
open Source.MessageCompiler

variable {PublicKey : Type}

/-! ## What a message means -/

structure ExpandedInstruction where
  programId : Text
  accounts : List Text
  data : List UInt8
deriving DecidableEq

def expandInstruction (libraries : Libraries PublicKey) (message : MessageV0 PublicKey)
    (compiled : MessageCompiledInstruction) : Option ExpandedInstruction := do
  let programId ← keyText libraries message compiled.programIdIndex
  let accounts ← compiled.accountKeyIndexes.mapM (keyText libraries message)
  some ⟨programId, accounts, compiled.data⟩

/-- The instructions of a message, its indexes replaced by the static keys they point at. -/
def expand (libraries : Libraries PublicKey) (message : MessageV0 PublicKey) :
    Option (List ExpandedInstruction) :=
  message.compiledInstructions.mapM (expandInstruction libraries message)

def given (libraries : Libraries PublicKey) (instruction : NormalizedInstructionV1) : ExpandedInstruction :=
  ⟨instruction.programId, instruction.accounts.map (·.address), libraries.fromBase64 instruction.dataBase64⟩

/-- What an instruction list asks for one address: nothing for a program, the flags for an account. -/
structure Request where
  address : Text
  privilege : Privilege

def accountRequest (account : NormalizedInstructionAccountV1) : Request :=
  ⟨account.address, ⟨account.isSigner, account.isWritable⟩⟩

def requests (instruction : NormalizedInstructionV1) : List Request :=
  ⟨instruction.programId, ⟨false, false⟩⟩ :: instruction.accounts.map accountRequest

/-- The address is a program or an account of an instruction. -/
def Referenced (instructions : List NormalizedInstructionV1) (address : Text) : Prop :=
  ∃ instruction ∈ instructions,
    instruction.programId = address ∨ ∃ account ∈ instruction.accounts, account.address = address

/-- The union of the flags asked for an address and, for the fee payer, both flags. -/
def requested (feePayer : Text) (instructions : List NormalizedInstructionV1) (address : Text) : Privilege :=
  let accounts := (instructions.flatMap (·.accounts)).filter (·.address == address)
  { signer := address == feePayer || accounts.any (·.isSigner)
    writable := address == feePayer || accounts.any (·.isWritable) }

/-! ## The expected keys -/

def Privilege.union (left right : Privilege) : Privilege :=
  ⟨left.signer || right.signer, left.writable || right.writable⟩

def privilegeOf (expectedKeys : ExpectedKeys) (address : Text) : Privilege :=
  (expectedKeys.lookup address).getD ⟨false, false⟩

def note (expectedKeys : ExpectedKeys) (request : Request) : ExpectedKeys :=
  expectedKeys.insert request.address (Privilege.union (privilegeOf expectedKeys request.address) request.privilege)

theorem expectInstruction_eq (expectedKeys : ExpectedKeys) (instruction : NormalizedInstructionV1) :
    expectInstruction expectedKeys instruction = (requests instruction).foldl note expectedKeys := by
  have program : note expectedKeys ⟨instruction.programId, ⟨false, false⟩⟩ =
      expectedKeys.insert instruction.programId (privilegeOf expectedKeys instruction.programId) := by
    rw [note, Privilege.union, Bool.or_false, Bool.or_false]
  rw [requests, List.foldl_cons, List.foldl_map, program]
  rfl

theorem expectedKeysOf_eq (feePayer : Text) (instructions : List NormalizedInstructionV1) :
    expectedKeysOf feePayer instructions =
      (instructions.flatMap requests).foldl note (AList.singleton feePayer ⟨true, true⟩) := by
  rw [expectedKeysOf, List.foldl_flatMap]
  congr 1
  funext expectedKeys instruction
  exact expectInstruction_eq expectedKeys instruction

theorem mem_foldl_note (asked : List Request) (expectedKeys : ExpectedKeys) (address : Text) :
    address ∈ asked.foldl note expectedKeys ↔ address ∈ expectedKeys ∨ address ∈ asked.map (·.address) := by
  induction asked generalizing expectedKeys with
  | nil => simp
  | cons request rest ih =>
    rw [List.foldl_cons, ih, note, AList.mem_insert, List.map_cons, List.mem_cons]
    tauto

theorem privilegeOf_note (expectedKeys : ExpectedKeys) (request : Request) (address : Text) :
    privilegeOf (note expectedKeys request) address =
      if request.address = address then Privilege.union (privilegeOf expectedKeys address) request.privilege
      else privilegeOf expectedKeys address := by
  rw [note, privilegeOf]
  split
  · next same => rw [same, AList.lookup_insert, Option.getD_some]
  · next other => rw [AList.lookup_insert_ne (Ne.symm other), ← privilegeOf]

theorem privilegeOf_foldl_note (asked : List Request) (expectedKeys : ExpectedKeys) (address : Text) :
    privilegeOf (asked.foldl note expectedKeys) address =
      Privilege.union (privilegeOf expectedKeys address)
        ⟨(asked.filter (·.address == address)).any (·.privilege.signer),
          (asked.filter (·.address == address)).any (·.privilege.writable)⟩ := by
  induction asked generalizing expectedKeys with
  | nil => simp [Privilege.union]
  | cons request rest ih =>
    rw [List.foldl_cons, ih, privilegeOf_note, List.filter_cons]
    by_cases same : request.address = address
    · simp [same, Privilege.union, Bool.or_assoc]
    · simp [same]

theorem mem_expectedKeysOf (feePayer : Text) (instructions : List NormalizedInstructionV1) (address : Text) :
    address ∈ expectedKeysOf feePayer instructions ↔ address = feePayer ∨ Referenced instructions address := by
  rw [expectedKeysOf_eq, mem_foldl_note]
  rw [← AList.insert_empty, AList.mem_insert, or_iff_left (AList.notMem_empty address)]
  refine or_congr_right ?_
  simp only [List.map_flatMap, List.mem_flatMap, requests, List.map_cons, List.map_map, List.mem_cons, Referenced]
  refine exists_congr fun instruction => and_congr_right fun _ => or_congr eq_comm ?_
  exact List.mem_map

theorem any_requests (flag : Privilege → Bool) (none : flag ⟨false, false⟩ = false)
    (instructions : List NormalizedInstructionV1) (address : Text) :
    ((instructions.flatMap requests).filter (·.address == address)).any (fun request => flag request.privilege) =
      ((instructions.flatMap (·.accounts)).filter (·.address == address)).any
        (fun account => flag (accountRequest account).privilege) := by
  induction instructions with
  | nil => rfl
  | cons instruction rest ih =>
    rw [List.flatMap_cons, List.flatMap_cons, List.filter_append, List.filter_append, List.any_append,
      List.any_append, ih, requests]
    congr 1
    rw [List.filter_cons, List.filter_map]
    split
    · rw [List.any_cons, List.any_map, none, Bool.false_or]
      rfl
    · rw [List.any_map]
      rfl

theorem privilegeOf_expectedKeysOf (feePayer : Text) (instructions : List NormalizedInstructionV1)
    (address : Text) :
    privilegeOf (expectedKeysOf feePayer instructions) address = requested feePayer instructions address := by
  have payer : privilegeOf (AList.singleton feePayer ⟨true, true⟩) address =
      ⟨address == feePayer, address == feePayer⟩ := by
    by_cases same : address = feePayer
    · subst same
      simp [privilegeOf, ← AList.insert_empty]
    · rw [privilegeOf, ← AList.insert_empty, AList.lookup_insert_ne same]
      simp [same]
  rw [expectedKeysOf_eq, privilegeOf_foldl_note, payer, any_requests (·.signer) rfl,
    any_requests (·.writable) rfl]
  rfl

/-! ## Loops -/

theorem forall₂_of_allAt {α β : Type} {test : α → β → Bool} {expected : List α} {actual : List β}
    (sameLength : actual.length = expected.length) (all : allAt test expected actual = true) :
    List.Forall₂ (fun wanted found => test wanted found = true) expected actual := by
  refine List.forall₂_iff_get.mpr ⟨sameLength.symm, fun index inExpected inActual => ?_⟩
  have tested := List.all_eq_true.mp all index (List.mem_range.mpr inExpected)
  rwa [List.getElem?_eq_getElem inExpected, List.getElem?_eq_getElem inActual] at tested

theorem exists_right {α β : Type} {related : α → β → Prop} {left : List α} {right : List β}
    (each : List.Forall₂ related left right) {item : α} (member : item ∈ left) :
    ∃ other ∈ right, related item other := by
  induction each with
  | nil => cases member
  | cons head tail ih =>
    rcases List.mem_cons.mp member with rfl | member
    · exact ⟨_, List.mem_cons_self, head⟩
    · obtain ⟨other, isOther, paired⟩ := ih member
      exact ⟨other, List.mem_cons_of_mem _ isOther, paired⟩

theorem mapM_eq_some {α β γ : Type} {read : β → Option γ} {wanted : α → γ} {expected : List α} {actual : List β}
    (each : List.Forall₂ (fun left right => read right = some (wanted left)) expected actual) :
    actual.mapM read = some (expected.map wanted) := by
  induction each with
  | nil => rfl
  | cons head tail ih =>
    rw [List.mapM_cons, head, ih]
    rfl

/-! ## Accepted messages -/

/-- What an accepted message passed. -/
structure Accepted (libraries : Libraries PublicKey) (message : MessageV0 PublicKey) (feePayer : Text)
    (instructions : List NormalizedInstructionV1) : Prop where
  oneSignature : message.header.numRequiredSignatures = 1
  payerFirst : ∃ payer, message.staticAccountKeys[0]? = some payer ∧ libraries.toBase58 payer = feePayer
  keyCount : message.staticAccountKeys.length = (expectedKeysOf feePayer instructions).entries.length
  expected : ∀ index key, message.staticAccountKeys[index]? = some key →
    isUnexpected libraries message (expectedKeysOf feePayer instructions) key index = false
  pairs : List.Forall₂ (fun expected actual => isExpectedInstruction libraries message expected actual = true)
    instructions message.compiledInstructions

/-- A key built from a text has that text, and equal keys have one text. -/
structure Lawful (libraries : Libraries PublicKey) : Prop where
  built : ∀ text key, libraries.newPublicKey text = some key → libraries.toBase58 key = text
  equal : ∀ left right, libraries.equals left right = true →
    libraries.toBase58 left = libraries.toBase58 right

variable {libraries : Libraries PublicKey} {message : MessageV0 PublicKey}
variable {instructions : List NormalizedInstructionV1}

theorem accepted_of_assert {feePayer : Text} {blockhash : Text} (lawful : Lawful libraries)
    (accepted : assertCompiledMessage libraries message feePayer instructions blockhash = some ()) :
    Accepted libraries message feePayer instructions := by
  simp only [assertCompiledMessage, Option.bind_eq_bind, Option.bind_eq_some_iff, Option.guard_eq_some',
    Bool.not_eq_true] at accepted
  obtain ⟨-, ⟨-, -, oneSignature⟩, first, isFirst, payer, isPayer, -, ⟨same, instructionCount⟩, -,
    ⟨keyCount, expected⟩, all⟩ := accepted
  refine ⟨oneSignature, ⟨first, isFirst, (lawful.equal first payer same).trans (lawful.built feePayer payer isPayer)⟩, keyCount, ?_,
    forall₂_of_allAt instructionCount all⟩
  intro index key isKey
  exact Bool.eq_false_iff.mpr
    (List.any_eq_false.mp expected (key, index) (List.mem_zipIdx_iff_getElem?.mpr isKey))

theorem keyText_mem {index : Int} {address : Text}
    (points : pointsAt libraries message index address = true) :
    keyText libraries message index = some address ∧ address ∈ message.staticAccountKeys.map libraries.toBase58 := by
  have isText : keyText libraries message index = some address := by
    simpa [pointsAt] using (Bool.and_eq_true_iff.mp points).2
  refine ⟨isText, ?_⟩
  unfold keyText at isText
  split at isText
  · cases isText
  · obtain ⟨key, isKey, rfl⟩ := Option.map_eq_some_iff.mp isText
    exact List.mem_map_of_mem (List.mem_of_getElem? isKey)

/-- The four facts of one compiled instruction. -/
theorem pair_facts {expected : NormalizedInstructionV1} {actual : MessageCompiledInstruction}
    (matched : isExpectedInstruction libraries message expected actual = true) :
    pointsAt libraries message actual.programIdIndex expected.programId = true ∧
      actual.data = libraries.fromBase64 expected.dataBase64 ∧
      List.Forall₂ (fun account keyIndex => pointsAt libraries message keyIndex account.address = true) expected.accounts
        actual.accountKeyIndexes := by
  simp only [isExpectedInstruction, Bool.and_eq_true, beq_iff_eq] at matched
  obtain ⟨⟨⟨program, sameData⟩, sameLength⟩, accounts⟩ := matched
  exact ⟨program, sameData, forall₂_of_allAt sameLength accounts⟩

theorem expandInstruction_eq {expected : NormalizedInstructionV1} {actual : MessageCompiledInstruction}
    (matched : isExpectedInstruction libraries message expected actual = true) :
    expandInstruction libraries message actual = some (given libraries expected) := by
  obtain ⟨program, sameData, accounts⟩ := pair_facts matched
  have read : actual.accountKeyIndexes.mapM (keyText libraries message) = some (expected.accounts.map (·.address)) :=
    mapM_eq_some (accounts.imp fun _ _ points => (keyText_mem points).1)
  rw [expandInstruction, (keyText_mem program).1, read, sameData]
  rfl

namespace Accepted

variable {feePayer : Text} (accepted : Accepted libraries message feePayer instructions)

include accepted

theorem expand_eq : expand libraries message = some (instructions.map (given libraries)) :=
  mapM_eq_some (accepted.pairs.imp fun _ _ matched => expandInstruction_eq matched)

/-- A static key is expected, and with the flags the header gives it. -/
theorem key_facts {index : Nat} {key : PublicKey} (isKey : message.staticAccountKeys[index]? = some key) :
    libraries.toBase58 key ∈ expectedKeysOf feePayer instructions ∧
      privilegeAt message index = requested feePayer instructions (libraries.toBase58 key) := by
  have same := accepted.expected index key isKey
  rw [← privilegeOf_expectedKeysOf, privilegeOf]
  unfold isUnexpected at same
  cases found : (expectedKeysOf feePayer instructions).lookup (libraries.toBase58 key) with
  | none => simp [found] at same
  | some privilege =>
    refine ⟨AList.lookup_isSome.mp (by rw [found]; rfl), ?_⟩
    simp only [found, Option.getD_some, Bool.or_eq_false_iff, bne_eq_false_iff_eq] at same
    rw [Option.getD_some, show privilege = ⟨privilege.signer, privilege.writable⟩ from rfl, same.1, same.2]

theorem expected_mem {address : Text} (isExpected : address ∈ expectedKeysOf feePayer instructions) :
    address ∈ message.staticAccountKeys.map libraries.toBase58 := by
  rcases (mem_expectedKeysOf feePayer instructions address).mp isExpected with
    rfl | ⟨instruction, isInstruction, referenced⟩
  · obtain ⟨payer, isFirst, rfl⟩ := accepted.payerFirst
    exact List.mem_map_of_mem (List.mem_of_getElem? isFirst)
  obtain ⟨actual, -, matched⟩ := exists_right accepted.pairs isInstruction
  obtain ⟨program, -, accounts⟩ := pair_facts matched
  rcases referenced with rfl | ⟨account, isAccount, rfl⟩
  · exact (keyText_mem program).2
  · obtain ⟨keyIndex, -, points⟩ := exists_right accounts isAccount
    exact (keyText_mem points).2

theorem mem_keys_iff (address : Text) : address ∈ message.staticAccountKeys.map libraries.toBase58 ↔
    address ∈ expectedKeysOf feePayer instructions := by
  refine ⟨fun member => ?_, accepted.expected_mem⟩
  obtain ⟨key, isKey, rfl⟩ := List.mem_map.mp member
  obtain ⟨index, isKey⟩ := List.mem_iff_getElem?.mp isKey
  exact (accepted.key_facts isKey).1

/-- As many static keys as expected ones, each of those among them: none can stand twice. -/
theorem nodup_keys : (message.staticAccountKeys.map libraries.toBase58).Nodup := by
  have distinct := (expectedKeysOf feePayer instructions).keys_nodup
  have among : (expectedKeysOf feePayer instructions).keys ⊆ message.staticAccountKeys.map libraries.toBase58 :=
    fun address member => accepted.expected_mem (AList.mem_keys.mpr member)
  have count : (message.staticAccountKeys.map libraries.toBase58).length ≤
      (expectedKeysOf feePayer instructions).keys.length := by
    rw [List.length_map, accepted.keyCount, AList.keys, List.keys, List.length_map]
  exact ((List.subperm_of_subset distinct among).perm_of_length_le count).nodup distinct

theorem signer_iff {index : Nat} {key : PublicKey} (isKey : message.staticAccountKeys[index]? = some key) :
    (privilegeAt message index).signer = true ↔ libraries.toBase58 key = feePayer := by
  obtain ⟨payer, isFirst, rfl⟩ := accepted.payerFirst
  have onlyFirst : (privilegeAt message index).signer = true ↔ index = 0 := by
    simp only [privilegeAt, accepted.oneSignature, decide_eq_true_eq]
    omega
  rw [onlyFirst]
  constructor
  · rintro rfl
    rw [Option.some.inj (isKey.symm.trans isFirst)]
  · intro same
    have texts : ∀ {place : Nat} {found : PublicKey}, message.staticAccountKeys[place]? = some found →
        (message.staticAccountKeys.map libraries.toBase58)[place]? = some (libraries.toBase58 found) :=
      fun isFound => by rw [List.getElem?_map, isFound, Option.map_some]
    have inBounds := (List.getElem?_eq_some_iff.mp (texts isKey)).1
    exact (List.getElem?_inj inBounds accepted.nodup_keys).mp
      ((texts isKey).trans (same ▸ (texts isFirst).symm))

end Accepted

/-- A message that the check accepts expands to the given instructions; its static keys are the fee payer
and the referenced addresses, each once; the header gives each key the union of what was asked for it; and
the fee payer alone signs. -/
theorem assertCompiledMessage_sound (libraries : Libraries PublicKey) (lawful : Lawful libraries)
    (message : MessageV0 PublicKey) (feePayer : Text) (instructions : List NormalizedInstructionV1)
    (blockhash : Text) (passed : assertCompiledMessage libraries message feePayer instructions blockhash = some ()) :
    expand libraries message = some (instructions.map (given libraries)) ∧
      (∀ address, address ∈ message.staticAccountKeys.map libraries.toBase58 ↔
        address = feePayer ∨ Referenced instructions address) ∧
      (message.staticAccountKeys.map libraries.toBase58).Nodup ∧
      (∀ index key, message.staticAccountKeys[index]? = some key →
        privilegeAt message index = requested feePayer instructions (libraries.toBase58 key)) ∧
      ∀ index key, message.staticAccountKeys[index]? = some key →
        ((privilegeAt message index).signer = true ↔ libraries.toBase58 key = feePayer) := by
  have accepted := accepted_of_assert lawful passed
  refine ⟨accepted.expand_eq, fun address => ?_, accepted.nodup_keys, fun index key isKey => ?_,
    fun index key isKey => accepted.signer_iff isKey⟩
  · rw [accepted.mem_keys_iff, mem_expectedKeysOf]
  · exact (accepted.key_facts isKey).2

/-! ## A message that passes -/

/-- Thirty-two bytes and their base58 text. -/
def base58Keys : Libraries { bytes : List UInt8 // bytes.length = 32 } where
  newPublicKey := fun text =>
    if text.all (· ∈ ALPHABET.map Char.toNat) then
      if size : (decode (text.map Char.ofNat)).length = 32 then some ⟨decode (text.map Char.ofNat), size⟩
      else none
    else none
  equals := fun left right => left = right
  toBase58 := fun key => ascii (encode key.1)
  fromBase64 := fun _ => []

theorem base58Keys_lawful : Lawful base58Keys := by
  refine ⟨fun text key isKey => ?_, fun left right same => by rw [of_decide_eq_true same]⟩
  simp only [base58Keys] at isKey
  split at isKey
  · next digits =>
      split at isKey
      · cases isKey
        have units : ∀ unit ∈ text, ∃ c ∈ ALPHABET, c.toNat = unit := by
          simpa using digits
        have alphabet : ∀ c ∈ text.map Char.ofNat, c ∈ ALPHABET := by
          intro c member
          obtain ⟨unit, isUnit, rfl⟩ := List.mem_map.mp member
          obtain ⟨digit, isDigit, rfl⟩ := units unit isUnit
          rwa [Char.ofNat_toNat]
        change ascii (encode (decode (text.map Char.ofNat))) = text
        rw [ascii, encode_decode alphabet, List.map_map]
        refine (List.map_congr_left fun unit isUnit => ?_).trans (List.map_id text)
        obtain ⟨digit, -, rfl⟩ := units unit isUnit
        rw [Function.comp_apply, Char.ofNat_toNat, id]
      · cases isKey
  · cases isKey

def lowKey (last : UInt8) : { bytes : List UInt8 // bytes.length = 32 } :=
  ⟨List.replicate 31 0 ++ [last], rfl⟩

/-- One instruction of the program `lowKey 1` on the fee payer's account and on `lowKey 2`. -/
def sampleInstruction : NormalizedInstructionV1 where
  programId := base58Keys.toBase58 (lowKey 1)
  accounts := [⟨base58Keys.toBase58 (lowKey 2), false, true⟩, ⟨base58Keys.toBase58 (lowKey 0), true, false⟩]
  dataBase64 := []

def sampleMessage : MessageV0 { bytes : List UInt8 // bytes.length = 32 } where
  header := ⟨1, 0, 1⟩
  staticAccountKeys := [lowKey 0, lowKey 2, lowKey 1]
  recentBlockhash := []
  compiledInstructions := [⟨2, [1, 0], []⟩]
  addressTableLookups := []

theorem assertCompiledMessage_sound_sample :
    assertCompiledMessage base58Keys sampleMessage (base58Keys.toBase58 (lowKey 0)) [sampleInstruction] [] =
        some () ∧
      expand base58Keys sampleMessage = some [given base58Keys sampleInstruction] := by
  have passed : assertCompiledMessage base58Keys sampleMessage (base58Keys.toBase58 (lowKey 0))
      [sampleInstruction] [] = some () := by decide +kernel
  exact ⟨passed, (assertCompiledMessage_sound base58Keys base58Keys_lawful _ _ _ _ passed).1⟩

end SolTokenListener.Guarantees.CompiledMessage
