import SolTokenListener.Source.Chain

/-!
# Locating a transaction in a block

`src/solana/rpc/transaction-locator.ts`: the direct locator (lines 167–198), the scan that looks for
one transaction (398–456), the scan that snapshots a whole block (338–390) and the readers of
provider values they share (944–1060). `src/solana/rpc/block-transaction-cache.ts`, lines 186–205: the
selection from a snapshot. A provider value is what descriptors and intrinsics show of it: a property
that is an accessor or not enumerable cannot be read, and proxies, functions and symbols are foreign.
The projections of a transaction's metadata and message, the rest of the normalizer, base58 and the
payload codec are parameters; the codec returns what it encoded.
-/

namespace SolTokenListener.Source.BlockTransactionLocator

open Source.Chain (MAX_SAFE_INTEGER)

/-! ## Provider values -/

/-- A number is an integer, minus zero, or a `fraction`, which is no integer; `none` stands for a
property that cannot be read. -/
inductive Value
  | undefined
  | null
  | boolean (value : Bool)
  | number (value : Int)
  | minusZero
  | fraction
  | string (text : String)
  | array (dense : Bool) (entries : List Value)
  | object (properties : List (String × Option Value))
  | foreign

def MAX_BLOCK_SIGNATURE_COUNT : Nat := 100000

def MAX_TRANSACTION_SIGNATURES : Nat := 32

def MAX_TRANSACTION_SIGNATURE_LENGTH : Nat := 128

abbrev Properties := List (String × Option Value)

/-- The readers return `none` where the source throws. -/
def ownRecord : Value → Option Properties
  | .object properties => some properties
  | _ => none

def ownData (record : Properties) (key : String) : Option Value :=
  (record.lookup key).join

def ownOptionalData (record : Properties) (key : String) : Option Value :=
  match record.lookup key with
  | none => some .undefined
  | some property => property

def denseBlockTransactions : Value → Option (List Value)
  | .array true entries => if entries.length ≤ MAX_BLOCK_SIGNATURE_COUNT then some entries else none
  | _ => none

def validSignature : Value → Option String
  | .string text =>
    if text ≠ "" ∧ text.utf8ByteSize ≤ MAX_TRANSACTION_SIGNATURE_LENGTH then some text else none
  | _ => none

/-- `snapshotSignatureArray`, whose checks `primaryTransactionSignature` makes as well. -/
def snapshotSignatureArray (value : Value) : Option (List String) := do
  let entries ← denseBlockTransactions value
  if entries = [] ∨ entries.length > MAX_TRANSACTION_SIGNATURES then none
  else entries.mapM validSignature

def primaryTransactionSignature (transaction : Value) : Option String := do
  let record ← ownRecord transaction
  let signatures ← ownData record "signatures"
  let entries ← denseBlockTransactions signatures
  if entries = [] ∨ entries.length > MAX_TRANSACTION_SIGNATURES then none
  else do
    let texts ← entries.mapM validSignature
    texts.head?

/-! ## What is not modelled in detail -/

/-- `minusV0` is minus zero, which the test for the version 0 lets pass. -/
inductive TransactionVersion
  | legacy
  | v0
  | minusV0
  | v1
deriving DecidableEq

inductive ConfirmationStatus
  | PROCESSED
  | CONFIRMED
  | FINALIZED
deriving DecidableEq

/-- A transaction copied from the provider's graph. -/
structure SelectedTransaction (Meta Message : Type) where
  signatures : List String
  message : Message
  «meta» : Meta

/-- The response handed to the normalizer. -/
structure Response (Meta Message : Type) where
  slot : Int
  blockTime : Value
  transaction : SelectedTransaction Meta Message
  version : Option TransactionVersion

/-- The normalized transaction: the fields the locators compare, and the rest. -/
structure NormalizedTransaction (Content : Type) where
  signature : String
  slot : Int
  transactionIndex : Nat
  confirmationStatus : ConfirmationStatus
  content : Content
deriving DecidableEq

/-- Base58, the projections of metadata and messages, and what the normalizer makes of a response. -/
structure Libraries (Meta Message Content : Type) where
  base58Decode : String → Option (List UInt8)
  base58Encode : List UInt8 → String
  snapshotMeta : Value → Option Meta
  snapshotMessage : Value → Meta → TransactionVersion → Option Message
  normalizeContent : Response Meta Message → Nat → Option Content

/-- The payload codec: a payload and the bytes it took of the block's compression budget. -/
structure Codec (Content : Type) where
  encode : NormalizedTransaction Content → Nat → String × Nat
  decode : String → Option (NormalizedTransaction Content)
  lossless : ∀ transaction remaining, decode (encode transaction remaining).1 = some transaction

variable {Meta Message Content : Type} (libraries : Libraries Meta Message Content)

/-! ## The envelope -/

def validTargetSlot (slot : Int) : Bool := 0 ≤ slot ∧ slot ≤ MAX_SAFE_INTEGER

def validBlockhash : Value → Bool
  | .string text =>
    text ≠ "" ∧ text.utf8ByteSize ≤ MAX_TRANSACTION_SIGNATURE_LENGTH ∧
      (libraries.base58Decode text).any (fun bytes =>
        decide (bytes.length = 32 ∧ libraries.base58Encode bytes = text)) = true
  | _ => false

/-- Minus zero is no slot. -/
def validNumericSlot : Value → Option Int
  | .number value => if 0 ≤ value ∧ value ≤ MAX_SAFE_INTEGER then some value else none
  | _ => none

def validParentSlot (value : Value) (targetSlot : Int) : Bool :=
  match validNumericSlot value with
  | none => false
  | some parent => if targetSlot = 0 then parent = 0 else parent < targetSlot

def validBlockTime : Value → Bool
  | .null | .minusZero => true
  | .number value => 0 ≤ value ∧ value ≤ MAX_SAFE_INTEGER / 1000
  | _ => false

/-! ## One entry of a block -/

def validBlockTransactionMeta : Value → Bool
  | .null | .object _ => true
  | _ => false

/-- A supported version, or `some none` where the entry gives none. -/
def validBlockTransactionVersion : Value → Option (Option TransactionVersion)
  | .undefined => some none
  | .string "legacy" => some (some .legacy)
  | .number 0 => some (some .v0)
  | .minusZero => some (some .minusV0)
  | .number 1 => some (some .v1)
  | _ => none

def snapshotSelectedTransaction (transaction «meta» : Value) (version : TransactionVersion) :
    Option (SelectedTransaction Meta Message) := do
  let record ← ownRecord transaction
  let signatures ← snapshotSignatureArray (← ownData record "signatures")
  let metaSnapshot ← libraries.snapshotMeta «meta»
  let message ← libraries.snapshotMessage (← ownData record "message") metaSnapshot version
  return ⟨signatures, message, metaSnapshot⟩

/-- The primary signature of an entry; an entry without one invalidates the block. -/
def entrySignature (entry : Value) : Option String := do
  let record ← ownRecord entry
  let transaction ← ownData record "transaction"
  primaryTransactionSignature transaction

/-- The copy of an entry that the normalizer is given. -/
def entrySnapshot (entry : Value) :
    Option (SelectedTransaction Meta Message × Option TransactionVersion) := do
  let record ← ownRecord entry
  let transaction ← ownData record "transaction"
  let metaValue ← ownData record "meta"
  let versionValue ← ownOptionalData record "version"
  if validBlockTransactionMeta metaValue = false then none
  else do
    let version ← validBlockTransactionVersion versionValue
    let snapshot ← snapshotSelectedTransaction libraries transaction metaValue
      (version.getD .legacy)
    return (snapshot, version)

def normalizeTransaction (response : Response Meta Message) (status : ConfirmationStatus)
    (index : Nat) : Option (NormalizedTransaction Content) := do
  let content ← libraries.normalizeContent response index
  let signature ← response.transaction.signatures.head?
  return ⟨signature, response.slot, index, status, content⟩

/-! ## The direct locator -/

structure TransactionLocationTarget where
  signature : String
  slot : Int
  confirmationStatus : ConfirmationStatus

inductive TransactionIngestionErrorCode
  | RPC_TRANSIENT
  | TRANSACTION_NOT_AVAILABLE
  | BLOCK_NOT_AVAILABLE
  | TRANSACTION_INDEX_NOT_FOUND
  | NORMALIZATION_FAILED
deriving DecidableEq

/-- What the scan for one transaction returns. -/
inductive Selected (Meta Message : Type)
  | absent
  | invalid
  | normalizationInvalid
  | found (index : Nat) (response : Response Meta Message)

/-- The loop of `snapshotBlockTransaction`, with the entries that are left. -/
def scanForTarget (target : TransactionLocationTarget) (blockTime : Value) :
    Nat → List String → Option (Nat × Response Meta Message) → List Value → Selected Meta Message
  | _, _, none, [] => .absent
  | _, _, some (index, response), [] => .found index response
  | index, seen, selected, entry :: rest =>
    match entrySignature entry with
    | none => .invalid
    | some signature =>
      if signature ∈ seen then if signature = target.signature then .absent else .invalid
      else if signature ≠ target.signature then
        scanForTarget target blockTime (index + 1) (signature :: seen) selected rest
      else if selected.isSome then .absent
      else
        match entrySnapshot libraries entry with
        | none => .normalizationInvalid
        | some (snapshot, version) =>
          scanForTarget target blockTime (index + 1) (signature :: seen)
            (some (index, ⟨target.slot, blockTime, snapshot, version⟩)) rest

def snapshotBlockTransaction (value : Value) (target : TransactionLocationTarget) :
    Selected Meta Message :=
  let fields : Option (Value × Value × Value × Value × Value) := do
    let record ← ownRecord value
    let blockhash ← ownData record "blockhash"
    let previousBlockhash ← ownData record "previousBlockhash"
    let parentSlot ← ownData record "parentSlot"
    let blockTime ← ownData record "blockTime"
    let transactions ← ownData record "transactions"
    return (blockhash, previousBlockhash, parentSlot, blockTime, transactions)
  match fields with
  | none => .invalid
  | some (blockhash, previousBlockhash, parentSlot, blockTime, transactions) =>
    if validBlockhash libraries blockhash = true ∧
        validBlockhash libraries previousBlockhash = true ∧
        validParentSlot parentSlot target.slot = true ∧ validBlockTime blockTime = true then
      match denseBlockTransactions transactions with
      | none => .invalid
      | some entries => scanForTarget libraries target blockTime 0 [] none entries
    else .invalid

/-- `SolanaBlockTransactionLocator.locate`, from the block the provider returned. -/
def locateDirect (block : Value) (target : TransactionLocationTarget) :
    Except TransactionIngestionErrorCode (NormalizedTransaction Content) :=
  if validTargetSlot target.slot = false then .error .BLOCK_NOT_AVAILABLE
  else
    match block with
    | .null => .error .BLOCK_NOT_AVAILABLE
    | block =>
      match snapshotBlockTransaction libraries block target with
      | .absent => .error .TRANSACTION_INDEX_NOT_FOUND
      | .invalid => .error .BLOCK_NOT_AVAILABLE
      | .normalizationInvalid => .error .NORMALIZATION_FAILED
      | .found index response =>
        match normalizeTransaction libraries response target.confirmationStatus index with
        | none => .error .NORMALIZATION_FAILED
        | some normalized =>
          if normalized.signature ≠ target.signature ∨ normalized.slot ≠ target.slot then
            .error .TRANSACTION_INDEX_NOT_FOUND
          else .ok normalized

/-! ## The snapshot of a block -/

structure BlockTransactionDataSnapshot where
  transactions : List (String × Option String)
  duplicateSignature : Option String
  cacheable : Bool
  bytes : Nat
deriving DecidableEq

def MAX_BLOCK_COMPRESSION_INPUT_BYTES : Nat := 33554432

variable (codec : Codec Content)

/-- The payload of an entry and what it took of the compression budget. -/
def entryPayload (slot : Int) (status : ConfirmationStatus) (blockTime : Value) (index : Nat)
    (signature : String) (remaining : Nat) (entry : Value) : Option (String × Nat) := do
  let (snapshot, version) ← entrySnapshot libraries entry
  let normalized ← normalizeTransaction libraries ⟨slot, blockTime, snapshot, version⟩ status index
  if normalized.signature ≠ signature ∨ normalized.slot ≠ slot then none
  else return codec.encode normalized remaining

/-- The variables of the loop of `snapshotBlockTransactionData`; the set of seen signatures is that of
the transactions. -/
structure Scanned where
  transactions : List (String × Option String)
  cacheable : Bool
  bytes : Nat
  remainingCompressionBytes : Nat

def Scanned.push (scanned : Scanned) (signature : String) (payload : Option (String × Nat)) :
    Scanned where
  transactions := scanned.transactions ++ [(signature, payload.map (·.1))]
  cacheable := scanned.cacheable && payload.isSome
  bytes := scanned.bytes + (signature.utf8ByteSize + ((payload.map (·.1.length)).getD 0) + 32)
  remainingCompressionBytes :=
    scanned.remainingCompressionBytes - ((payload.map (·.2)).getD 0)

/-- The loop of `snapshotBlockTransactionData`, with the entries that are left. -/
def scanBlock (slot : Int) (status : ConfirmationStatus) (blockTime : Value) :
    Nat → List String → Scanned → List Value → Option BlockTransactionDataSnapshot
  | _, _, scanned, [] => some ⟨scanned.transactions, none, scanned.cacheable, scanned.bytes⟩
  | index, seen, scanned, entry :: rest =>
    match entrySignature entry with
    | none => none
    | some signature =>
      if signature ∈ seen then some ⟨[], some signature, false, 0⟩
      else
        let payload := entryPayload libraries codec slot status blockTime index signature
          scanned.remainingCompressionBytes entry
        scanBlock slot status blockTime (index + 1) (signature :: seen)
          (scanned.push signature payload) rest

def snapshotBlockTransactionData (value : Value) (slot : Int) (status : ConfirmationStatus) :
    Option BlockTransactionDataSnapshot :=
  if validTargetSlot slot = false then none
  else do
    let record ← ownRecord value
    let blockTime ← ownData record "blockTime"
    let blockhash ← ownData record "blockhash"
    let previousBlockhash ← ownData record "previousBlockhash"
    let parentSlot ← ownData record "parentSlot"
    if validBlockhash libraries blockhash = true ∧
        validBlockhash libraries previousBlockhash = true ∧
        validParentSlot parentSlot slot = true ∧ validBlockTime blockTime = true then do
      let transactions ← ownData record "transactions"
      let entries ← denseBlockTransactions transactions
      scanBlock libraries codec slot status blockTime 0 []
        ⟨[], true, 64, MAX_BLOCK_COMPRESSION_INPUT_BYTES⟩ entries
    else none

/-! ## The cached lookup -/

/-- The commitment a block is fetched with. -/
def effectiveStatus : ConfirmationStatus → ConfirmationStatus
  | .FINALIZED => .FINALIZED
  | .PROCESSED | .CONFIRMED => .CONFIRMED

/-- The end of the cached `locate`: the target's transaction in the snapshot. -/
def selectFrom (snapshot : BlockTransactionDataSnapshot) (target : TransactionLocationTarget) :
    Except TransactionIngestionErrorCode (NormalizedTransaction Content) :=
  match snapshot.duplicateSignature with
  | some duplicate =>
    .error (if duplicate = target.signature then .TRANSACTION_INDEX_NOT_FOUND
      else .BLOCK_NOT_AVAILABLE)
  | none =>
    match snapshot.transactions.find? (·.1 = target.signature) with
    | none => .error .TRANSACTION_INDEX_NOT_FOUND
    | some (_, none) => .error .NORMALIZATION_FAILED
    | some (_, some payload) =>
      match codec.decode payload with
      | none => .error .NORMALIZATION_FAILED
      | some normalized => .ok { normalized with confirmationStatus := target.confirmationStatus }

/-- `CachedSolanaBlockTransactionLocator.locate` where the cache is filled from the block: a cold
lookup, or a hit on the snapshot of the same block. -/
def locateCached (block : Value) (target : TransactionLocationTarget) :
    Except TransactionIngestionErrorCode (NormalizedTransaction Content) :=
  if validTargetSlot target.slot = false then .error .BLOCK_NOT_AVAILABLE
  else
    match snapshotBlockTransactionData libraries codec block target.slot
        (effectiveStatus target.confirmationStatus) with
    | none => .error .BLOCK_NOT_AVAILABLE
    | some snapshot => selectFrom codec snapshot target

end SolTokenListener.Source.BlockTransactionLocator
