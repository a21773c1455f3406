import SolTokenListener.Source.BlockTransactionLocator

/-!
# Cached and direct lookups of a block

Both scans stop at the first entry whose primary signature is unreadable or was already met. They
differ in one place: at the target's entry the direct scan returns at once when the entry cannot be
copied for the normalizer, without having seen the entries after it. The lookups agree on a block
exactly when there is then no fault after that entry.
-/

namespace SolTokenListener.Guarantees.BlockLookup

open Source.BlockTransactionLocator

variable {seen : List String} {entry : Value} {rest : List Value} {signature : String} {index : Nat}
variable {Meta Message Content : Type} {libraries : Libraries Meta Message Content}
  {codec : Codec Content} {target : TransactionLocationTarget} {blockTime : Value}

/-! ## Faults of a block -/

/-- What makes a scan give up a block. -/
inductive Fault
  | unreadable
  | duplicate (signature : String)
deriving DecidableEq

/-- The first entry with an unreadable primary signature, or with one met before. -/
def firstFault : List String → List Value → Option Fault
  | _, [] => none
  | seen, entry :: rest =>
    match entrySignature entry with
    | none => some .unreadable
    | some signature =>
      if signature ∈ seen then some (.duplicate signature) else firstFault (signature :: seen) rest

/-- The error both locators raise for a fault. -/
def faultCode (target : TransactionLocationTarget) : Fault → TransactionIngestionErrorCode
  | .unreadable => .BLOCK_NOT_AVAILABLE
  | .duplicate signature =>
    if signature = target.signature then .TRANSACTION_INDEX_NOT_FOUND else .BLOCK_NOT_AVAILABLE

theorem faultCode_ne (fault : Fault) : faultCode target fault ≠ .NORMALIZATION_FAILED := by
  cases fault with
  | unreadable => simp [faultCode]
  | duplicate signature =>
    dsimp only [faultCode]
    split <;> simp

theorem firstFault_cons (readable : entrySignature entry = some signature)
    (unseen : signature ∉ seen) :
    firstFault seen (entry :: rest) = firstFault (signature :: seen) rest := by
  simp only [firstFault, readable, unseen, if_false]

/-- A signature that was met before is a fault wherever it comes back. -/
theorem firstFault_repeated {before : List Value} (readable : entrySignature entry = some signature)
    (met : signature ∈ seen) : firstFault seen (before ++ [entry]) ≠ none := by
  induction before generalizing seen with
  | nil => simp [firstFault, readable, met]
  | cons first before ih =>
    rw [List.cons_append, firstFault]
    split
    · simp
    · split
      · simp
      · exact ih (List.mem_cons_of_mem _ met)

/-! ## The signature of a copied entry -/

variable {snapshot : SelectedTransaction Meta Message} {version : Option TransactionVersion}

theorem entrySnapshot_signature (copied : entrySnapshot libraries entry = some (snapshot, version)) :
    snapshot.signatures.head? = entrySignature entry := by
  unfold entrySnapshot at copied
  unfold entrySignature primaryTransactionSignature
  simp only [Option.bind_eq_bind, Option.bind_eq_some_iff] at copied
  obtain ⟨record, isRecord, transaction, isTransaction, metaValue, _, versionValue, _, copied⟩ := copied
  split at copied
  · cases copied
  · simp only [Option.bind_eq_some_iff] at copied
    obtain ⟨_, _, selected, copies, same⟩ := copied
    cases same
    unfold snapshotSelectedTransaction snapshotSignatureArray at copies
    simp only [Option.bind_eq_bind, Option.bind_eq_some_iff] at copies
    obtain ⟨fields, isFields, value, isValue, signatures, read, _, _, _, _, _, _, built⟩ := copies
    cases built
    obtain ⟨entries, dense, read⟩ := read
    simp only [isRecord, isTransaction, isFields, isValue, dense, Option.bind_eq_bind,
      Option.bind_some]
    split at read
    · cases read
    next some =>
      rw [if_neg some, read]
      rfl

/-- The status is only copied into the result. -/
theorem normalizeTransaction_status (response : Response Meta Message)
    (status other : ConfirmationStatus) (index : Nat) :
    normalizeTransaction libraries response other index =
      (normalizeTransaction libraries response status index).map
        fun normalized => { normalized with confirmationStatus := other } := by
  unfold normalizeTransaction
  cases libraries.normalizeContent response index with
  | none => rfl
  | some content =>
    cases response.transaction.signatures.head? with
    | none => rfl
    | some signature => rfl

/-! ## The scans after the target -/

/-- What the cached lookup makes of a scan. -/
def cachedResult (codec : Codec Content) (target : TransactionLocationTarget) :
    Option BlockTransactionDataSnapshot →
      Except TransactionIngestionErrorCode (NormalizedTransaction Content)
  | none => .error .BLOCK_NOT_AVAILABLE
  | some snapshot => selectFrom codec snapshot target

/-- What the direct lookup makes of a scan. -/
def directResult (libraries : Libraries Meta Message Content) (target : TransactionLocationTarget) :
    Selected Meta Message → Except TransactionIngestionErrorCode (NormalizedTransaction Content)
  | .absent => .error .TRANSACTION_INDEX_NOT_FOUND
  | .invalid => .error .BLOCK_NOT_AVAILABLE
  | .normalizationInvalid => .error .NORMALIZATION_FAILED
  | .found index response =>
    match normalizeTransaction libraries response target.confirmationStatus index with
    | none => .error .NORMALIZATION_FAILED
    | some normalized =>
      if normalized.signature ≠ target.signature ∨ normalized.slot ≠ target.slot then
        .error .TRANSACTION_INDEX_NOT_FOUND
      else .ok normalized

/-- What the cached lookup makes of the target's payload. -/
def payloadResult (codec : Codec Content) (target : TransactionLocationTarget) :
    Option String → Except TransactionIngestionErrorCode (NormalizedTransaction Content)
  | none => .error .NORMALIZATION_FAILED
  | some payload =>
    match codec.decode payload with
    | none => .error .NORMALIZATION_FAILED
    | some normalized => .ok { normalized with confirmationStatus := target.confirmationStatus }

/-- A fault, or else the given result. -/
def orFault (target : TransactionLocationTarget)
    (result : Except TransactionIngestionErrorCode (NormalizedTransaction Content)) :
    Option Fault → Except TransactionIngestionErrorCode (NormalizedTransaction Content)
  | none => result
  | some fault => .error (faultCode target fault)

theorem cachedResult_duplicate :
    cachedResult codec target (some ⟨[], some signature, false, 0⟩) =
      .error (faultCode target (.duplicate signature)) := rfl

variable {status : ConfirmationStatus}

/-- Once the target is among the transactions, the cached scan returns its payload or a fault. -/
theorem scanBlock_after {scanned : Scanned} {payload : Option String} {entries : List Value}
    (holds : scanned.transactions.find? (·.1 = target.signature) = some (target.signature, payload)) :
    cachedResult codec target
        (scanBlock libraries codec target.slot status blockTime index seen scanned entries) =
      orFault target (payloadResult codec target payload) (firstFault seen entries) := by
  induction entries generalizing index seen scanned with
  | nil =>
    simp only [scanBlock, cachedResult, selectFrom, holds, firstFault, orFault]
    cases payload with
    | none => rfl
    | some text => rfl
  | cons entry rest ih =>
    unfold scanBlock firstFault
    cases entrySignature entry with
    | none => rfl
    | some signature =>
      dsimp only
      by_cases met : signature ∈ seen
      · rw [if_pos met, if_pos met]
        exact cachedResult_duplicate
      · rw [if_neg met, if_neg met]
        refine ih ?_
        simp only [Scanned.push, List.find?_append, holds, Option.some_or]

/-- Once the target was selected, the direct scan returns it or a fault. -/
theorem scanForTarget_after {selectedIndex : Nat} {response : Response Meta Message}
    {entries : List Value} (met : target.signature ∈ seen) :
    directResult libraries target
        (scanForTarget libraries target blockTime index seen (some (selectedIndex, response)) entries) =
      orFault target (directResult libraries target (.found selectedIndex response))
        (firstFault seen entries) := by
  induction entries generalizing index seen with
  | nil => simp only [scanForTarget, firstFault, orFault]
  | cons entry rest ih =>
    unfold scanForTarget firstFault
    cases entrySignature entry with
    | none => rfl
    | some signature =>
      dsimp only
      by_cases seenBefore : signature ∈ seen
      · rw [if_pos seenBefore, if_pos seenBefore]
        simp only [orFault, faultCode]
        split <;> rfl
      · have other : signature ≠ target.signature := by
          intro same
          exact seenBefore (same ▸ met)
        rw [if_neg seenBefore, if_neg seenBefore, if_pos other]
        exact ih (List.mem_cons_of_mem _ met)

/-! ## The scans up to the target -/

/-- The entry of the target can be copied, or no fault follows it. -/
def NoFaultBehind (libraries : Libraries Meta Message Content) (target : TransactionLocationTarget)
    (seen : List String) (entries : List Value) : Prop :=
  ∀ before entry behind, entries = before ++ entry :: behind →
    entrySignature entry = some target.signature → firstFault seen (before ++ [entry]) = none →
    entrySnapshot libraries entry = none → firstFault seen entries = none

/-- No entry is reached behind a first one that is a fault. -/
theorem noFaultBehind_of_fault (fault : ∀ others, firstFault seen (entry :: others) ≠ none) :
    NoFaultBehind libraries target seen (entry :: rest) := by
  intro before reached behind split _ clean _
  cases before with
  | nil =>
    cases split
    exact absurd clean (fault [])
  | cons first before =>
    cases split
    exact absurd clean (fault (before ++ [reached]))

theorem noFaultBehind_other (readable : entrySignature entry = some signature)
    (unseen : signature ∉ seen) (other : signature ≠ target.signature) :
    NoFaultBehind libraries target seen (entry :: rest) ↔
      NoFaultBehind libraries target (signature :: seen) rest := by
  constructor
  · intro whole before reached behind split named clean blocked
    rw [← firstFault_cons readable unseen] at clean ⊢
    exact whole (entry :: before) reached behind (by rw [split]; rfl) named clean blocked
  · intro rests before reached behind split named clean blocked
    cases before with
    | nil =>
      cases split
      rw [readable] at named
      exact absurd (Option.some.inj named) other
    | cons first before =>
      cases split
      rw [List.cons_append, firstFault_cons readable unseen] at clean
      rw [firstFault_cons readable unseen]
      exact rests before reached behind rfl named clean blocked

theorem noFaultBehind_target (readable : entrySignature entry = some target.signature)
    (unseen : target.signature ∉ seen) :
    NoFaultBehind libraries target seen (entry :: rest) ↔
      (entrySnapshot libraries entry = none →
        firstFault (target.signature :: seen) rest = none) := by
  constructor
  · intro whole blocked
    rw [← firstFault_cons readable unseen]
    refine whole [] entry rest rfl readable ?_ blocked
    rw [List.nil_append, firstFault_cons readable unseen]
    rfl
  · intro rests before reached behind split named clean blocked
    cases before with
    | nil =>
      cases split
      rw [firstFault_cons readable unseen]
      exact rests blocked
    | cons first before =>
      cases split
      rw [List.cons_append, firstFault_cons readable unseen] at clean
      exact absurd clean (firstFault_repeated named List.mem_cons_self)

/-- The target's payload decodes to what the direct lookup returns. -/
theorem payloadResult_eq_direct {remaining : Nat}
    (readable : entrySignature entry = some target.signature)
    (copied : entrySnapshot libraries entry = some (snapshot, version)) :
    payloadResult codec target ((entryPayload libraries codec target.slot status blockTime index
        target.signature remaining entry).map (·.1)) =
      directResult libraries target (.found index ⟨target.slot, blockTime, snapshot, version⟩) := by
  have signed := entrySnapshot_signature copied
  have restated := @normalizeTransaction_status Meta Message Content libraries
    ⟨target.slot, blockTime, snapshot, version⟩ status target.confirmationStatus index
  unfold directResult
  dsimp only
  rw [restated]
  unfold entryPayload
  rw [copied]
  simp only [Option.bind_eq_bind, Option.bind_some]
  cases normalized : normalizeTransaction libraries ⟨target.slot, blockTime, snapshot, version⟩ status
      index with
  | none => rfl
  | some transaction =>
    have fields : transaction.signature = target.signature ∧ transaction.slot = target.slot := by
      unfold normalizeTransaction at normalized
      simp only [Option.bind_eq_bind, Option.bind_eq_some_iff] at normalized
      obtain ⟨content, _, signature, head, built⟩ := normalized
      cases built
      rw [signed, readable] at head
      exact ⟨(Option.some.inj head).symm, rfl⟩
    simp [fields, payloadResult, codec.lossless]

/-- The lookups agree on the entries that are left exactly when no fault hides behind the target. -/
theorem scans_agree_iff {status : ConfirmationStatus} {index : Nat} {seen : List String}
    {scanned : Scanned} {entries : List Value} (unmet : target.signature ∉ seen)
    (without : scanned.transactions.find? (·.1 = target.signature) = none) :
    cachedResult codec target
        (scanBlock libraries codec target.slot status blockTime index seen scanned entries) =
      directResult libraries target
        (scanForTarget libraries target blockTime index seen none entries) ↔
      NoFaultBehind libraries target seen entries := by
  induction entries generalizing index seen scanned with
  | nil =>
    simp [scanBlock, scanForTarget, cachedResult, directResult, selectFrom, without, NoFaultBehind]
  | cons entry rest ih =>
    unfold scanBlock scanForTarget
    cases readable : entrySignature entry with
    | none =>
      refine iff_of_true rfl (noFaultBehind_of_fault ?_)
      intro others
      simp [firstFault, readable]
    | some signature =>
      dsimp only
      by_cases met : signature ∈ seen
      · rw [if_pos met, if_pos met]
        have other : signature ≠ target.signature := by
          intro same
          exact unmet (same ▸ met)
        rw [if_neg other, cachedResult_duplicate]
        refine iff_of_true ?_ (noFaultBehind_of_fault ?_)
        · simp [faultCode, other, directResult]
        · intro others
          simp [firstFault, readable, met]
      · rw [if_neg met, if_neg met]
        by_cases named : signature = target.signature
        · subst named
          rw [if_neg (by simp), if_neg (by simp), noFaultBehind_target readable met]
          have held : (scanned.push target.signature (entryPayload libraries codec target.slot status
              blockTime index target.signature scanned.remainingCompressionBytes entry)).transactions.find?
                (·.1 = target.signature) = some (target.signature, (entryPayload libraries codec
                  target.slot status blockTime index target.signature
                  scanned.remainingCompressionBytes entry).map (·.1)) := by
            simp [Scanned.push, List.find?_append, without]
          rw [scanBlock_after held]
          cases copied : entrySnapshot libraries entry with
          | none =>
            have unpaid : entryPayload libraries codec target.slot status blockTime index
                target.signature scanned.remainingCompressionBytes entry = none := by
              simp [entryPayload, copied]
            rw [unpaid]
            cases behind : firstFault (target.signature :: seen) rest with
            | none => exact iff_of_true rfl (by simp)
            | some fault =>
              refine iff_of_false ?_ (by simp)
              intro same
              exact faultCode_ne fault (Except.error.inj same)
          | some selected =>
            obtain ⟨snapshot, version⟩ := selected
            dsimp only
            rw [scanForTarget_after List.mem_cons_self, payloadResult_eq_direct readable copied]
            exact iff_of_true rfl (by simp)
        · rw [if_pos named, noFaultBehind_other readable met named]
          refine ih ?_ ?_
          · simp [unmet, Ne.symm named]
          · simp [Scanned.push, List.find?_append, without, named]

/-! ## Whole blocks -/

/-- The block time and the entries of a block whose envelope is valid. -/
def blockEntries (libraries : Libraries Meta Message Content) (block : Value) (slot : Int) :
    Option (Value × List Value) := do
  let record ← ownRecord block
  let blockTime ← ownData record "blockTime"
  let blockhash ← ownData record "blockhash"
  let previousBlockhash ← ownData record "previousBlockhash"
  let parentSlot ← ownData record "parentSlot"
  if validBlockhash libraries blockhash = true ∧ validBlockhash libraries previousBlockhash = true ∧
      validParentSlot parentSlot slot = true ∧ validBlockTime blockTime = true then do
    let transactions ← ownData record "transactions"
    let entries ← denseBlockTransactions transactions
    return (blockTime, entries)
  else none

theorem snapshotBlockTransaction_eq (block : Value) :
    snapshotBlockTransaction libraries block target =
      match blockEntries libraries block target.slot with
      | none => .invalid
      | some (blockTime, entries) => scanForTarget libraries target blockTime 0 [] none entries := by
  unfold snapshotBlockTransaction blockEntries
  cases ownRecord block with
  | none => rfl
  | some record =>
    -- A field that cannot be read invalidates the block in whichever order the fields are read.
    simp only [Option.bind_eq_bind, Option.bind_some]
    rcases ownData record "blockhash" with _ | blockhash
    · cases ownData record "blockTime" <;> rfl
    rcases ownData record "previousBlockhash" with _ | previousBlockhash
    · cases ownData record "blockTime" <;> rfl
    rcases ownData record "parentSlot" with _ | parentSlot
    · cases ownData record "blockTime" <;> rfl
    rcases ownData record "blockTime" with _ | blockTime
    · rfl
    simp only [Option.bind_some]
    by_cases valid : validBlockhash libraries blockhash = true ∧
        validBlockhash libraries previousBlockhash = true ∧
        validParentSlot parentSlot target.slot = true ∧ validBlockTime blockTime = true
    · rw [if_pos valid]
      rcases ownData record "transactions" with _ | transactions
      · rfl
      simp only [Option.bind_some, Option.pure_def, if_pos valid]
      cases denseBlockTransactions transactions <;> rfl
    · rw [if_neg valid]
      cases ownData record "transactions" with
      | none => rfl
      | some transactions => simp only [Option.bind_some, Option.pure_def, if_neg valid]

theorem snapshotBlockTransactionData_eq {block : Value} {slot : Int} (status : ConfirmationStatus)
    (valid : validTargetSlot slot = true) :
    snapshotBlockTransactionData libraries codec block slot status =
      (blockEntries libraries block slot).bind fun entries =>
        scanBlock libraries codec slot status entries.1 0 []
          ⟨[], true, 64, MAX_BLOCK_COMPRESSION_INPUT_BYTES⟩ entries.2 := by
  unfold snapshotBlockTransactionData blockEntries
  rw [if_neg (by simp [valid])]
  simp only [Option.bind_eq_bind, Option.bind_assoc]
  congr 1
  funext record
  congr 1
  funext blockTime
  congr 1
  funext blockhash
  congr 1
  funext previousBlockhash
  congr 1
  funext parentSlot
  split
  · simp only [Option.bind_assoc, Option.pure_def, Option.bind_some]
  · rfl

theorem locateCached_eq (valid : validTargetSlot target.slot = true) (block : Value) :
    locateCached libraries codec block target = cachedResult codec target
      (snapshotBlockTransactionData libraries codec block target.slot
        (effectiveStatus target.confirmationStatus)) := by
  rw [locateCached, if_neg (by simp [valid])]
  cases snapshotBlockTransactionData libraries codec block target.slot (effectiveStatus target.confirmationStatus) <;> rfl

theorem locateDirect_eq (valid : validTargetSlot target.slot = true) (block : Value) :
    locateDirect libraries block target = directResult libraries target
      (snapshotBlockTransaction libraries block target) := by
  unfold locateDirect
  rw [if_neg (by simp [valid])]
  cases block <;> rfl

/-- For every block value and every target, the cached and the direct lookup return the same
transaction or the same error exactly when no fault hides behind a target that cannot be copied. -/
theorem lookups_agree_iff (libraries : Libraries Meta Message Content) (codec : Codec Content)
    (block : Value) (target : TransactionLocationTarget) :
    locateCached libraries codec block target = locateDirect libraries block target ↔
      (validTargetSlot target.slot = true → ∀ blockTime entries,
        blockEntries libraries block target.slot = some (blockTime, entries) →
          NoFaultBehind libraries target [] entries) := by
  cases valid : validTargetSlot target.slot with
  | false => simp [locateCached, locateDirect, valid]
  | true =>
    rw [locateCached_eq valid, locateDirect_eq valid, snapshotBlockTransaction_eq,
      snapshotBlockTransactionData_eq _ valid]
    simp only [forall_const]
    cases blockEntries libraries block target.slot with
    | none => simp [cachedResult, directResult]
    | some read =>
      obtain ⟨blockTime, entries⟩ := read
      have agree := @scans_agree_iff Meta Message Content libraries codec target blockTime
        (effectiveStatus target.confirmationStatus) 0 []
        ⟨[], true, 64, MAX_BLOCK_COMPRESSION_INPUT_BYTES⟩ entries (by simp) rfl
      simpa using agree

/-- Libraries for which one text is the blockhash and every transaction can be normalized. -/
def sampleLibraries : Libraries Unit Unit Unit where
  base58Decode := fun _ => some (List.replicate 32 0)
  base58Encode := fun _ => "hash"
  snapshotMeta := fun _ => some ()
  snapshotMessage := fun _ _ _ => some ()
  normalizeContent := fun _ _ => some ()

def statusMark : ConfirmationStatus → Char
  | .PROCESSED => 'p'
  | .CONFIRMED => 'c'
  | .FINALIZED => 'f'

/-- A codec that writes the numbers of a transaction in unary before its signature. -/
def sampleCodec : Codec Unit where
  encode := fun transaction _ =>
    (String.ofList (statusMark transaction.confirmationStatus ::
      (List.replicate transaction.slot.toNat '+' ++ List.replicate (-transaction.slot).toNat '-' ++
        List.replicate transaction.transactionIndex '#') ++ ' ' :: transaction.signature.toList), 0)
  decode := fun payload =>
    let numbers := payload.toList.takeWhile (· ≠ ' ')
    let signature := String.ofList (payload.toList.dropWhile (· ≠ ' ')).tail
    let slot := (numbers.count '+' : Int) - numbers.count '-'
    (numbers.head?.bind fun mark => [ConfirmationStatus.PROCESSED, .CONFIRMED, .FINALIZED].find?
      (statusMark · = mark)).map (⟨signature, slot, numbers.count '#', ·, ()⟩)
  lossless := by
    rintro ⟨signature, slot, index, status, ⟨⟩⟩ remaining
    have digits : ∀ char ∈ statusMark status :: (List.replicate slot.toNat '+' ++
        List.replicate (-slot).toNat '-' ++ List.replicate index '#'), decide (char ≠ ' ') = true := by
      intro char member
      simp only [List.mem_cons, List.mem_append, List.mem_replicate] at member
      rcases member with rfl | ((⟨-, rfl⟩ | ⟨-, rfl⟩) | ⟨-, rfl⟩)
      · cases status <;> decide
      all_goals decide
    simp only [String.toList_ofList, List.takeWhile_append_of_pos digits,
      List.dropWhile_append_of_pos digits]
    cases status <;> simp [statusMark, List.count_replicate] <;> omega

/-- A block of one transaction, with minus zero for its time and version. -/
def signedZeros : Value :=
  .object [("blockhash", some (.string "hash")), ("previousBlockhash", some (.string "hash")),
    ("parentSlot", some (.number 6)), ("blockTime", some .minusZero),
    ("transactions", some (.array true
      [.object [("transaction", some (.object [("signatures", some (.array true [.string "wanted"])),
        ("message", some .null)])), ("meta", some .null), ("version", some .minusZero)]]))]

example : locateCached sampleLibraries sampleCodec signedZeros ⟨"wanted", 7, .FINALIZED⟩ =
      .ok ⟨"wanted", 7, 0, .FINALIZED, ()⟩ ∧
    locateDirect sampleLibraries signedZeros ⟨"wanted", 7, .FINALIZED⟩ =
      .ok ⟨"wanted", 7, 0, .FINALIZED, ()⟩ :=
  ⟨rfl, rfl⟩

/-- A transaction whose entry has no metadata property, followed by an entry that is no record. -/
def hiddenFault : Value :=
  .object [("blockhash", some (.string "hash")), ("previousBlockhash", some (.string "hash")),
    ("parentSlot", some (.number 6)), ("blockTime", some .null),
    ("transactions", some (.array true
      [.object [("transaction", some (.object
        [("signatures", some (.array true [.string "wanted"]))]))], .null]))]

/-- The direct lookup reports the transaction as impossible to normalize, for good; the cached one, with
any codec, reports the block as unavailable, to be retried. -/
theorem hiddenFault_codes :
    locateDirect sampleLibraries hiddenFault ⟨"wanted", 7, .CONFIRMED⟩ =
        .error .NORMALIZATION_FAILED ∧
      ∀ codec : Codec Unit, locateCached sampleLibraries codec hiddenFault ⟨"wanted", 7, .CONFIRMED⟩ =
        .error .BLOCK_NOT_AVAILABLE := by
  refine ⟨rfl, ?_⟩
  intro codec
  rfl

end SolTokenListener.Guarantees.BlockLookup
