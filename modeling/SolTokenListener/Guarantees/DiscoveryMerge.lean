import Mathlib.Data.Prod.Lex
import SolTokenListener.Lib.SortedByKey
import SolTokenListener.Source.CatchUpDiscovery

/-!
# The discovery merge is order independent and lossless

The merge folds rows pairwise and can throw at each. What it folded so far is described without the
order of the rows: one entry for each signature, with the programs that listed it, the strongest status
and the only block time. It throws exactly when two rows of one signature contradict each other, so
failure does not depend on the order either.
-/

namespace SolTokenListener.Guarantees.DiscoveryMerge

open Lib.SortedByKey Lib.Utf16Text
open Source.StrictCatchUp Source.CatchUpDiscovery
open Source.Chain (reconcileConfirmationStatus)

variable {previous entry : MergedCatchUpDiscovery}

/-! ## Orders -/

theorem lexicalOrder_le (left right : String) :
    lexicalOrder left right ≤ 0 ↔ units left ≤ units right := by
  have isBefore : before left right = true ↔ units left < units right := decide_eq_true_iff
  unfold lexicalOrder
  split
  · next same => simp [same]
  · next differ =>
      have apart : units left ≠ units right := fun same => differ (units_injective same)
      split
      · next first => exact iff_of_true (by decide) (isBefore.mp first).le
      · next notFirst =>
          refine iff_of_false (by decide) fun isLe => notFirst (isBefore.mpr ?_)
          exact lt_of_le_of_ne isLe apart

theorem lexicalOrder_zero (left right : String) : lexicalOrder left right = 0 ↔ left = right := by
  unfold lexicalOrder
  split
  · next same => exact iff_of_true rfl same
  · next differ => split <;> exact iff_of_false (by decide) differ

/-- What `discoveryOrder` compares. -/
def discoveryKey (entry : MergedCatchUpDiscovery) : ℕ ×ₗ List ℕ ×ₗ List ℕ :=
  toLex (entry.slot, toLex (units entry.signature, units (entry.programIds.head?.getD "")))

theorem orders_programIds : OrdersBy (fun left right => decide (lexicalOrder left right ≤ 0)) units :=
  fun left right => decide_eq_true_iff.trans (lexicalOrder_le left right)

theorem orders_discoveries :
    OrdersBy (fun left right => decide (discoveryOrder left right ≤ 0)) discoveryKey := by
  intro left right
  rw [decide_eq_true_iff]
  unfold discoveryOrder discoveryKey
  simp only [Prod.Lex.toLex_le_toLex]
  split
  · split <;> omega
  next slots =>
  rw [not_not] at slots
  split
  · next differ =>
      have apart : units left.signature ≠ units right.signature := fun same =>
        differ ((lexicalOrder_zero _ _).mpr (units_injective same))
      rw [lexicalOrder_le]
      simp only [slots, lt_irrefl, false_or, true_and, apart, false_and, or_false]
      exact ⟨fun isLe => lt_of_le_of_ne isLe apart, le_of_lt⟩
  · next same =>
      rw [not_not, lexicalOrder_zero] at same
      rw [lexicalOrder_le]
      simp only [slots, same, lt_irrefl, false_or, true_and]

/-! ## What rows say -/

/-- A row and the program whose scan listed it. -/
abbrev Listing := CatchUpDiscoveryProgram × CatchUpSignature

def listings (scans : List CatchUpDiscoveryScan) : List Listing :=
  scans.flatMap fun scan => scan.rows.map fun row => (scan.program, row)

def strength : CatchUpConfirmationStatus → Nat
  | .processed => 0
  | .confirmed => 1
  | .finalized => 2

/-- The entry of one signature says what the rows of the signature say together. -/
structure Summarizes (listed : List Listing) (entry : MergedCatchUpDiscovery) : Prop where
  slot : ∀ listing ∈ listed, listing.2.signature = entry.signature → listing.2.slot = entry.slot
  failed : ∀ listing ∈ listed, listing.2.signature = entry.signature →
    listing.2.transactionFailed = entry.transactionFailed
  blockTime : ∀ time, entry.blockTimeMs = some time ↔ ∃ listing ∈ listed,
    listing.2.signature = entry.signature ∧ listing.2.blockTimeMs = some time
  observed : ∃ listing ∈ listed, listing.2.signature = entry.signature ∧
    listing.2.confirmationStatus = entry.confirmationStatus
  strongest : ∀ listing ∈ listed, listing.2.signature = entry.signature →
    strength listing.2.confirmationStatus ≤ strength entry.confirmationStatus
  sorted : entry.programIds.Pairwise fun first second => units first < units second
  programs : ∀ id, id ∈ entry.programIds ↔ ∃ listing ∈ listed,
    listing.2.signature = entry.signature ∧ listing.1.id = id

/-- One entry for each listed signature. -/
structure Merges (listed : List Listing) (entries : List MergedCatchUpDiscovery) : Prop where
  distinct : (entries.map (·.signature)).Nodup
  signatures : ∀ signature, signature ∈ entries.map (·.signature) ↔
    ∃ listing ∈ listed, listing.2.signature = signature
  summary : ∀ entry ∈ entries, Summarizes listed entry

/-- No two rows of one signature contradict each other. -/
def Consistent (listed : List Listing) : Prop :=
  ∀ first ∈ listed, ∀ second ∈ listed, first.2.signature = second.2.signature →
    first.2.slot = second.2.slot ∧ first.2.transactionFailed = second.2.transactionFailed ∧
      ∀ time other, first.2.blockTimeMs = some time → second.2.blockTimeMs = some other → time = other

variable {listed : List Listing}

theorem Consistent.subset {more : List Listing} (consistent : Consistent more)
    (subset : listed ⊆ more) : Consistent listed :=
  fun first isFirst second isSecond => consistent first (subset isFirst) second (subset isSecond)

variable {entries : List MergedCatchUpDiscovery}

theorem Merges.consistent (merges : Merges listed entries) : Consistent listed := by
  intro first isFirst second isSecond same
  obtain ⟨entry, member, isEntry⟩ := List.mem_map.mp
    ((merges.signatures first.2.signature).mpr ⟨first, isFirst, rfl⟩)
  have summary := merges.summary entry member
  have ofSecond : second.2.signature = entry.signature := by rw [← same, isEntry]
  refine ⟨(summary.slot first isFirst isEntry.symm).trans (summary.slot second isSecond ofSecond).symm,
    (summary.failed first isFirst isEntry.symm).trans (summary.failed second isSecond ofSecond).symm, ?_⟩
  intro time other isTime isOther
  have firstTime := (summary.blockTime time).mpr ⟨first, isFirst, isEntry.symm, isTime⟩
  have secondTime := (summary.blockTime other).mpr ⟨second, isSecond, ofSecond, isOther⟩
  exact Option.some.inj (firstTime.symm.trans secondTime)

/-- Two entries of one signature that summarize the same rows are equal. -/
theorem Summarizes.unique {others : List Listing} {other : MergedCatchUpDiscovery}
    (summary : Summarizes listed entry) (otherSummary : Summarizes others other)
    (same : ∀ listing, listing ∈ listed ↔ listing ∈ others)
    (signature : entry.signature = other.signature) : entry = other := by
  obtain ⟨seen, isSeen, ofEntry, isStatus⟩ := summary.observed
  obtain ⟨otherSeen, isOtherSeen, ofOther, isOtherStatus⟩ := otherSummary.observed
  have slot := (summary.slot seen isSeen ofEntry).symm.trans
    (otherSummary.slot seen ((same _).mp isSeen) (ofEntry.trans signature))
  have failed := (summary.failed seen isSeen ofEntry).symm.trans
    (otherSummary.failed seen ((same _).mp isSeen) (ofEntry.trans signature))
  have status : entry.confirmationStatus = other.confirmationStatus := by
    have upper := otherSummary.strongest seen ((same _).mp isSeen) (ofEntry.trans signature)
    have lower := summary.strongest otherSeen ((same _).mpr isOtherSeen) (ofOther.trans signature.symm)
    rw [isStatus] at upper
    rw [isOtherStatus] at lower
    have strengths := Nat.le_antisymm upper lower
    cases entryStatus : entry.confirmationStatus <;> cases otherStatus : other.confirmationStatus <;>
      simp_all [strength]
  have blockTime : entry.blockTimeMs = other.blockTimeMs := by
    refine Option.ext fun time => ?_
    rw [summary.blockTime, otherSummary.blockTime, signature]
    simp only [same]
  have programs : entry.programIds = other.programIds := by
    have members : ∀ id, id ∈ entry.programIds ↔ id ∈ other.programIds := by
      intro id
      rw [summary.programs, otherSummary.programs, signature]
      simp only [same]
    have distinct : ∀ {ids : List String}, (ids.Pairwise fun first second => units first < units second) →
        ids.Nodup := fun sorted => sorted.imp fun isLt same => absurd (same ▸ isLt) (lt_irrefl _)
    have perm := (List.perm_ext_iff_of_nodup (distinct summary.sorted)
      (distinct otherSummary.sorted)).mpr members
    exact perm.eq_of_pairwise (fun _ _ _ _ isLt isGt => absurd isGt (lt_asymm isLt)) summary.sorted
      otherSummary.sorted
  obtain ⟨⟨entrySignature, entrySlot, entryStatus, entryTime, entryFailed⟩, entryIds⟩ := entry
  obtain ⟨⟨otherSignature, otherSlot, otherStatus, otherTime, otherFailed⟩, otherIds⟩ := other
  simp_all only

/-! ## One row -/

section Row

variable {program : CatchUpDiscoveryProgram} {row : CatchUpSignature}

theorem reconcileConfirmationStatus_chain (current incoming : CatchUpConfirmationStatus) :
    reconcileConfirmationStatus current.chain incoming.chain =
      .ok (if strength current < strength incoming then .update else .keep) := by
  cases current <;> cases incoming <;> rfl

def agree (current incoming : CatchUpSignature) : Prop :=
  current.slot = incoming.slot ∧ current.transactionFailed = incoming.transactionFailed ∧
    ∀ time other, current.blockTimeMs = some time → incoming.blockTimeMs = some other → time = other

theorem blockTimes_differ {current incoming : Option Int} :
    (current.isSome ∧ incoming.isSome ∧ current ≠ incoming) ↔
      ¬ ∀ time other, current = some time → incoming = some other → time = other := by
  cases current <;> cases incoming <;> simp

theorem reconcileDiscovery_none {current incoming : CatchUpSignature}
    (conflict : ¬ agree current incoming) : reconcileDiscovery current incoming = none := by
  unfold reconcileDiscovery
  by_cases slots : current.slot = incoming.slot
  · rw [if_neg (not_not.mpr slots)]
    by_cases times : current.blockTimeMs.isSome ∧ incoming.blockTimeMs.isSome ∧
        current.blockTimeMs ≠ incoming.blockTimeMs
    · rw [if_pos times]
    · rw [if_neg times]
      by_cases failed : current.transactionFailed = incoming.transactionFailed
      · exact absurd ⟨slots, failed, not_not.mp (mt blockTimes_differ.mpr times)⟩ conflict
      · rw [if_pos failed]
  · rw [if_pos slots]

theorem reconcileDiscovery_some {current incoming : CatchUpSignature} (agrees : agree current incoming) :
    reconcileDiscovery current incoming = some { current with
      confirmationStatus := if strength current.confirmationStatus < strength incoming.confirmationStatus
        then incoming.confirmationStatus else current.confirmationStatus
      blockTimeMs := current.blockTimeMs.or incoming.blockTimeMs } := by
  obtain ⟨slots, failed, times⟩ := agrees
  unfold reconcileDiscovery
  rw [if_neg (not_not.mpr slots), if_neg (fun differ => blockTimes_differ.mp differ times),
    if_neg (not_not.mpr failed), reconcileConfirmationStatus_chain]
  dsimp only
  split <;> simp_all

/-- The first row of a signature. -/
theorem summarizes_first (new : ∀ listing ∈ listed, listing.2.signature ≠ row.signature) :
    Summarizes (listed ++ [(program, row)]) ⟨row, [program.id]⟩ := by
  have only : ∀ listing ∈ listed ++ [(program, row)], listing.2.signature = row.signature →
      listing = (program, row) := by
    intro listing member same
    rcases List.mem_append.mp member with old | isRow
    · exact absurd same (new listing old)
    · exact List.mem_singleton.mp isRow
  have here : (program, row) ∈ listed ++ [(program, row)] :=
    List.mem_append_right _ List.mem_cons_self
  constructor
  · intro listing member same
    rw [only listing member same]
  · intro listing member same
    rw [only listing member same]
  · intro time
    constructor
    · exact fun isTime => ⟨_, here, rfl, isTime⟩
    · rintro ⟨listing, member, same, isTime⟩
      rw [only listing member same] at isTime
      exact isTime
  · exact ⟨_, here, rfl, rfl⟩
  · intro listing member same
    rw [only listing member same]
  · exact List.pairwise_singleton _ _
  · intro id
    constructor
    · intro member
      exact ⟨_, here, rfl, (List.mem_singleton.mp member).symm⟩
    · rintro ⟨listing, member, same, rfl⟩
      rw [only listing member same]
      exact List.mem_cons_self

/-- A row of another signature changes nothing. -/
theorem Summarizes.other (summary : Summarizes listed entry)
    (other : row.signature ≠ entry.signature) : Summarizes (listed ++ [(program, row)]) entry := by
  have same : ∀ property : Listing → Prop,
      (∃ listing ∈ listed ++ [(program, row)], listing.2.signature = entry.signature ∧
        property listing) ↔
      ∃ listing ∈ listed, listing.2.signature = entry.signature ∧ property listing := by
    intro property
    constructor
    · rintro ⟨listing, member, ofEntry, holds⟩
      rcases List.mem_append.mp member with old | isRow
      · exact ⟨listing, old, ofEntry, holds⟩
      · rw [List.mem_singleton.mp isRow] at ofEntry
        exact absurd ofEntry other
    · rintro ⟨listing, member, holds⟩
      exact ⟨listing, List.mem_append_left _ member, holds⟩
  have old : ∀ listing ∈ listed ++ [(program, row)], listing.2.signature = entry.signature →
      listing ∈ listed := by
    intro listing member ofEntry
    obtain ⟨found, isFound, -, rfl⟩ := (same (· = listing)).mp ⟨listing, member, ofEntry, rfl⟩
    exact isFound
  exact {
    slot := fun listing member ofEntry => summary.slot listing (old listing member ofEntry) ofEntry
    failed := fun listing member ofEntry => summary.failed listing (old listing member ofEntry) ofEntry
    blockTime := fun time => (summary.blockTime time).trans (same _).symm
    observed := (same _).mpr summary.observed
    strongest := fun listing member ofEntry =>
      summary.strongest listing (old listing member ofEntry) ofEntry
    sorted := summary.sorted
    programs := fun id => (summary.programs id).trans (same _).symm }

/-- The entry after one more row of its signature. -/
def joined (entry : MergedCatchUpDiscovery) (program : CatchUpDiscoveryProgram) (row : CatchUpSignature) :
    MergedCatchUpDiscovery where
  signature := entry.signature
  slot := entry.slot
  confirmationStatus := if strength entry.confirmationStatus < strength row.confirmationStatus
    then row.confirmationStatus else entry.confirmationStatus
  blockTimeMs := entry.blockTimeMs.or row.blockTimeMs
  transactionFailed := entry.transactionFailed
  programIds := addProgramId entry.programIds program.id

theorem mem_addProgramId {ids : List String} {id new : String} :
    id ∈ addProgramId ids new ↔ id ∈ ids ∨ id = new := by
  rw [addProgramId, mem_sort, List.mem_append, List.mem_singleton]

theorem addProgramId_sorted {ids : List String} {new : String}
    (sorted : ids.Pairwise fun first second => units first < units second) (absent : new ∉ ids) :
    (addProgramId ids new).Pairwise fun first second => units first < units second := by
  refine strict_sort orders_programIds ?_
  rw [List.map_append, List.nodup_append]
  refine ⟨List.pairwise_map.mpr (sorted.imp ne_of_lt), by simp, ?_⟩
  intro first isFirst second isSecond same
  obtain ⟨id, member, rfl⟩ := List.mem_map.mp isFirst
  rw [List.map_singleton, List.mem_singleton] at isSecond
  exact absent (units_injective (same.trans isSecond) ▸ member)

theorem Summarizes.join (summary : Summarizes listed entry)
    (ofEntry : row.signature = entry.signature) (agrees : agree entry.toCatchUpSignature row)
    (fresh : ∀ listing ∈ listed, listing.2.signature = row.signature → listing.1.id ≠ program.id) :
    Summarizes (listed ++ [(program, row)]) (joined entry program row) := by
  obtain ⟨slots, failed, times⟩ := agrees
  have split : ∀ property : Listing → Prop,
      (∃ listing ∈ listed ++ [(program, row)], listing.2.signature = entry.signature ∧
        property listing) ↔
      (∃ listing ∈ listed, listing.2.signature = entry.signature ∧ property listing) ∨
        property (program, row) := by
    intro property
    constructor
    · rintro ⟨listing, member, same, holds⟩
      rcases List.mem_append.mp member with old | isRow
      · exact .inl ⟨listing, old, same, holds⟩
      · rw [List.mem_singleton.mp isRow] at holds
        exact .inr holds
    · rintro (⟨listing, member, holds⟩ | holds)
      · exact ⟨listing, List.mem_append_left _ member, holds⟩
      · exact ⟨_, List.mem_append_right _ List.mem_cons_self, ofEntry, holds⟩
  have each : ∀ property : Listing → Prop,
      (∀ listing ∈ listed, listing.2.signature = entry.signature → property listing) →
      property (program, row) → ∀ listing ∈ listed ++ [(program, row)],
        listing.2.signature = entry.signature → property listing := by
    intro property old new listing member same
    rcases List.mem_append.mp member with isOld | isRow
    · exact old listing isOld same
    · rw [List.mem_singleton.mp isRow]
      exact new
  have absent : program.id ∉ entry.programIds := by
    intro member
    obtain ⟨listing, isListed, same, isProgram⟩ := (summary.programs program.id).mp member
    exact fresh listing isListed (same.trans ofEntry.symm) isProgram
  constructor
  · exact each _ summary.slot slots.symm
  · exact each _ summary.failed failed.symm
  · intro time
    refine Iff.trans ?_ (split _).symm
    rw [← summary.blockTime]
    change entry.blockTimeMs.or row.blockTimeMs = some time ↔ _
    cases isTime : entry.blockTimeMs with
    | none => simp
    | some known =>
      simp only [Option.some_or, Option.some.injEq]
      exact ⟨.inl, fun either => either.elim id fun isRow => times known time isTime isRow⟩
  · refine (split _).mpr ?_
    by_cases stronger : strength entry.confirmationStatus < strength row.confirmationStatus
    · exact .inr (if_pos stronger).symm
    · have kept : (joined entry program row).confirmationStatus = entry.confirmationStatus :=
        if_neg stronger
      rw [kept]
      exact .inl summary.observed
  · by_cases stronger : strength entry.confirmationStatus < strength row.confirmationStatus
    · have raised : (joined entry program row).confirmationStatus = row.confirmationStatus :=
        if_pos stronger
      rw [raised]
      exact each _ (fun listing member same =>
        (summary.strongest listing member same).trans stronger.le) (Nat.le_refl _)
    · have kept : (joined entry program row).confirmationStatus = entry.confirmationStatus :=
        if_neg stronger
      rw [kept]
      exact each _ summary.strongest (Nat.not_lt.mp stronger)
  · exact addProgramId_sorted summary.sorted absent
  · intro id
    refine Iff.trans ?_ (split _).symm
    rw [← summary.programs]
    exact mem_addProgramId.trans (or_congr_right eq_comm)

theorem mergeRow_new (absent : entries.find? (·.signature = row.signature) = none) :
    mergeRow program entries row = .ok (entries ++ [⟨row, [program.id]⟩]) := by
  unfold mergeRow
  rw [absent]
  rfl

theorem mergeRow_old (found : entries.find? (·.signature = row.signature) = some previous)
    (agrees : agree previous.toCatchUpSignature row) :
    mergeRow program entries row = .ok (entries.map fun entry =>
      if entry.signature = row.signature then joined previous program row else entry) := by
  unfold mergeRow
  rw [found]
  dsimp only
  rw [reconcileDiscovery_some agrees]
  rfl

theorem mergeRow_conflict (found : entries.find? (·.signature = row.signature) = some previous)
    (conflict : ¬ agree previous.toCatchUpSignature row) :
    mergeRow program entries row = .error ⟨.response, some program.key⟩ := by
  unfold mergeRow
  rw [found]
  dsimp only
  rw [reconcileDiscovery_none conflict]
  rfl

theorem Merges.append (merges : Merges listed entries)
    (absent : entries.find? (·.signature = row.signature) = none) :
    Merges (listed ++ [(program, row)]) (entries ++ [⟨row, [program.id]⟩]) := by
  have notMember : row.signature ∉ entries.map (·.signature) := by
    intro member
    obtain ⟨entry, isEntry, same⟩ := List.mem_map.mp member
    have missed := List.find?_eq_none.mp absent entry isEntry
    simp only [same, decide_true, not_true_eq_false] at missed
  constructor
  · rw [List.map_append, List.nodup_append]
    refine ⟨merges.distinct, by simp, ?_⟩
    rintro signature member other isOther rfl
    rw [List.map_singleton, List.mem_singleton] at isOther
    exact notMember (isOther ▸ member)
  · intro signature
    rw [List.map_append, List.mem_append, merges.signatures]
    simp only [List.map_cons, List.map_nil, List.mem_singleton, List.mem_append]
    constructor
    · rintro (⟨listing, member, same⟩ | rfl)
      · exact ⟨listing, .inl member, same⟩
      · exact ⟨(program, row), .inr rfl, rfl⟩
    · rintro ⟨listing, member | rfl, same⟩
      · exact .inl ⟨listing, member, same⟩
      · exact .inr same.symm
  · intro entry member
    rcases List.mem_append.mp member with old | isNew
    · refine (merges.summary entry old).other ?_
      rintro same
      exact notMember (same ▸ List.mem_map_of_mem old)
    · rw [List.mem_singleton.mp isNew]
      refine summarizes_first fun listing isListed same => notMember ?_
      exact (merges.signatures row.signature).mpr ⟨listing, isListed, same⟩

theorem Merges.update (merges : Merges listed entries)
    (found : entries.find? (·.signature = row.signature) = some previous)
    (agrees : agree previous.toCatchUpSignature row)
    (fresh : ∀ listing ∈ listed, listing.2.signature = row.signature → listing.1.id ≠ program.id) :
    Merges (listed ++ [(program, row)]) (entries.map fun entry =>
      if entry.signature = row.signature then joined previous program row else entry) := by
  have isPrevious : previous ∈ entries := List.mem_of_find?_eq_some found
  have ofPrevious : previous.signature = row.signature := by
    have named := List.find?_some found
    exact of_decide_eq_true named
  have signatures : (entries.map fun entry =>
      if entry.signature = row.signature then joined previous program row else entry).map (·.signature) =
        entries.map (·.signature) := by
    rw [List.map_map]
    refine List.map_congr_left fun entry _ => ?_
    change (if entry.signature = row.signature then joined previous program row else entry).signature = _
    split
    · next same => exact ofPrevious.trans same.symm
    · rfl
  constructor
  · rw [signatures]
    exact merges.distinct
  · intro signature
    rw [signatures, merges.signatures]
    constructor
    · rintro ⟨listing, member, same⟩
      exact ⟨listing, List.mem_append_left _ member, same⟩
    · rintro ⟨listing, member, same⟩
      rcases List.mem_append.mp member with old | isRow
      · exact ⟨listing, old, same⟩
      · rw [List.mem_singleton.mp isRow] at same
        refine (merges.signatures signature).mp ?_
        exact same ▸ ofPrevious ▸ List.mem_map_of_mem isPrevious
  · intro entry member
    obtain ⟨old, isOld, rfl⟩ := List.mem_map.mp member
    split
    · exact (merges.summary previous isPrevious).join ofPrevious.symm agrees fresh
    · next differ => exact (merges.summary old isOld).other (Ne.symm differ)

theorem Merges.conflict (merges : Merges listed entries)
    (found : entries.find? (·.signature = row.signature) = some previous)
    (conflict : ¬ agree previous.toCatchUpSignature row) :
    ¬ Consistent (listed ++ [(program, row)]) := by
  intro consistent
  have summary := merges.summary previous (List.mem_of_find?_eq_some found)
  have ofPrevious : previous.signature = row.signature := by
    have named := List.find?_some found
    exact of_decide_eq_true named
  have here : (program, row) ∈ listed ++ [(program, row)] :=
    List.mem_append_right _ List.mem_cons_self
  obtain ⟨seen, isSeen, same, -⟩ := summary.observed
  obtain ⟨slots, failed, -⟩ := consistent seen (List.mem_append_left _ isSeen) _ here
    (same.trans ofPrevious)
  refine conflict ⟨(summary.slot seen isSeen same).symm.trans slots,
    (summary.failed seen isSeen same).symm.trans failed, ?_⟩
  intro time other isTime isOther
  obtain ⟨timed, isTimed, ofTimed, hasTime⟩ := (summary.blockTime time).mp isTime
  exact (consistent timed (List.mem_append_left _ isTimed) _ here (ofTimed.trans ofPrevious)).2.2 time
    other hasTime isOther

end Row

/-! ## Every row -/

section Fold

variable {scans other : List CatchUpDiscoveryScan}

/-- Every program lists a signature once. -/
def ListedOnce (listed : List Listing) : Prop :=
  (listed.map fun listing => (listing.1.id, listing.2.signature)).Nodup

def mergeListing (entries : List MergedCatchUpDiscovery) (listing : Listing) :
    Except CatchUpSourceError (List MergedCatchUpDiscovery) := mergeRow listing.1 entries listing.2

theorem mergeScan_listings (scans : List CatchUpDiscoveryScan) :
    ∀ entries, scans.foldlM mergeScan entries = (listings scans).foldlM mergeListing entries := by
  induction scans with
  | nil => exact fun _ => rfl
  | cons scan rest ih =>
    intro entries
    have isScan : mergeScan entries scan =
        (scan.rows.map fun row => (scan.program, row)).foldlM mergeListing entries := by
      rw [List.foldlM_map]
      rfl
    rw [List.foldlM_cons, listings, List.flatMap_cons, List.foldlM_append, isScan]
    exact bind_congr fun next => ih next

/-- From what was merged, the remaining rows either all merge or contradict something. -/
theorem foldlM_merges (rest : List Listing) : ∀ {listed : List Listing}
    {entries : List MergedCatchUpDiscovery}, Merges listed entries → ListedOnce (listed ++ rest) →
      (∃ merged, rest.foldlM mergeListing entries = .ok merged ∧ Merges (listed ++ rest) merged) ∨
      (∃ error, rest.foldlM mergeListing entries = .error error) ∧ ¬ Consistent (listed ++ rest) := by
  induction rest with
  | nil =>
    intro listed entries merges _
    exact .inl ⟨entries, rfl, by rwa [List.append_nil]⟩
  | cons listing rest ih =>
    intro listed entries merges once
    have grouped : listed ++ listing :: rest = (listed ++ [listing]) ++ rest := by simp
    have fresh : ∀ old ∈ listed, old.2.signature = listing.2.signature → old.1.id ≠ listing.1.id := by
      intro old isOld same sameId
      rw [ListedOnce, List.map_append, List.nodup_append] at once
      exact once.2.2 _ (List.mem_map_of_mem isOld) _ List.mem_cons_self (Prod.ext sameId same)
    rw [grouped] at once ⊢
    rw [List.foldlM_cons]
    cases found : entries.find? (·.signature = listing.2.signature) with
    | none =>
      have step : mergeListing entries listing = .ok _ := mergeRow_new found
      rw [step]
      exact ih (merges.append found) once
    | some previous =>
      by_cases agrees : agree previous.toCatchUpSignature listing.2
      · have step : mergeListing entries listing = .ok _ := mergeRow_old found agrees
        rw [step]
        exact ih (merges.update found agrees fresh) once
      · have step : mergeListing entries listing = .error _ := mergeRow_conflict found agrees
        rw [step]
        refine .inr ⟨⟨_, rfl⟩, fun consistent => ?_⟩
        exact merges.conflict found agrees
          (consistent.subset (List.subset_append_left (listed ++ [listing]) rest))

theorem merges_nil : Merges [] [] := by
  refine ⟨List.nodup_nil, ?_, nofun⟩
  simp

/-! ## Every order -/

/-- The scans in another order, each with its rows in another order. -/
def Reordered (scans other : List CatchUpDiscoveryScan) : Prop :=
  ∃ shuffled, List.Forall₂ (fun scan copy : CatchUpDiscoveryScan =>
    copy.program = scan.program ∧ copy.rows.Perm scan.rows) scans shuffled ∧ other.Perm shuffled

/-- Distinct programs, each with one row for a signature. -/
structure UniqueScans (scans : List CatchUpDiscoveryScan) : Prop where
  programs : (scans.map (·.program.id)).Nodup
  signatures : ∀ scan ∈ scans, (scan.rows.map (·.signature)).Nodup

theorem Reordered.refl (scans : List CatchUpDiscoveryScan) : Reordered scans scans :=
  ⟨scans, List.forall₂_same.mpr fun _ _ => ⟨rfl, List.Perm.refl _⟩, List.Perm.refl _⟩

theorem Reordered.listings (reordered : Reordered scans other) :
    (DiscoveryMerge.listings other).Perm (DiscoveryMerge.listings scans) := by
  obtain ⟨shuffled, copies, perm⟩ := reordered
  have rows : (DiscoveryMerge.listings shuffled).Perm (DiscoveryMerge.listings scans) := by
    clear perm
    induction copies with
    | nil => exact List.Perm.refl _
    | @cons scan copy _ _ isCopy _ ih =>
      obtain ⟨program, rows⟩ := isCopy
      unfold DiscoveryMerge.listings
      rw [List.flatMap_cons, List.flatMap_cons, program]
      exact (rows.map _).append ih
  exact (perm.flatMap_right _).trans rows

theorem UniqueScans.listedOnce (unique : UniqueScans scans) : ListedOnce (listings scans) := by
  obtain ⟨programs, signatures⟩ := unique
  unfold ListedOnce listings
  induction scans with
  | nil => exact List.nodup_nil
  | cons scan rest ih =>
    obtain ⟨first, others⟩ := List.forall_mem_cons.mp signatures
    rw [List.map_cons, List.nodup_cons] at programs
    rw [List.flatMap_cons, List.map_append, List.nodup_append, List.map_map]
    refine ⟨?_, ih programs.2 others, ?_⟩
    · have pairs : ((scan.rows.map (·.signature)).map fun signature =>
          (scan.program.id, signature)).Nodup := first.map fun _ _ same => congrArg Prod.snd same
      rwa [List.map_map] at pairs
    · rintro pair isFirst other isOther rfl
      obtain ⟨row, -, rfl⟩ := List.mem_map.mp isFirst
      obtain ⟨⟨program, otherRow⟩, isListed, same⟩ := List.mem_map.mp isOther
      obtain ⟨otherScan, isScan, isRow⟩ := List.mem_flatMap.mp isListed
      obtain ⟨_, -, isPair⟩ := List.mem_map.mp isRow
      have sameProgram : otherScan.program.id = scan.program.id :=
        (congrArg (fun listing : Listing => listing.1.id) isPair).trans (congrArg Prod.fst same)
      exact programs.1 (List.mem_map.mpr ⟨otherScan, isScan, sameProgram⟩)

theorem merge_of_merges (merges : Merges listed entries) : (entries.map discoveryKey).Nodup := by
  refine List.Nodup.of_map (fun key => (ofLex (ofLex key).2).1) ?_
  rw [List.map_map]
  have texts := merges.distinct.map units_injective
  rwa [List.map_map] at texts

/-- By slot, then by signature. -/
def SortedBySlot (merged : List MergedCatchUpDiscovery) : Prop :=
  merged.Pairwise fun left right => left.slot < right.slot ∨
    left.slot = right.slot ∧ units left.signature < units right.signature

theorem Merges.sort (merges : Merges listed entries) :
    Merges listed (entries.mergeSort fun left right => discoveryOrder left right ≤ 0) ∧
      SortedBySlot (entries.mergeSort fun left right => discoveryOrder left right ≤ 0) := by
  have perm := List.mergeSort_perm entries fun left right => decide (discoveryOrder left right ≤ 0)
  have distinct := (perm.map (·.signature)).nodup_iff.mpr merges.distinct
  refine ⟨⟨distinct, ?_, fun entry member => merges.summary entry (perm.mem_iff.mp member)⟩, ?_⟩
  · intro signature
    rw [(perm.map (·.signature)).mem_iff]
    exact merges.signatures signature
  · refine (strict_sort orders_discoveries (merge_of_merges merges)).imp₂ ?_ (List.pairwise_map.mp distinct)
    intro left right isLt differ
    simp only [discoveryKey, Prod.Lex.toLex_lt_toLex] at isLt
    rcases isLt with slots | ⟨slots, signatures | ⟨same, -⟩⟩
    · exact .inl slots
    · exact .inr ⟨slots, signatures⟩
    · exact absurd (units_injective same) differ

/-- Entries that describe the same rows are the same up to their order. -/
theorem Merges.sort_eq {others : List Listing} {otherEntries : List MergedCatchUpDiscovery}
    (merges : Merges listed entries) (otherMerges : Merges others otherEntries)
    (same : ∀ listing, listing ∈ listed ↔ listing ∈ others) :
    entries.mergeSort (fun left right => discoveryOrder left right ≤ 0) =
      otherEntries.mergeSort fun left right => discoveryOrder left right ≤ 0 := by
  have moves : ∀ {first second : List Listing} {left right : List MergedCatchUpDiscovery},
      Merges first left → Merges second right → (∀ listing, listing ∈ first ↔ listing ∈ second) →
        ∀ entry ∈ left, entry ∈ right := by
    intro first second left right leftMerges rightMerges members entry isEntry
    have listed := (leftMerges.signatures entry.signature).mp (List.mem_map_of_mem isEntry)
    simp only [members] at listed
    obtain ⟨twin, isTwin, signature⟩ := List.mem_map.mp
      ((rightMerges.signatures entry.signature).mpr listed)
    rw [(leftMerges.summary entry isEntry).unique (rightMerges.summary twin isTwin) members
      signature.symm]
    exact isTwin
  exact sort_congr orders_discoveries (merge_of_merges merges) (merge_of_merges otherMerges)
    fun entry => ⟨moves merges otherMerges same entry,
      moves otherMerges merges (fun listing => (same listing).symm) entry⟩

/-- Whatever the order of the scans and of their rows, the merge fails because rows contradict each
other, or it returns the same list: one entry for each listed signature, sorted, that says what its rows
say together. -/
theorem mergeCatchUpDiscoveries_orderFree (unique : UniqueScans scans) :
    (¬ Consistent (listings scans) ∧
      ∀ other, Reordered scans other → ∃ error, mergeCatchUpDiscoveries other = .error error) ∨
    ∃ merged, (∀ other, Reordered scans other → mergeCatchUpDiscoveries other = .ok merged) ∧
      Merges (listings scans) merged ∧ SortedBySlot merged := by
  have outcome : ∀ other, Reordered scans other →
      (∃ entries, other.foldlM mergeScan [] = .ok entries ∧ Merges (listings other) entries) ∨
        (∃ error, other.foldlM mergeScan [] = .error error) ∧ ¬ Consistent (listings scans) := by
    intro other reordered
    have perm := reordered.listings
    have once : ListedOnce (listings other) := (perm.map _).nodup_iff.mpr unique.listedOnce
    rw [mergeScan_listings]
    rcases foldlM_merges (listings other) merges_nil once with merged | ⟨error, inconsistent⟩
    · exact .inl merged
    · exact .inr ⟨error, fun consistent => inconsistent (consistent.subset perm.subset)⟩
  rcases outcome scans (.refl scans) with ⟨entries, merged, merges⟩ | ⟨-, inconsistent⟩
  · obtain ⟨sortedMerges, sorted⟩ := merges.sort
    refine .inr ⟨_, fun other reordered => ?_, sortedMerges, sorted⟩
    have perm := reordered.listings
    rcases outcome other reordered with ⟨otherEntries, otherMerged, otherMerges⟩ | ⟨-, inconsistent⟩
    · unfold mergeCatchUpDiscoveries
      rw [otherMerged, ← otherMerges.sort_eq merges fun listing => perm.mem_iff]
      rfl
    · exact absurd merges.consistent inconsistent
  · refine .inl ⟨inconsistent, fun other reordered => ?_⟩
    have perm := reordered.listings
    rcases outcome other reordered with ⟨otherEntries, -, otherMerges⟩ | ⟨⟨error, failed⟩, -⟩
    · exact absurd (otherMerges.consistent.subset perm.symm.subset) inconsistent
    · refine ⟨error, ?_⟩
      unfold mergeCatchUpDiscoveries
      rw [failed]
      rfl

end Fold

/-! ### Two scans that share a signature -/

def sampleRow (status : CatchUpConfirmationStatus) (blockTimeMs : Option Int) : CatchUpSignature :=
  ⟨"signature", 7, status, blockTimeMs, false⟩

def sampleScans : List CatchUpDiscoveryScan :=
  [⟨⟨.market, "market"⟩, [sampleRow .confirmed none]⟩,
    ⟨⟨.launchpad, "launchpad"⟩, [sampleRow .finalized (some 5)]⟩]

theorem sampleScans_unique : UniqueScans sampleScans := ⟨by decide, by decide⟩

theorem mergeCatchUpDiscoveries_orderFree_sample :
    ∃ merged, (∀ other, Reordered sampleScans other → mergeCatchUpDiscoveries other = .ok merged) ∧
      Merges (listings sampleScans) merged ∧ SortedBySlot merged := by
  refine (mergeCatchUpDiscoveries_orderFree sampleScans_unique).resolve_left fun ⟨_, fails⟩ => ?_
  obtain ⟨error, failed⟩ := fails sampleScans (.refl sampleScans)
  have merged : (mergeCatchUpDiscoveries sampleScans).isOk = true := by decide +kernel
  rw [failed] at merged
  cases merged

end SolTokenListener.Guarantees.DiscoveryMerge
