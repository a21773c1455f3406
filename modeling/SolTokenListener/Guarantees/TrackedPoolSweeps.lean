import SolTokenListener.Source.TrackedPoolPoller

/-!
# What a sweep of a tracked pool may leave out

The rows of a sweep are neighbours in the history: each page continues where the rows end, and the history
only grows at its head. A confirmed probe puts the checkpoint right behind the last row, so the rows are
everything after it, and all of them are enqueued before the store begins. A sweep that runs out of pages
stores all the same and loses what is behind its last row. It is reported as `GAP_SKIPPED` when its store
returns in time. When the deadline expires or the call fails after the store took effect, the report is
`FAILED`: the checkpoint has moved over a gap that nobody is told of.
-/

namespace SolTokenListener.Guarantees.TrackedPoolSweeps

open Lib.EventRun
open Source.TrackedPoolPoller Source.TrackedPoolPoller.Poller

variable {σ : Type}

/-! ## What is promised -/

/-- The history after the checkpoint of a sweep, up to the one it stores. -/
def covered [DecidableEq σ] (history : List (CatchUpSignature σ)) (stored : Stored σ) : List (CatchUpSignature σ) :=
  (history.dropWhile (·.signature ≠ stored.newest.signature)).takeWhile
    (·.signature ≠ stored.checkpoint.signature)

/-- Successful, and not enqueued when the store began. -/
def Missing (stored : Stored σ) (entry : CatchUpSignature σ) : Prop :=
  entry.transactionFailed = false ∧ entry.signature ∉ stored.inbox

/-- Further back in the history than the last row that the sweep read. -/
def BehindRows (history : List (CatchUpSignature σ)) (stored : Stored σ) (entry : CatchUpSignature σ) : Prop :=
  ∃ newer oldest older, stored.rows.getLast? = some oldest ∧ history = newer ++ oldest :: older ∧ entry ∈ older

structure NoSilentGap [DecidableEq σ] (history : List (CatchUpSignature σ)) (sweep : Sweep σ) : Prop where
  reported : ∀ stored outcome, sweep.stored = some stored → stored.applied = true → sweep.report = some outcome →
    ∀ entry ∈ covered history stored, Missing stored entry →
      outcome = .GAP_SKIPPED ∧ BehindRows history stored entry
  onTime : ∀ stored, sweep.stored = some stored → stored.expired = false

/-- The store of the sweep took effect over an unconfirmed boundary, the sweep is reported as failed, and
something after its checkpoint is missing. -/
def HidesGap [DecidableEq σ] (history : List (CatchUpSignature σ)) (sweep : Sweep σ) : Prop :=
  ∃ stored, sweep.stored = some stored ∧ stored.applied = true ∧ stored.confirmed = false ∧
    sweep.report = some .FAILED ∧ ∃ entry ∈ covered history stored, Missing stored entry

/-- Past an unconfirmed boundary, the deadline does not expire during the store, and the call does not fail after
it took effect. -/
def StoresSettle (poller : Poller σ) : PollEvent σ → Prop
  | .timeout index => ∀ sweep stored, poller.sweeps[index]? = some sweep → sweep.awaiting = .store stored →
      stored.confirmed = true
  | .settle index .rejected => ∀ sweep stored, poller.sweeps[index]? = some sweep →
      sweep.awaiting = .store stored → stored.applied = true → stored.confirmed = true
  | _ => True

/-! ## The invariant -/

/-- The rows are neighbours in the history, and a confirmed boundary is right behind them. -/
def Placed (history : List (CatchUpSignature σ)) (checkpoint : PoolCheckpoint σ) (rows : List (CatchUpSignature σ))
    (confirmed : Bool) : Prop :=
  ∃ newer older, history = newer ++ (rows ++ older) ∧
    (confirmed = true → ∃ boundary rest, older = boundary :: rest ∧ boundary.signature = checkpoint.signature)

def Enqueued (inbox : List σ) (rows : List (CatchUpSignature σ)) : Prop :=
  ∀ row ∈ rows, row.transactionFailed = false → row.signature ∈ inbox

structure StoredSound (history : List (CatchUpSignature σ)) (stored : Stored σ) : Prop where
  placed : Placed history stored.checkpoint stored.rows stored.confirmed
  newest : stored.rows.head? = some stored.newest
  enqueued : Enqueued stored.inbox stored.rows
  onTime : stored.expired = false

def AwaitSound (history : List (CatchUpSignature σ)) (inbox : List σ) : Await σ → Prop
  | .readCheckpoint => True
  | .seedCheckpoint _ => True
  | .page checkpoint rows _ => Placed history checkpoint rows false
  | .probe checkpoint rows _ => Placed history checkpoint rows false
  | .enqueue checkpoint rows confirmed entry rest =>
    Placed history checkpoint rows confirmed ∧ ∃ done, rows = done ++ entry :: rest ∧ Enqueued inbox done
  | .store stored => StoredSound history stored
  | .settled result stored => ∀ found, stored = some found →
      StoredSound history found ∧ ∀ outcome, result = some outcome → outcome = outcomeOf found.confirmed

structure PollerSound (poller : Poller σ) : Prop where
  distinct : (poller.history.map (·.signature)).Nodup
  sweeps : ∀ sweep ∈ poller.sweeps, AwaitSound poller.history poller.inbox sweep.awaiting

variable {history : List (CatchUpSignature σ)} {inbox : List σ}

section Growth

variable {entries : List (CatchUpSignature σ)} {more : List σ}

theorem Placed.grow {checkpoint : PoolCheckpoint σ} {rows : List (CatchUpSignature σ)} {confirmed : Bool}
    (placed : Placed history checkpoint rows confirmed) : Placed (entries ++ history) checkpoint rows confirmed := by
  obtain ⟨newer, older, rfl, boundary⟩ := placed
  exact ⟨entries ++ newer, older, (List.append_assoc ..).symm, boundary⟩

theorem StoredSound.grow {stored : Stored σ} (sound : StoredSound history stored) :
    StoredSound (entries ++ history) stored :=
  ⟨sound.placed.grow, sound.newest, sound.enqueued, sound.onTime⟩

theorem AwaitSound.grow {awaiting : Await σ} (sound : AwaitSound history inbox awaiting) (kept : inbox ⊆ more) :
    AwaitSound (entries ++ history) more awaiting := by
  cases awaiting with
  | readCheckpoint => trivial
  | seedCheckpoint => trivial
  | page => exact Placed.grow sound
  | probe => exact Placed.grow sound
  | enqueue =>
    obtain ⟨placed, done, split, enqueued⟩ := sound
    exact ⟨placed.grow, done, split, fun row isRow successful => kept (enqueued row isRow successful)⟩
  | store => exact StoredSound.grow sound
  | settled result stored =>
    intro found isFound
    obtain ⟨isSound, outcome⟩ := sound found isFound
    exact ⟨isSound.grow, outcome⟩

end Growth

/-! ## Reading the history -/

variable {entry : CatchUpSignature σ} {checkpoint : PoolCheckpoint σ}

section Reading

variable [DecidableEq σ]

theorem dropWhile_at (distinct : (history.map (·.signature)).Nodup)
    {newer older : List (CatchUpSignature σ)} (split : history = newer ++ entry :: older) :
    history.dropWhile (·.signature ≠ entry.signature) = entry :: older := by
  subst split
  rw [List.map_append, List.map_cons, List.nodup_append] at distinct
  rw [List.dropWhile_append_of_pos, List.dropWhile_cons_of_neg]
  · simp
  · intro other isNewer
    have different := distinct.2.2 other.signature (List.mem_map_of_mem isNewer) entry.signature List.mem_cons_self
    simpa using different

/-- A request behind the rows reads what is behind them. -/
theorem read_behind (distinct : (history.map (·.signature)).Nodup)
    {rows : List (CatchUpSignature σ)} (placed : Placed history checkpoint rows false) (limit : Nat)
    (bound : Option σ) :
    ∃ newer older, history = newer ++ (rows ++ older) ∧
      getSignaturesForAddress history (rows.getLast?.map (·.signature)) bound limit =
        (bound.elim older fun signature => older.takeWhile (·.signature ≠ signature)).take limit := by
  rcases List.eq_nil_or_concat rows with rfl | ⟨front, last, rfl⟩
  · exact ⟨[], history, rfl, rfl⟩
  · obtain ⟨newer, older, split, -⟩ := placed
    refine ⟨newer, older, split, ?_⟩
    have atLast := dropWhile_at distinct (show history = (newer ++ front) ++ last :: older by simp [split])
    rw [getSignaturesForAddress, List.concat_eq_append, List.getLast?_concat, Option.map_some, Option.elim_some, atLast,
      List.tail_cons]

theorem appendPage_eq {rows page result : List (CatchUpSignature σ)}
    (appended : appendPage checkpoint rows page = some result) : result = rows ++ page := by
  induction page generalizing rows with
  | nil =>
    rw [appendPage, Option.some.injEq] at appended
    rw [← appended, List.append_nil]
  | cons entry page ih =>
    rw [appendPage] at appended
    split at appended
    · cases appended
    · rw [ih appended, List.append_assoc, List.singleton_append]

theorem Placed.page (distinct : (history.map (·.signature)).Nodup)
    {rows result : List (CatchUpSignature σ)} (placed : Placed history checkpoint rows false)
    (appended : appendPage checkpoint rows (getSignaturesForAddress history (rows.getLast?.map (·.signature))
      (some checkpoint.signature) PAGE_SIZE) = some result) : Placed history checkpoint result false := by
  obtain ⟨newer, older, split, read⟩ := read_behind distinct placed PAGE_SIZE (some checkpoint.signature)
  have isPrefix := (List.take_prefix PAGE_SIZE _).trans
    (@List.takeWhile_prefix _ older fun entry => decide (entry.signature ≠ checkpoint.signature))
  obtain ⟨rest, isOlder⟩ := isPrefix
  rw [appendPage_eq appended, read]
  refine ⟨newer, rest, ?_, nofun⟩
  rw [split, List.append_assoc, Option.elim_some, isOlder]

theorem Placed.probe (distinct : (history.map (·.signature)).Nodup)
    {rows : List (CatchUpSignature σ)} (placed : Placed history checkpoint rows false) :
    Placed history checkpoint rows ((getSignaturesForAddress history (rows.getLast?.map (·.signature)) none
      1).head?.any (isBoundary checkpoint)) := by
  obtain ⟨newer, older, split, read⟩ := read_behind distinct placed 1 none
  refine ⟨newer, older, split, fun confirmed => ?_⟩
  rw [read, Option.elim_none] at confirmed
  cases older with
  | nil => cases confirmed
  | cons boundary rest =>
    refine ⟨boundary, rest, rfl, ?_⟩
    simp only [List.take_succ_cons, List.head?_cons, Option.any_some, isBoundary, decide_eq_true_eq] at confirmed
    exact confirmed.1

end Reading

/-! ## Steps of a sweep -/

variable {expired : Bool} {rest : List (CatchUpSignature σ)} {poller : Poller σ}
variable {awaiting : Await σ} {sweep : Sweep σ} {confirmed : Bool}

section Steps

variable {rows : List (CatchUpSignature σ)}

theorem nextPage_sound {reachedEnd : Bool} {pageCount : Nat}
    (placed : Placed history checkpoint rows false) :
    AwaitSound history inbox (nextPage expired checkpoint rows pageCount reachedEnd) := by
  unfold nextPage
  split
  · exact nofun
  split
  · exact placed
  · exact placed

theorem placed_nil (history : List (CatchUpSignature σ)) (checkpoint : PoolCheckpoint σ) :
    Placed history checkpoint [] false := ⟨[], history, rfl, nofun⟩

theorem enqueueRows_sound (placed : Placed history checkpoint rows confirmed)
    (progress : ∃ done, rows = done ++ rest ∧ Enqueued inbox done) :
    AwaitSound history inbox (enqueueRows expired inbox checkpoint rows confirmed rest) := by
  induction rest with
  | nil =>
    obtain ⟨done, split, enqueued⟩ := progress
    rw [List.append_nil] at split
    subst split
    unfold enqueueRows
    split
    · exact nofun
    next newest isNewest =>
    split
    · exact nofun
    next inTime => exact ⟨placed, isNewest, enqueued, Bool.eq_false_iff.mpr inTime⟩
  | cons entry rest ih =>
    obtain ⟨done, split, enqueued⟩ := progress
    unfold enqueueRows
    split
    · exact nofun
    split
    · next failed =>
        refine ih ⟨done ++ [entry], by simp [split], fun row isRow successful => ?_⟩
        rcases List.mem_append.mp isRow with earlier | last
        · exact enqueued row earlier successful
        · rw [List.mem_singleton.mp last, failed] at successful
          cases successful
    · exact ⟨placed, done, split, enqueued⟩

theorem perform_sound (sound : AwaitSound poller.history poller.inbox awaiting) :
    (poller.perform awaiting).1.history = poller.history ∧ (poller.perform awaiting).1.sweeps = poller.sweeps ∧
      poller.inbox ⊆ (poller.perform awaiting).1.inbox ∧
      AwaitSound poller.history (poller.perform awaiting).1.inbox (poller.perform awaiting).2 := by
  cases awaiting with
  | enqueue checkpoint rows confirmed entry rest =>
    have kept : poller.inbox ⊆ entry.signature :: poller.inbox := List.subset_cons_self _ _
    exact ⟨rfl, rfl, kept, @AwaitSound.grow _ _ _ [] _ _ sound kept⟩
  | store stored =>
    unfold Poller.perform
    dsimp only
    split
    · exact ⟨rfl, rfl, List.Subset.refl _, sound⟩
    · have isSound : StoredSound poller.history stored := sound
      exact ⟨rfl, rfl, List.Subset.refl _, isSound.placed, isSound.newest, isSound.enqueued, isSound.onTime⟩
  | _ => exact ⟨rfl, rfl, List.Subset.refl _, sound⟩

/-- A performed enqueue is in the inbox. -/
theorem perform_enqueues
    (isEnqueue : (poller.perform awaiting).2 = .enqueue checkpoint rows confirmed entry rest) :
    entry.signature ∈ (poller.perform awaiting).1.inbox := by
  cases awaiting with
  | enqueue =>
    cases isEnqueue
    exact List.mem_cons_self
  | store stored =>
    unfold Poller.perform at isEnqueue
    dsimp only at isEnqueue
    split at isEnqueue <;> cases isEnqueue
  | _ => cases isEnqueue

theorem reject_sound (sound : AwaitSound history inbox awaiting) :
    AwaitSound history inbox (Poller.reject awaiting) := by
  cases awaiting with
  | store stored =>
    rintro _ ⟨⟩
    exact ⟨sound, nofun⟩
  | settled result stored => exact sound
  | _ => exact nofun

theorem setSweep_sound (sound : PollerSound poller) {index : Nat}
    (isSound : AwaitSound poller.history poller.inbox sweep.awaiting) : PollerSound (poller.setSweep index sweep) := by
  refine ⟨sound.distinct, fun other member => ?_⟩
  rcases List.mem_or_eq_of_mem_set member with earlier | rfl
  · exact sound.sweeps other earlier
  · exact isSound

theorem perform_poller_sound (sound : PollerSound poller)
    (isSound : AwaitSound poller.history poller.inbox awaiting) : PollerSound (poller.perform awaiting).1 := by
  obtain ⟨history, sweeps, kept, -⟩ := perform_sound isSound
  refine ⟨by rw [history]; exact sound.distinct, fun sweep member => ?_⟩
  rw [sweeps] at member
  rw [history]
  exact @AwaitSound.grow _ _ _ [] _ _ (sound.sweeps sweep member) kept

variable [DecidableEq σ]

theorem resume_sound (distinct : (poller.history.map (·.signature)).Nodup) (expired : Bool)
    (sound : AwaitSound poller.history poller.inbox awaiting)
    (performed : ∀ checkpoint rows confirmed entry rest, awaiting = .enqueue checkpoint rows confirmed entry rest →
      entry.signature ∈ poller.inbox) :
    AwaitSound poller.history poller.inbox (poller.resume expired awaiting) := by
  cases awaiting with
  | readCheckpoint =>
    unfold Poller.resume
    dsimp only
    split
    · exact nextPage_sound (placed_nil _ _)
    · trivial
  | seedCheckpoint checkpoint => exact nextPage_sound (placed_nil _ _)
  | page checkpoint rows pageCount =>
    unfold Poller.resume
    dsimp only
    split
    · exact nofun
    · next result appended => exact nextPage_sound (Placed.page distinct sound appended)
  | probe checkpoint rows reachedEnd =>
    unfold Poller.resume
    dsimp only
    split
    · exact nofun
    · exact enqueueRows_sound (Placed.probe distinct sound) ⟨[], rfl, nofun⟩
  | enqueue checkpoint rows confirmed entry rest =>
    obtain ⟨placed, done, split, enqueued⟩ := sound
    refine enqueueRows_sound placed ⟨done ++ [entry], by simp [split], fun row isRow successful => ?_⟩
    rcases List.mem_append.mp isRow with earlier | last
    · exact enqueued row earlier successful
    · rw [List.mem_singleton.mp last]
      exact performed _ _ _ _ _ rfl
  | store stored =>
    rintro _ ⟨⟩
    refine ⟨sound, fun outcome isOutcome => ?_⟩
    split at isOutcome
    · exact (Option.some.inj isOutcome).symm
    · cases isOutcome
  | settled result stored => exact sound

end Steps

/-! ## Reports -/

section Reports

variable {stored : Stored σ}

theorem stored_sound (sound : AwaitSound history inbox sweep.awaiting) (isStored : sweep.stored = some stored) :
    StoredSound history stored := by
  unfold Sweep.stored at isStored
  split at isStored
  · next found isStore =>
      rw [isStore] at sound
      cases isStored
      exact sound
  · next result found isSettled =>
      rw [isSettled] at sound
      exact (sound stored isStored).1
  · cases isStored

/-- A sweep that began a store is reported as failed or by what the probe had found. -/
theorem report_of_stored (sound : AwaitSound history inbox sweep.awaiting) (isStored : sweep.stored = some stored)
    {outcome : TrackedPoolOutcome} (isReport : sweep.report = some outcome) :
    outcome = .FAILED ∨ outcome = outcomeOf stored.confirmed := by
  unfold Sweep.report at isReport
  split at isReport
  · exact .inl (Option.some.inj isReport).symm
  split at isReport
  · next result found isSettled =>
      rw [isSettled] at sound
      have isFound : found = some stored := by
        unfold Sweep.stored at isStored
        rwa [isSettled] at isStored
      cases result with
      | none => exact .inl (Option.some.inj isReport).symm
      | some result => exact .inr ((Option.some.inj isReport).symm.trans ((sound stored isFound).2 result rfl))
  · cases isReport

end Reports

/-! ## What is reported -/

section Reporting

/-- A sweep that stores past an unconfirmed boundary has time left, and its store returned when it settled. -/
def Reported (expired : Bool) : Await σ → Prop
  | .store stored => expired = true → stored.confirmed = true
  | .settled result (some stored) =>
    stored.applied = true → stored.confirmed = false → expired = false ∧ result ≠ none
  | _ => True

theorem reported_enqueueRows {rows : List (CatchUpSignature σ)} (rest : List (CatchUpSignature σ)) :
    Reported expired (enqueueRows expired inbox checkpoint rows confirmed rest) := by
  induction rest with
  | nil =>
    unfold enqueueRows
    split
    · trivial
    · split
      · trivial
      · next onTime =>
          intro late
          exact absurd late onTime
  | cons entry rest skipped =>
    unfold enqueueRows
    split
    · trivial
    · split
      · exact skipped
      · trivial

theorem reported_nextPage {rows : List (CatchUpSignature σ)} {pageCount : Nat} {reachedEnd : Bool} :
    Reported expired (nextPage expired checkpoint rows pageCount reachedEnd) := by
  unfold nextPage
  split
  · trivial
  · split <;> trivial

theorem reported_perform (reported : Reported expired awaiting) :
    Reported expired (poller.perform awaiting).2 := by
  cases awaiting with
  | store stored =>
    unfold Poller.perform
    dsimp only
    split
    · exact reported
    · exact reported
  | _ => exact reported

theorem reported_reject (reported : Reported expired awaiting)
    (confirmed : ∀ stored, awaiting = .store stored → stored.applied = true → stored.confirmed = true) :
    Reported expired (Poller.reject awaiting) := by
  cases awaiting with
  | store stored =>
    intro applied unconfirmed
    exact absurd (confirmed stored rfl applied) (by rw [unconfirmed]; exact Bool.false_ne_true)
  | settled => exact reported
  | _ => trivial

theorem setSweep_reported (reported : ∀ other ∈ poller.sweeps, Reported other.expired other.awaiting) {index : Nat}
    (isReported : Reported sweep.expired sweep.awaiting) :
    ∀ other ∈ (poller.setSweep index sweep).sweeps, Reported other.expired other.awaiting := by
  intro other member
  rcases List.mem_or_eq_of_mem_set member with earlier | rfl
  · exact reported other earlier
  · exact isReported

end Reporting

/-! ## Runs -/

section Runs

variable [DecidableEq σ]

theorem step_sound (sound : PollerSound poller) (event : PollEvent σ) : PollerSound (step poller event) := by
  cases event with
  | grow entries =>
    dsimp only [step]
    split
    · next distinct => exact ⟨distinct, fun sweep member => (sound.sweeps sweep member).grow (List.Subset.refl _)⟩
    · exact sound
  | start =>
    refine ⟨sound.distinct, fun sweep member => ?_⟩
    rcases List.mem_append.mp member with earlier | last
    · exact sound.sweeps sweep earlier
    · rw [List.mem_singleton.mp last]
      trivial
  | perform index =>
    dsimp only [step]
    split
    · exact sound
    next sweep isSweep =>
    have isSound := sound.sweeps sweep (List.mem_of_getElem? isSweep)
    obtain ⟨history, -, -, after⟩ := perform_sound isSound
    exact setSweep_sound (perform_poller_sound sound isSound) (by rw [history]; exact after)
  | settle index reply =>
    cases reply with
    | resolved =>
      dsimp only [step]
      split
      · exact sound
      next sweep isSweep =>
      have isSound := sound.sweeps sweep (List.mem_of_getElem? isSweep)
      have performed := perform_poller_sound sound isSound
      obtain ⟨history, -, -, after⟩ := perform_sound isSound
      refine setSweep_sound performed (resume_sound performed.distinct _ (by rw [history]; exact after) ?_)
      intro checkpoint rows confirmed entry rest isEnqueue
      exact perform_enqueues isEnqueue
    | rejected =>
      dsimp only [step]
      split
      · exact sound
      next sweep isSweep =>
      exact setSweep_sound sound (reject_sound (sound.sweeps sweep (List.mem_of_getElem? isSweep)))
  | timeout index =>
    dsimp only [step]
    split
    · exact sound
    next sweep isSweep =>
    split
    · exact sound
    · exact setSweep_sound sound (sound.sweeps sweep (List.mem_of_getElem? isSweep))

theorem run_sound (activation : PoolCheckpoint σ) (checkpoint : Option (PoolCheckpoint σ))
    (events : List (PollEvent σ)) : PollerSound (run step (initial activation checkpoint) events) := by
  have first : PollerSound (initial activation checkpoint) := ⟨List.nodup_nil, nofun⟩
  exact @run_invariant _ _ step PollerSound (fun _ event sound => step_sound sound event) _ first events

variable {stored : Stored σ}

section Distinct

variable (distinct : (history.map (·.signature)).Nodup)

include distinct

/-- From the stored row on, the history is the rows and what is behind them. -/
theorem dropWhile_newest (newest : stored.rows.head? = some stored.newest)
    {newer older : List (CatchUpSignature σ)} (split : history = newer ++ (stored.rows ++ older)) :
    history.dropWhile (·.signature ≠ stored.newest.signature) = stored.rows ++ older := by
  obtain ⟨more, isRows⟩ := List.head?_eq_some_iff.mp newest
  rw [isRows, List.cons_append]
  exact dropWhile_at distinct (by rw [split, isRows, List.cons_append])

theorem covered_of_confirmed (sound : StoredSound history stored)
    (confirmed : stored.confirmed = true) : covered history stored = stored.rows := by
  obtain ⟨newer, older, split, boundary⟩ := sound.placed
  obtain ⟨found, rest, rfl, same⟩ := boundary confirmed
  have others : ∀ row ∈ stored.rows, row.signature ≠ stored.checkpoint.signature := by
    intro row isRow
    rw [split, List.map_append, List.map_append, List.map_cons] at distinct
    have inner := (List.nodup_append.mp distinct).2.1
    exact same ▸ (List.nodup_append.mp inner).2.2 row.signature (List.mem_map_of_mem isRow) found.signature
      List.mem_cons_self
  rw [covered, dropWhile_newest distinct sound.newest split, List.takeWhile_append_of_pos,
    List.takeWhile_cons_of_neg, List.append_nil]
  · simp [same]
  · simpa using others

theorem behindRows_of_covered (sound : StoredSound history stored) (isCovered : entry ∈ covered history stored)
    (missing : Missing stored entry) :
    BehindRows history stored entry := by
  obtain ⟨newer, older, split, -⟩ := sound.placed
  have inside := (List.takeWhile_prefix _).subset isCovered
  rw [dropWhile_newest distinct sound.newest split] at inside
  rcases List.mem_append.mp inside with isRow | isOlder
  · exact absurd (sound.enqueued entry isRow missing.1) missing.2
  · rcases List.eq_nil_or_concat stored.rows with isEmpty | ⟨front, last, isRows⟩
    · have newest := sound.newest
      rw [isEmpty] at newest
      cases newest
    · refine ⟨newer ++ front, last, older, ?_, ?_, isOlder⟩
      · rw [isRows, List.concat_eq_append, List.getLast?_concat]
      · simp [split, isRows]

theorem noSilentGap_iff (sound : AwaitSound history inbox sweep.awaiting) : NoSilentGap history sweep ↔ ¬ HidesGap history sweep := by
  constructor
  · rintro kept ⟨stored, isStored, applied, -, failed, entry, isCovered, missing⟩
    cases (kept.reported stored .FAILED isStored applied failed entry isCovered missing).1
  · intro shown
    refine ⟨fun stored outcome isStored applied isReport entry isCovered missing => ?_,
      fun stored isStored => (stored_sound sound isStored).onTime⟩
    have isSound := stored_sound sound isStored
    cases confirmed : stored.confirmed with
    | true =>
      rw [covered_of_confirmed distinct isSound confirmed] at isCovered
      exact absurd (isSound.enqueued entry isCovered missing.1) missing.2
    | false =>
      refine ⟨?_, behindRows_of_covered distinct isSound isCovered missing⟩
      rcases report_of_stored sound isStored isReport with rfl | rfl
      · exact absurd ⟨stored, isStored, applied, confirmed, isReport, entry, isCovered, missing⟩ shown
      · rw [confirmed]
        rfl

end Distinct

theorem reported_resume (reported : Reported expired awaiting) :
    Reported expired (poller.resume expired awaiting) := by
  cases awaiting with
  | readCheckpoint =>
    unfold Poller.resume
    dsimp only
    split
    · exact reported_nextPage
    · trivial
  | seedCheckpoint => exact reported_nextPage
  | page =>
    unfold Poller.resume
    dsimp only
    split
    · trivial
    · exact reported_nextPage
  | probe =>
    unfold Poller.resume
    dsimp only
    split
    · trivial
    · exact reported_enqueueRows _
  | enqueue => exact reported_enqueueRows _
  | store stored =>
    intro applied unconfirmed
    refine ⟨?_, by rw [if_pos applied]; exact Option.some_ne_none _⟩
    cases expired with
    | false => rfl
    | true => exact absurd (reported rfl) (by rw [unconfirmed]; exact Bool.false_ne_true)
  | settled => exact reported

theorem step_reported (sound : PollerSound poller)
    (reported : ∀ sweep ∈ poller.sweeps, Reported sweep.expired sweep.awaiting) {event : PollEvent σ}
    (settles : StoresSettle poller event) :
    ∀ sweep ∈ (step poller event).sweeps, Reported sweep.expired sweep.awaiting := by
  have unchanged {awaiting : Await σ} (isSound : AwaitSound poller.history poller.inbox awaiting) :
      ∀ other ∈ (poller.perform awaiting).1.sweeps, Reported other.expired other.awaiting := by
    rw [(perform_sound isSound).2.1]
    exact reported
  cases event with
  | grow entries =>
    dsimp only [step]
    split <;> exact reported
  | start =>
    intro sweep member
    rcases List.mem_append.mp member with earlier | last
    · exact reported sweep earlier
    · rw [List.mem_singleton.mp last]
      trivial
  | perform index =>
    dsimp only [step]
    split
    · exact reported
    next sweep isSweep =>
    have member := List.mem_of_getElem? isSweep
    exact setSweep_reported (unchanged (sound.sweeps sweep member)) (reported_perform (reported sweep member))
  | settle index reply =>
    cases reply with
    | resolved =>
      dsimp only [step]
      split
      · exact reported
      next sweep isSweep =>
      have member := List.mem_of_getElem? isSweep
      exact setSweep_reported (unchanged (sound.sweeps sweep member))
        (reported_resume (reported_perform (reported sweep member)))
    | rejected =>
      dsimp only [step]
      split
      · exact reported
      next sweep isSweep =>
      exact setSweep_reported reported (reported_reject (reported sweep (List.mem_of_getElem? isSweep))
        fun stored => settles sweep stored isSweep)
  | timeout index =>
    dsimp only [step]
    split
    · exact reported
    next sweep isSweep =>
    split
    · exact reported
    next pending =>
    refine setSweep_reported reported ?_
    have isReported := reported sweep (List.mem_of_getElem? isSweep)
    cases isAwaiting : sweep.awaiting with
    | store stored => exact fun _ => settles sweep stored isSweep isAwaiting
    | settled result stored =>
      rw [isAwaiting] at pending
      exact absurd rfl pending
    | _ => trivial

theorem run_reported (events : List (PollEvent σ)) (sound : PollerSound poller)
    (reported : ∀ sweep ∈ poller.sweeps, Reported sweep.expired sweep.awaiting)
    (settles : ∀ before event after, events = before ++ event :: after →
      StoresSettle (run step poller before) event) :
    ∀ sweep ∈ (run step poller events).sweeps, Reported sweep.expired sweep.awaiting := by
  induction events generalizing poller with
  | nil => exact reported
  | cons event events later =>
    refine later (step_sound sound event) (step_reported sound reported (settles [] event events rfl)) ?_
    rintro before next after rfl
    exact settles (event :: before) next after rfl

theorem not_hidesGap_of_reported (sound : AwaitSound history inbox sweep.awaiting)
    (reported : Reported sweep.expired sweep.awaiting) : ¬ HidesGap history sweep := by
  rintro ⟨stored, isStored, applied, unconfirmed, failed, -⟩
  obtain ⟨awaiting, expired⟩ := sweep
  cases awaiting with
  | store found =>
    obtain rfl := Option.some.inj isStored
    cases expired with
    | false => cases failed
    | true => exact absurd (reported rfl) (by rw [unconfirmed]; exact Bool.false_ne_true)
  | settled result found =>
    obtain rfl : found = some stored := isStored
    obtain ⟨rfl, returned⟩ := reported applied unconfirmed
    obtain ⟨outcome, rfl⟩ := Option.ne_none_iff_exists'.mp returned
    -- The store returned in time, so the report is its outcome.
    have isOutcome := (sound stored rfl).2 outcome rfl
    rw [unconfirmed] at isOutcome
    cases isOutcome
    cases failed
  | _ => cases isStored

/-- However sweeps, their deadlines and the growth of the history interleave: while no deadline expires and no
applied store fails past an unconfirmed boundary, no sweep leaves a silent gap or begins a store after its
deadline. -/
theorem sweeps_leave_no_silent_gap (activation : PoolCheckpoint σ) (checkpoint : Option (PoolCheckpoint σ))
    (events : List (PollEvent σ))
    (settles : ∀ before event after, events = before ++ event :: after →
      StoresSettle (run step (initial activation checkpoint) before) event) :
    ∀ sweep ∈ (run step (initial activation checkpoint) events).sweeps,
      NoSilentGap (run step (initial activation checkpoint) events).history sweep := by
  have sound := run_sound activation checkpoint events
  have reported := run_reported events (run_sound activation checkpoint [])
    (fun _ member => absurd member List.not_mem_nil) settles
  intro sweep member
  exact (noSilentGap_iff sound.distinct (sound.sweeps sweep member)).mpr
    (not_hidesGap_of_reported (sound.sweeps sweep member) (reported sweep member))

end Runs

/-! ## A store that returns late

Five full pages of failed transactions, then a successful one, then the checkpoint. The deadline expires while
the store is pending, or the store returns in time.
-/

variable {count : Nat}

section LateStore

def failedRow (index : Nat) : CatchUpSignature Nat := ⟨index, 0, .finalized, true⟩

@[irreducible] def failedRows (count : Nat) : List (CatchUpSignature Nat) := (List.range count).map failedRow

def lostRow : CatchUpSignature Nat := ⟨5000, 0, .finalized, false⟩

def lastCheckpoint : PoolCheckpoint Nat := ⟨0, 5001⟩

def checkpointRow : CatchUpSignature Nat := ⟨5001, 0, .finalized, false⟩

def busyHistory : List (CatchUpSignature Nat) := failedRows 5000 ++ [lostRow, checkpointRow]

def lateEvents : List (PollEvent Nat) :=
  [.grow busyHistory, .start] ++ List.replicate 7 (.settle 0 .resolved) ++ [.timeout 0, .settle 0 .resolved]

/-- The busy history behind its first rows. -/
def remaining (count : Nat) : List (CatchUpSignature Nat) :=
  (List.range' count (5000 - count)).map failedRow ++ [lostRow, checkpointRow]

def busyPoller (awaiting : Await Nat) : Poller Nat :=
  ⟨lastCheckpoint, busyHistory, some lastCheckpoint, [], [⟨awaiting, false⟩]⟩

def lateStored : Stored Nat := ⟨lastCheckpoint, failedRows 5000, failedRow 0, false, false, [], true⟩

theorem busyHistory_split (inRange : count ≤ 5000) :
    busyHistory = failedRows count ++ remaining count := by
  have range : List.range 5000 = List.range count ++ List.range' count (5000 - count) := by
    have joined := @List.range'_append_1 0 count (5000 - count)
    rw [Nat.zero_add, Nat.add_sub_cancel' inRange] at joined
    rw [List.range_eq_range', List.range_eq_range', joined]
  rw [busyHistory, failedRows, failedRows, remaining, range, List.map_append, List.append_assoc]

theorem failedRows_signatures (count : Nat) : (failedRows count).map (·.signature) = List.range count := by
  simp [failedRows, Function.comp_def, failedRow]

theorem busyHistory_distinct : (busyHistory.map (·.signature)).Nodup := by
  have last (count : Nat) : List.range (count + 2) = List.range count ++ [count, count + 1] := by
    rw [List.range_succ, List.range_succ, List.append_assoc]
    rfl
  have signatures : busyHistory.map (·.signature) = List.range (5000 + 2) := by
    rw [busyHistory, List.map_append, failedRows_signatures, last 5000]
    rfl
  rw [signatures]
  exact List.nodup_range

theorem failedRows_zero : failedRows 0 = [] := by
  rw [failedRows]
  rfl

theorem failedRows_succ (count : Nat) : failedRows (count + 1) = failedRows count ++ [failedRow count] := by
  rw [failedRows, failedRows, List.range_succ, List.map_append]
  rfl

theorem read_busyHistory (inRange : count ≤ 5000) (bound : Option Nat) (limit : Nat) :
    getSignaturesForAddress busyHistory ((failedRows count).getLast?.map (·.signature)) bound limit =
      (bound.elim (remaining count) fun signature => (remaining count).takeWhile (·.signature ≠ signature)).take
        limit := by
  cases count with
  | zero =>
    rw [getSignaturesForAddress, busyHistory_split inRange, failedRows_zero]
    rfl
  | succ count =>
    have split := busyHistory_split inRange
    rw [failedRows_succ, List.append_assoc, List.singleton_append] at split
    rw [getSignaturesForAddress, failedRows_succ, List.getLast?_concat, Option.map_some, Option.elim_some,
      dropWhile_at busyHistory_distinct split, List.tail_cons]

theorem read_page (inRange : count + 1000 ≤ 5000) :
    getSignaturesForAddress busyHistory ((failedRows count).getLast?.map (·.signature))
      (some lastCheckpoint.signature) PAGE_SIZE = (List.range' count 1000).map failedRow := by
  have front : List.range' count (5000 - count) =
      List.range' count 1000 ++ List.range' (count + 1000) (4000 - count) := by
    rw [List.range'_append_1]
    congr 1
    omega
  rw [read_busyHistory (by omega), Option.elim_some, remaining, front, List.map_append, List.append_assoc,
    List.takeWhile_append_of_pos, List.take_append_of_le_length, List.take_of_length_le]
  · simp [PAGE_SIZE]
  · simp [PAGE_SIZE]
  · intro row isRow
    obtain ⟨index, isIndex, rfl⟩ := List.mem_map.mp isRow
    have bounds := List.mem_range'_1.mp isIndex
    have different : index ≠ 5001 := by omega
    exact decide_eq_true different

theorem appendPage_failedRows (count length : Nat) (inRange : count + length ≤ 5000) :
    appendPage lastCheckpoint (failedRows count) ((List.range' count length).map failedRow) =
      some (failedRows (count + length)) := by
  induction length generalizing count with
  | zero => rfl
  | succ length appended =>
    have sorted : ((failedRows count).getLast?.any fun previous =>
        decide (previous.slot < (failedRow count).slot)) = false := by
      cases (failedRows count).getLast? <;> simp [failedRow]
    have fresh : (failedRow count).signature ∉ (failedRows count).map (·.signature) := by
      rw [failedRows_signatures]
      exact List.not_mem_range_self
    have accepted : ¬ (((failedRows count).getLast?.any fun previous =>
          decide (previous.slot < (failedRow count).slot)) = true ∨ (failedRow count).slot < lastCheckpoint.slot ∨
        (failedRow count).signature = lastCheckpoint.signature ∨
        (failedRow count).signature ∈ (failedRows count).map (·.signature) ∨
        (failedRow count).confirmationStatus ≠ .finalized) := by
      have different : (failedRow count).signature ≠ lastCheckpoint.signature := by
        simp only [failedRow, lastCheckpoint]
        omega
      simp only [sorted, different, fresh, false_or]
      simp [failedRow, lastCheckpoint]
    rw [List.range'_succ, List.map_cons, appendPage, if_neg accepted, ← failedRows_succ,
      appended (count + 1) (by omega)]
    congr 2
    omega

theorem enqueueRows_failed {rows : List (CatchUpSignature Nat)} {newest : CatchUpSignature Nat}
    (isNewest : rows.head? = some newest) (indices : List Nat) :
    enqueueRows false [] lastCheckpoint rows false (indices.map failedRow) =
      .store ⟨lastCheckpoint, rows, newest, false, false, [], false⟩ := by
  induction indices with
  | nil =>
    rw [List.map_nil, enqueueRows, isNewest]
    rfl
  | cons index indices skipped =>
    rw [List.map_cons, enqueueRows]
    exact skipped

theorem settle_page (pageCount : Nat) (inRange : pageCount < MAX_PAGES) :
    step (busyPoller (.page lastCheckpoint (failedRows (1000 * pageCount)) pageCount)) (.settle 0 .resolved) =
      busyPoller (nextPage false lastCheckpoint (failedRows (1000 * (pageCount + 1))) (pageCount + 1) false) := by
  have resumed : (busyPoller (.page lastCheckpoint (failedRows (1000 * pageCount)) pageCount)).resume false
        (.page lastCheckpoint (failedRows (1000 * pageCount)) pageCount) =
      nextPage false lastCheckpoint (failedRows (1000 * (pageCount + 1))) (pageCount + 1) false := by
    have bounded : 1000 * pageCount + 1000 ≤ 5000 := by
      unfold MAX_PAGES at inRange
      omega
    have page := read_page bounded
    unfold Poller.resume
    simp only [busyPoller, page, appendPage_failedRows _ _ bounded]
    simp [PAGE_SIZE, Nat.mul_succ]
  rw [← resumed]
  rfl

theorem failedRows_newest : (failedRows 5000).head? = some (failedRow 0) := by
  simp [failedRows, List.head?_range]

theorem settle_probe :
    step (busyPoller (.probe lastCheckpoint (failedRows 5000) false)) (.settle 0 .resolved) =
      busyPoller (.store { lateStored with applied := false }) := by
  have resumed : (busyPoller (.probe lastCheckpoint (failedRows 5000) false)).resume false
        (.probe lastCheckpoint (failedRows 5000) false) =
      .store { lateStored with applied := false } := by
    have probe := read_busyHistory (Nat.le_refl 5000) none 1
    rw [Option.elim_none, remaining, Nat.sub_self, List.range'_zero, List.map_nil, List.nil_append] at probe
    have unconfirmed : ([lostRow, checkpointRow].take 1).head?.any (isBoundary lastCheckpoint) = false := by decide
    have stored := enqueueRows_failed failedRows_newest (List.range 5000)
    rw [← failedRows] at stored
    unfold Poller.resume
    simp only [busyPoller, probe, unconfirmed, stored, Bool.false_eq_true, and_false, if_false]
    rfl
  rw [← resumed]
  rfl

theorem run_busyEvents :
    run step (initial lastCheckpoint (some lastCheckpoint))
        ([.grow busyHistory, .start] ++ List.replicate 7 (.settle 0 .resolved)) =
      busyPoller (.store { lateStored with applied := false }) := by
  have grown : step (initial lastCheckpoint (some lastCheckpoint)) (.grow busyHistory) =
      ⟨lastCheckpoint, busyHistory, some lastCheckpoint, [], []⟩ := by
    have distinct : ((busyHistory ++ []).map CatchUpSignature.signature).Nodup := by
      rw [List.append_nil]
      exact busyHistory_distinct
    rw [step, initial]
    dsimp only
    rw [if_pos distinct, List.append_nil]
  have started : step ⟨lastCheckpoint, busyHistory, some lastCheckpoint, [], []⟩ .start =
      busyPoller .readCheckpoint := rfl
  have read : step (busyPoller .readCheckpoint) (.settle 0 .resolved) =
      busyPoller (.page lastCheckpoint (failedRows (1000 * 0)) 0) := by
    rw [Nat.mul_zero, failedRows_zero]
    rfl
  have next (pageCount : Nat) (inRange : pageCount + 1 < MAX_PAGES) :
      step (busyPoller (.page lastCheckpoint (failedRows (1000 * pageCount)) pageCount)) (.settle 0 .resolved) =
        busyPoller (.page lastCheckpoint (failedRows (1000 * (pageCount + 1))) (pageCount + 1)) := by
    rw [settle_page pageCount (by omega), nextPage, if_neg Bool.false_ne_true, if_pos ⟨rfl, inRange⟩]
  have exhausted :
      step (busyPoller (.page lastCheckpoint (failedRows (1000 * 4)) 4)) (.settle 0 .resolved) =
        busyPoller (.probe lastCheckpoint (failedRows 5000) false) := by
    rw [settle_page 4 (by decide), nextPage, if_neg Bool.false_ne_true, if_neg (by decide)]
  have onward (poller : Poller Nat) (event : PollEvent Nat) (events : List (PollEvent Nat)) :
      run step poller (event :: events) = run step (step poller event) events := rfl
  have events : [PollEvent.grow busyHistory, .start] ++ List.replicate 7 (.settle 0 .resolved) =
    [.grow busyHistory, .start, .settle 0 .resolved, .settle 0 .resolved, .settle 0 .resolved, .settle 0 .resolved,
      .settle 0 .resolved, .settle 0 .resolved, .settle 0 .resolved] := rfl
  rw [events, onward, grown, onward, started, onward, read, onward, next 0 (by decide), onward, next 1 (by decide), onward,
    next 2 (by decide), onward, next 3 (by decide), onward, exhausted, onward, settle_probe]
  rfl

/-- The store has begun when the deadline expires, and it takes effect. -/
theorem store_late (history rows : List (CatchUpSignature Nat)) :
    step (step ⟨lastCheckpoint, history, some lastCheckpoint, [],
          [⟨.store ⟨lastCheckpoint, rows, failedRow 0, false, false, [], false⟩, false⟩]⟩ (.timeout 0))
        (.settle 0 .resolved) =
      ⟨lastCheckpoint, history, some ⟨0, 0⟩, [], [⟨.settled (some .GAP_SKIPPED)
        (some ⟨lastCheckpoint, rows, failedRow 0, false, false, [], true⟩), true⟩]⟩ :=
  rfl

theorem run_lateEvents :
    run step (initial lastCheckpoint (some lastCheckpoint)) lateEvents =
      ⟨lastCheckpoint, busyHistory, some ⟨0, 0⟩, [], [⟨.settled (some .GAP_SKIPPED) (some lateStored), true⟩]⟩ := by
  rw [lateEvents, run_append, run_busyEvents]
  exact store_late busyHistory (failedRows 5000)

theorem lateStore_hides_gap :
    ¬ ∀ sweep ∈ (run step (initial lastCheckpoint (some lastCheckpoint)) lateEvents).sweeps,
      NoSilentGap (run step (initial lastCheckpoint (some lastCheckpoint)) lateEvents).history sweep := by
  rw [run_lateEvents]
  intro silent
  have kept := silent _ List.mem_cons_self
  have isCovered : lostRow ∈ covered busyHistory lateStored := by
    have others : ∀ row ∈ failedRows 5000, decide (row.signature ≠ lateStored.checkpoint.signature) = true := by
      intro row isRow
      have inRange : row.signature ∈ (failedRows 5000).map (·.signature) := List.mem_map_of_mem isRow
      rw [failedRows_signatures, List.mem_range] at inRange
      have different : row.signature ≠ 5001 := by omega
      exact decide_eq_true different
    have segment := @dropWhile_newest _ _ _ lateStored busyHistory_distinct failedRows_newest [] _
      (busyHistory_split (Nat.le_refl 5000))
    have rows : lateStored.rows = failedRows 5000 := rfl
    rw [covered, segment, rows, List.takeWhile_append_of_pos others]
    exact List.mem_append_right _ (by decide)
  cases (kept.reported lateStored .FAILED rfl rfl rfl lostRow isCovered ⟨rfl, nofun⟩).1

/-- The same sweep when its store returns in time. -/
def promptEvents : List (PollEvent Nat) :=
  [.grow busyHistory, .start] ++ List.replicate 7 (.settle 0 .resolved) ++ [.settle 0 .resolved]

theorem store_prompt (history rows : List (CatchUpSignature Nat)) :
    step ⟨lastCheckpoint, history, some lastCheckpoint, [],
          [⟨.store ⟨lastCheckpoint, rows, failedRow 0, false, false, [], false⟩, false⟩]⟩ (.settle 0 .resolved) =
      ⟨lastCheckpoint, history, some ⟨0, 0⟩, [], [⟨.settled (some .GAP_SKIPPED)
        (some ⟨lastCheckpoint, rows, failedRow 0, false, false, [], true⟩), false⟩]⟩ :=
  rfl

theorem run_promptEvents :
    run step (initial lastCheckpoint (some lastCheckpoint)) promptEvents =
      ⟨lastCheckpoint, busyHistory, some ⟨0, 0⟩, [], [⟨.settled (some .GAP_SKIPPED) (some lateStored), false⟩]⟩ := by
  rw [promptEvents, run_append, run_busyEvents]
  exact store_prompt busyHistory (failedRows 5000)

theorem promptEvents_settle (poller : Poller Nat) {event : PollEvent Nat} (member : event ∈ promptEvents) :
    StoresSettle poller event := by
  simp only [promptEvents, List.mem_append, List.mem_cons, List.mem_replicate, List.not_mem_nil, or_false] at member
  rcases member with ((rfl | rfl) | ⟨-, rfl⟩) | rfl <;> trivial

theorem sweeps_leave_no_silent_gap_prompt :
    ⟨.settled (some .GAP_SKIPPED) (some lateStored), false⟩ ∈
        (run step (initial lastCheckpoint (some lastCheckpoint)) promptEvents).sweeps ∧
      ∀ sweep ∈ (run step (initial lastCheckpoint (some lastCheckpoint)) promptEvents).sweeps,
        NoSilentGap (run step (initial lastCheckpoint (some lastCheckpoint)) promptEvents).history sweep := by
  refine ⟨?_, sweeps_leave_no_silent_gap lastCheckpoint (some lastCheckpoint) promptEvents ?_⟩
  · rw [run_promptEvents]
    exact List.mem_cons_self
  · intro before event after isSplit
    refine promptEvents_settle _ ?_
    rw [isSplit]
    exact List.mem_append_right before List.mem_cons_self

end LateStore

end SolTokenListener.Guarantees.TrackedPoolSweeps
