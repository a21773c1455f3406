import SolTokenListener.Source.StrictCatchUp

/-!
# Lifecycle of a strict catch-up run

Source: src/domain/strict-catch-up-run.ts:60-298. A run starts with an accepted creation and moves by
accepted steps, each an advance or a termination. The guards of every step are what the source
checks before it builds the result; the check of the result itself is not among them.
-/

namespace SolTokenListener.Guarantees.StrictRunLifecycle

open Lib.Checked Source.Chain
open Source.StrictCatchUp

/-! ## Runs of steps -/

section Steps

variable (digests : CatchUpDigests)

/-- One accepted step of the domain. -/
inductive RunStep : StrictCatchUpRun → StrictCatchUpRun → Prop where
  | advance {current next : StrictCatchUpRun} (progress : StrictCatchUpRunProgress)
      (accepted : advanceStrictCatchUpRun digests current progress = .ok next) : RunStep current next
  | terminalize {current next : StrictCatchUpRun} (termination : StrictCatchUpRunTermination)
      (accepted : terminalizeStrictCatchUpRun digests current termination = .ok next) :
      RunStep current next

/-- So many accepted steps lead from one run to the other. -/
inductive RunSteps : Nat → StrictCatchUpRun → StrictCatchUpRun → Prop where
  | none (run : StrictCatchUpRun) : RunSteps 0 run run
  | more {count : Nat} {first current next : StrictCatchUpRun} (steps : RunSteps count first current)
      (step : RunStep digests current next) : RunSteps (count + 1) first next

/-! ## Guards -/

structure CreateGuards (input : StrictCatchUpRunInput) : Prop where
  fields : hasValidFields (runOfInput digests input)
  order : hasValidOrder (runOfInput digests input)

structure AdvanceGuards (current : StrictCatchUpRun) (progress : StrictCatchUpRunProgress) : Prop where
  valid : assertValidStrictCatchUpRun digests current = .ok ()
  active : current.state = .ACTIVE
  room : current.revision ≠ MAX_STRICT_CATCH_UP_RUN_COUNTER
  fields : hasValidProgressFields progress
  order : progresses current progress

structure TerminalizeGuards (current : StrictCatchUpRun) (termination : StrictCatchUpRunTermination) :
    Prop where
  valid : assertValidStrictCatchUpRun digests current = .ok ()
  active : current.state = .ACTIVE
  room : current.revision ≠ MAX_STRICT_CATCH_UP_RUN_COUNTER
  terminal : termination.state ≠ .ACTIVE
  date : isMilliseconds termination.completedAtMs
  later : current.updatedAtMs ≤ termination.completedAtMs
  reason : terminalReasonMatchesState termination.state termination.terminalReason
  retained : termination.completedAtMs ≤ MAX_DATE_MS - STRICT_CATCH_UP_RUN_RETENTION_MS

end Steps

variable {digests : CatchUpDigests} {input : StrictCatchUpRunInput}

section Guards

variable {current next : StrictCatchUpRun}
variable {progress : StrictCatchUpRunProgress} {termination : StrictCatchUpRunTermination}

theorem assertValid_eq_ok {run : StrictCatchUpRun} :
    assertValidStrictCatchUpRun digests run = .ok () ↔
      hasValidFields run ∧
        run.runId = digests.strictCatchUpRunId run.checkpointKey run.previous.slot
          run.previous.signature run.providerId ∧
        hasValidOrder run ∧ hasValidLifecycle run := by
  simp only [assertValidStrictCatchUpRun, bind_eq_ok, require_eq_ok]
  constructor
  · rintro ⟨_, fields, _, ⟨id, order⟩, lifecycle⟩
    exact ⟨fields, id, order, lifecycle⟩
  · rintro ⟨fields, id, order, lifecycle⟩
    exact ⟨(), fields, (), ⟨id, order⟩, lifecycle⟩

theorem create_eq_ok : createStrictCatchUpRun digests input = .ok next ↔
    CreateGuards digests input ∧ assertValidStrictCatchUpRun digests (runOfInput digests input) = .ok () ∧
      next = runOfInput digests input := by
  simp only [createStrictCatchUpRun, bind_eq_ok, require_eq_ok, pure_eq_ok]
  constructor
  · rintro ⟨_, fields, _, order, _, valid, rfl⟩
    exact ⟨⟨fields, order⟩, valid, rfl⟩
  · rintro ⟨⟨fields, order⟩, valid, rfl⟩
    exact ⟨(), fields, (), order, (), valid, rfl⟩

theorem advance_eq_ok : advanceStrictCatchUpRun digests current progress = .ok next ↔
    AdvanceGuards digests current progress ∧
      assertValidStrictCatchUpRun digests (progressed current progress) = .ok () ∧
      next = progressed current progress := by
  simp only [advanceStrictCatchUpRun, bind_eq_ok, require_eq_ok, pure_eq_ok]
  constructor
  · rintro ⟨_, valid, _, ⟨active, room⟩, _, fields, _, order, _, result, rfl⟩
    exact ⟨⟨valid, active, room, fields, order⟩, result, rfl⟩
  · rintro ⟨⟨valid, active, room, fields, order⟩, result, rfl⟩
    exact ⟨(), valid, (), ⟨active, room⟩, (), fields, (), order, (), result, rfl⟩

theorem terminalize_eq_ok : terminalizeStrictCatchUpRun digests current termination = .ok next ↔
    TerminalizeGuards digests current termination ∧
      assertValidStrictCatchUpRun digests (terminalized current termination) = .ok () ∧
      next = terminalized current termination := by
  simp only [terminalizeStrictCatchUpRun, bind_eq_ok, require_eq_ok, pure_eq_ok]
  constructor
  · rintro ⟨_, valid, _, ⟨active, room⟩, _, ⟨terminal, date⟩, _, ⟨later, reason, retained⟩, _, result, rfl⟩
    exact ⟨⟨valid, active, room, terminal, date, later, reason, retained⟩, result, rfl⟩
  · rintro ⟨⟨valid, active, room, terminal, date, later, reason, retained⟩, result, rfl⟩
    exact ⟨(), valid, (), ⟨active, room⟩, (), ⟨terminal, date⟩, (), ⟨later, reason, retained⟩, (),
      result, rfl⟩

/-! ## The check of the result never fails -/

/-- A counter that has not reached its end has a successor in range. -/
theorem isCounter_succ {value : Nat} (counter : isCounter value)
    (room : value ≠ MAX_STRICT_CATCH_UP_RUN_COUNTER) : isCounter (value + 1) := by
  simp only [isCounter, decide_eq_true_eq] at counter ⊢
  omega

theorem create_result_valid (guards : CreateGuards digests input) :
    assertValidStrictCatchUpRun digests (runOfInput digests input) = .ok () :=
  assertValid_eq_ok.mpr ⟨guards.fields, rfl, guards.order, rfl⟩

theorem progressed_fields (guards : AdvanceGuards digests current progress) :
    hasValidFields (progressed current progress) := by
  obtain ⟨fields, -⟩ := assertValid_eq_ok.mp guards.valid
  have given := guards.fields
  simp only [hasValidFields, hasValidProgressFields, decide_eq_true_eq] at fields given ⊢
  obtain ⟨checkpoint, head, -, -, -, -, -, revision, started, -, completed, purge⟩ := fields
  obtain ⟨before, slot, pages, enqueued, classified, updated⟩ := given
  exact ⟨checkpoint, head, before, slot, pages, enqueued, classified, isCounter_succ revision guards.room,
    started, updated, completed, purge⟩

/-- The new cursor is not the head, so the single-row test is not made again. -/
theorem progressed_order (guards : AdvanceGuards digests current progress) :
    hasValidOrder (progressed current progress) := by
  obtain ⟨-, -, order, -⟩ := assertValid_eq_ok.mp guards.valid
  have moved := guards.order
  simp only [hasValidOrder, progresses, decide_eq_true_eq] at order moved ⊢
  obtain ⟨startedAfter, updatedAfter, headAbove, -, -, -, belowHead, -⟩ := order
  obtain ⟨-, notBoundary, notHead, aboveBoundary, notAbove, -, -, -, enqueued, later⟩ := moved
  exact ⟨startedAfter, Int.le_trans updatedAfter later, headAbove, aboveBoundary, notBoundary,
    fun isHead => absurd isHead notHead, Nat.le_trans notAbove belowHead, enqueued⟩

theorem progressed_valid (guards : AdvanceGuards digests current progress) :
    assertValidStrictCatchUpRun digests (progressed current progress) = .ok () := by
  obtain ⟨-, id, -, lifecycle⟩ := assertValid_eq_ok.mp guards.valid
  have stillActive : hasValidLifecycle (progressed current progress) := by
    simp only [hasValidLifecycle, progressed, guards.active, if_true] at lifecycle ⊢
    exact lifecycle
  exact assertValid_eq_ok.mpr ⟨progressed_fields guards, id, progressed_order guards, stillActive⟩

section Terminalized

variable (guards : TerminalizeGuards digests current termination)

include guards

/-- The purge date is a date: the last date a termination may carry leaves room for the retention. -/
theorem isMilliseconds_purge :
    isMilliseconds (termination.completedAtMs + STRICT_CATCH_UP_RUN_RETENTION_MS) := by
  have date := guards.date
  have retained := guards.retained
  simp only [isMilliseconds, decide_eq_true_eq] at date ⊢
  simp only [isSafeInteger, decide_eq_true_eq] at date ⊢
  simp only [MAX_SAFE_INTEGER, MAX_DATE_MS, STRICT_CATCH_UP_RUN_RETENTION_MS] at date retained ⊢
  omega

theorem terminalized_fields : hasValidFields (terminalized current termination) := by
  obtain ⟨fields, -⟩ := assertValid_eq_ok.mp guards.valid
  simp only [hasValidFields, decide_eq_true_eq] at fields ⊢
  obtain ⟨checkpoint, head, before, slot, pages, enqueued, classified, revision, started, -⟩ := fields
  exact ⟨checkpoint, head, before, slot, pages, enqueued, classified, isCounter_succ revision guards.room,
    started, guards.date, guards.date, isMilliseconds_purge guards⟩

/-- A run of one row is terminal at revision 1, having been active at revision 0. -/
theorem initialSingleRowHead_terminalized (single : initialSingleRowHead current) : initialSingleRowHead (terminalized current termination) := by
  simp only [initialSingleRowHead, guards.active, decide_eq_true_eq] at single ⊢
  obtain ⟨before, slot, pages, classified, enqueued, ⟨-, revision⟩ | ⟨active, -⟩⟩ := single
  · exact ⟨before, slot, pages, classified, enqueued, .inr ⟨guards.terminal, congrArg (· + 1) revision⟩⟩
  · exact absurd rfl active

theorem terminalized_order : hasValidOrder (terminalized current termination) := by
  obtain ⟨-, -, order, -⟩ := assertValid_eq_ok.mp guards.valid
  simp only [hasValidOrder, decide_eq_true_eq] at order ⊢
  obtain ⟨startedAfter, updatedAfter, headAbove, aboveBoundary, notBoundary, single, belowHead, enqueued⟩ :=
    order
  exact ⟨startedAfter, Int.le_trans updatedAfter guards.later, headAbove, aboveBoundary, notBoundary,
    fun isHead => initialSingleRowHead_terminalized guards (single isHead), belowHead, enqueued⟩

theorem terminalized_lifecycle : hasValidLifecycle (terminalized current termination) := by
  obtain ⟨-, -, order, -⟩ := assertValid_eq_ok.mp guards.valid
  simp only [hasValidOrder, decide_eq_true_eq] at order
  have startedBefore : current.startedAtMs ≤ termination.completedAtMs :=
    Int.le_trans order.2.1 guards.later
  simp only [hasValidLifecycle, terminalized, guards.terminal, if_false, decide_eq_true_eq]
  exact ⟨trivial, startedBefore, guards.retained, trivial, guards.reason⟩

theorem terminalized_valid :
    assertValidStrictCatchUpRun digests (terminalized current termination) = .ok () := by
  obtain ⟨-, id, -, -⟩ := assertValid_eq_ok.mp guards.valid
  exact assertValid_eq_ok.mpr
    ⟨terminalized_fields guards, id, terminalized_order guards, terminalized_lifecycle guards⟩

end Terminalized

theorem create_of_guards (guards : CreateGuards digests input) :
    createStrictCatchUpRun digests input = .ok (runOfInput digests input) :=
  create_eq_ok.mpr ⟨guards, create_result_valid guards, rfl⟩

theorem advance_of_guards (guards : AdvanceGuards digests current progress) :
    advanceStrictCatchUpRun digests current progress = .ok (progressed current progress) :=
  advance_eq_ok.mpr ⟨guards, progressed_valid guards, rfl⟩

theorem terminalize_of_guards (guards : TerminalizeGuards digests current termination) :
    terminalizeStrictCatchUpRun digests current termination = .ok (terminalized current termination) :=
  terminalize_eq_ok.mpr ⟨guards, terminalized_valid guards, rfl⟩

end Guards

/-! ## What a run keeps -/

section Runs

variable {initial first current next run later : StrictCatchUpRun} {count more : Nat}

/-- What stays and what only moves one way between two runs. -/
structure Continues (before after : StrictCatchUpRun) : Prop where
  runId : after.runId = before.runId
  previous : after.previous = before.previous
  observedHead : after.observedHead = before.observedHead
  slot : after.lastAcceptedSlot ≤ before.lastAcceptedSlot
  pages : before.pagesScanned ≤ after.pagesScanned
  enqueued : before.signaturesEnqueued ≤ after.signaturesEnqueued
  classified : before.signaturesClassified ≤ after.signaturesClassified

theorem Continues.refl (run : StrictCatchUpRun) : Continues run run :=
  ⟨rfl, rfl, rfl, Nat.le_refl _, Nat.le_refl _, Nat.le_refl _, Nat.le_refl _⟩

theorem Continues.trans (early : Continues first current) (late : Continues current next) :
    Continues first next :=
  ⟨late.runId.trans early.runId, late.previous.trans early.previous,
    late.observedHead.trans early.observedHead, Nat.le_trans late.slot early.slot,
    Nat.le_trans early.pages late.pages, Nat.le_trans early.enqueued late.enqueued,
    Nat.le_trans early.classified late.classified⟩

/-- A step starts from an active run and leaves a valid one, one revision on. -/
structure Steps (digests : CatchUpDigests) (current next : StrictCatchUpRun) : Prop where
  active : current.state = .ACTIVE
  valid : assertValidStrictCatchUpRun digests next = .ok ()
  revision : next.revision = current.revision + 1
  continues : Continues current next

theorem runStep_steps (step : RunStep digests current next) : Steps digests current next := by
  cases step with
  | advance progress accepted =>
    obtain ⟨guards, valid, rfl⟩ := advance_eq_ok.mp accepted
    have moved := guards.order
    simp only [progresses, decide_eq_true_eq] at moved
    obtain ⟨-, -, -, -, notAbove, pages, enqueued, classified, -, -⟩ := moved
    exact ⟨guards.active, valid, rfl, rfl, rfl, rfl, notAbove, Nat.le_of_lt pages, enqueued, classified⟩
  | terminalize termination accepted =>
    obtain ⟨guards, valid, rfl⟩ := terminalize_eq_ok.mp accepted
    exact ⟨guards.active, valid, rfl, rfl, rfl, rfl, Nat.le_refl _, Nat.le_refl _, Nat.le_refl _,
      Nat.le_refl _⟩

theorem runSteps_continues (steps : RunSteps digests count first run) : Continues first run := by
  induction steps with
  | none => exact .refl _
  | more _ step ih => exact ih.trans (runStep_steps step).continues

theorem runSteps_revision (steps : RunSteps digests count first run) :
    run.revision = first.revision + count := by
  induction steps with
  | none => rfl
  | more _ step ih => rw [(runStep_steps step).revision, ih, Nat.add_assoc]

theorem runSteps_valid (valid : assertValidStrictCatchUpRun digests first = .ok ())
    (steps : RunSteps digests count first run) : assertValidStrictCatchUpRun digests run = .ok () := by
  cases steps with
  | none => exact valid
  | more _ step => exact (runStep_steps step).valid

theorem RunSteps.append (early : RunSteps digests count first run) (late : RunSteps digests more run later) :
    RunSteps digests (count + more) first later := by
  induction late with
  | none => exact early
  | more _ step ih => exact .more (ih early) step

/-! ## Terminal runs -/

theorem advance_terminal (valid : assertValidStrictCatchUpRun digests run = .ok ())
    (terminal : run.state ≠ .ACTIVE) (progress : StrictCatchUpRunProgress) :
    advanceStrictCatchUpRun digests run progress = .error .invalidRun := by
  have refused : ¬ (run.state = .ACTIVE ∧ run.revision ≠ MAX_STRICT_CATCH_UP_RUN_COUNTER) :=
    fun accepted => terminal accepted.1
  simp only [advanceStrictCatchUpRun, valid, require, refused, if_false]
  rfl

theorem terminalize_terminal (valid : assertValidStrictCatchUpRun digests run = .ok ())
    (terminal : run.state ≠ .ACTIVE) (termination : StrictCatchUpRunTermination) :
    terminalizeStrictCatchUpRun digests run termination = .error .invalidRun := by
  have refused : ¬ (run.state = .ACTIVE ∧ run.revision ≠ MAX_STRICT_CATCH_UP_RUN_COUNTER) :=
    fun accepted => terminal accepted.1
  simp only [terminalizeStrictCatchUpRun, valid, require, refused, if_false]
  rfl

/-! ## Every lifecycle -/

/-- What holds of a run that was reached from `initial` in `count` steps, by way of `run`. -/
structure LifecycleHolds (digests : CatchUpDigests) (initial run later : StrictCatchUpRun)
    (count : Nat) : Prop where
  valid : assertValidStrictCatchUpRun digests later = .ok ()
  id : later.runId = initial.runId
  revision : later.revision = initial.revision + count
  slotFalls : later.lastAcceptedSlot ≤ run.lastAcceptedSlot
  slotBounds : initial.previous.slot ≤ later.lastAcceptedSlot ∧
    later.lastAcceptedSlot ≤ initial.observedHead.slot
  countersRise : run.pagesScanned ≤ later.pagesScanned ∧
    run.signaturesEnqueued ≤ later.signaturesEnqueued ∧
    run.signaturesClassified ≤ later.signaturesClassified
  enqueued : later.signaturesEnqueued ≤ later.signaturesClassified
  terminal : later.state ≠ .ACTIVE →
    (∀ progress, advanceStrictCatchUpRun digests later progress = .error .invalidRun) ∧
      ∀ termination, terminalizeStrictCatchUpRun digests later termination = .error .invalidRun
  advances : ∀ progress, AdvanceGuards digests later progress →
    advanceStrictCatchUpRun digests later progress = .ok (progressed later progress)
  terminates : ∀ termination, TerminalizeGuards digests later termination →
    terminalizeStrictCatchUpRun digests later termination = .ok (terminalized later termination)

/-- Every creation whose guards pass is accepted, and whatever two runs of a lifecycle are compared,
the later one continues the earlier one. -/
theorem strictCatchUpRun_lifecycle (digests : CatchUpDigests) (input : StrictCatchUpRunInput) :
    (CreateGuards digests input → createStrictCatchUpRun digests input = .ok (runOfInput digests input)) ∧
      ∀ initial, createStrictCatchUpRun digests input = .ok initial →
        ∀ count run, RunSteps digests count initial run →
          ∀ more later, RunSteps digests more run later →
            LifecycleHolds digests initial run later (count + more) := by
  refine ⟨create_of_guards, fun initial created count run early more later late => ?_⟩
  obtain ⟨-, valid, rfl⟩ := create_eq_ok.mp created
  have whole := early.append late
  have laterValid := runSteps_valid valid whole
  have continued := runSteps_continues whole
  have sinceRun := runSteps_continues late
  obtain ⟨-, -, order, -⟩ := assertValid_eq_ok.mp laterValid
  simp only [hasValidOrder, decide_eq_true_eq] at order
  obtain ⟨-, -, -, aboveBoundary, -, -, belowHead, enqueued⟩ := order
  exact
    { valid := laterValid
      id := continued.runId
      revision := runSteps_revision whole
      slotFalls := sinceRun.slot
      slotBounds := ⟨continued.previous ▸ aboveBoundary, continued.observedHead ▸ belowHead⟩
      countersRise := ⟨sinceRun.pages, sinceRun.enqueued, sinceRun.classified⟩
      enqueued
      terminal := fun terminal =>
        ⟨advance_terminal laterValid terminal, terminalize_terminal laterValid terminal⟩
      advances := fun _ => advance_of_guards
      terminates := fun _ => terminalize_of_guards }

end Runs

/-! A run of two pages that is then completed. -/

def sampleDigests : CatchUpDigests := ⟨fun _ _ _ _ => "run"⟩

def sampleInput : StrictCatchUpRunInput where
  checkpointKey := .launchpad
  previous := ⟨.launchpad, 10, "boundary", 1000⟩
  providerId := .primary
  observedHead := ⟨20, "head"⟩
  beforeSignature := "middle"
  lastAcceptedSlot := 15
  pagesScanned := 1
  signaturesEnqueued := 2
  signaturesClassified := 2
  revision := 0
  startedAtMs := 2000
  updatedAtMs := 2000

def sampleProgress : StrictCatchUpRunProgress := ⟨"last", 11, 2, 3, 4, 3000⟩

def sampleTermination : StrictCatchUpRunTermination := ⟨.COMPLETED, none, 4000⟩

def sampleAdvanced : StrictCatchUpRun := progressed (runOfInput sampleDigests sampleInput) sampleProgress

theorem sample_advances :
    RunSteps sampleDigests 1 (runOfInput sampleDigests sampleInput) sampleAdvanced :=
  .more (.none _) (.advance sampleProgress (by rfl))

theorem sample_terminates :
    RunSteps sampleDigests 1 sampleAdvanced (terminalized sampleAdvanced sampleTermination) :=
  .more (.none _) (.terminalize sampleTermination (by rfl))

theorem strictCatchUpRun_lifecycle_completed :
    createStrictCatchUpRun sampleDigests sampleInput = .ok (runOfInput sampleDigests sampleInput) ∧
      LifecycleHolds sampleDigests (runOfInput sampleDigests sampleInput) sampleAdvanced
        (terminalized sampleAdvanced sampleTermination) 2 :=
  ⟨by rfl, (strictCatchUpRun_lifecycle sampleDigests sampleInput).2 _ (by rfl) 1 _ sample_advances 1 _
    sample_terminates⟩

end SolTokenListener.Guarantees.StrictRunLifecycle
