import Mathlib.Logic.Function.Basic
import SolTokenListener.Lib.AsyncProgram

/-!
# Interleaved programs over a shared world

Any number of processes run programs against one world. A schedule launches programs, answers
the call a process waits for, or lets the world change on its own. A discipline states an
invariant of the world, when a call is permitted, and what one actor can do to the others; a
program is safe when it only makes permitted calls from what it has learned so far, and safe
programs keep the discipline in every schedule.
-/

namespace SolTokenListener.Lib.Interleaving

open Lib.AsyncProgram

variable {interface : Interface} {α β : Type}

/-- A world that answers calls. `Choice` resolves what the caller cannot know beforehand. -/
structure Environment (interface : Interface) where
  World : Type
  Process : Type
  Choice : Type
  Change : Type
  perform : Process → Choice → (request : interface.Call) → World →
    Except interface.Error (interface.Answer request) × World
  evolve : Change → World → World

/-- The world and what each process still has to do. -/
structure State (environment : Environment interface) (α : Type) where
  world : environment.World
  programs : environment.Process → Option (Program interface α)

inductive Event (environment : Environment interface) (Launch : Type) where
  | launch (process : environment.Process) (input : Launch)
  | advance (process : environment.Process) (choice : environment.Choice)
  | change (change : environment.Change)

variable {environment : Environment interface}

section Runs

variable [DecidableEq environment.Process] {Launch : Type}
variable (body : environment.Process → Launch → Program interface α)

/-- A launch discards whatever its process was doing: the old program has crashed. -/
def step (state : State environment α) : Event environment Launch → State environment α
  | .launch process input =>
    { state with programs := Function.update state.programs process (some (body process input)) }
  | .advance process choice =>
    match state.programs process with
    | some (.await request resume) =>
      let answered := environment.perform process choice request state.world
      { world := answered.2
        programs := Function.update state.programs process (some (resume answered.1)) }
    | _ => state
  | .change change => { state with world := environment.evolve change state.world }

def run (state : State environment α) (events : List (Event environment Launch)) :
    State environment α :=
  events.foldl (step body) state

def start (world : environment.World) : State environment α := ⟨world, fun _ => none⟩

end Runs

/-! ## One program alone -/

variable {process : environment.Process} {program : Program interface α}

section Alone

variable {choices : Nat → environment.Choice} {calls : Nat} {world : environment.World}

/-- How a program ended, after how many calls, and the world it left. -/
structure Ended (environment : Environment interface) (α : Type) where
  answer : Except interface.Error α
  calls : Nat
  world : environment.World

/-- Run one program to its end; `choices` resolves its calls in their order. -/
def runAlone (process : environment.Process) (choices : Nat → environment.Choice) :
    Program interface α → Nat → environment.World → Ended environment α
  | .done value, calls, world => ⟨.ok value, calls, world⟩
  | .thrown error, calls, world => ⟨.error error, calls, world⟩
  | .await request resume, calls, world =>
    let answered := environment.perform process (choices calls) request world
    runAlone process choices (resume answered.1) (calls + 1) answered.2

@[simp] theorem runAlone_pure (value : α) :
    runAlone process choices (pure value) calls world = ⟨.ok value, calls, world⟩ := rfl

@[simp] theorem runAlone_lift (checked : Except interface.Error α) :
    runAlone process choices (lift checked) calls world = ⟨checked, calls, world⟩ := by
  cases checked <;> rfl

theorem runAlone_call (request : interface.Call) :
    runAlone process choices (call request) calls world =
      let answered := environment.perform process (choices calls) request world
      ⟨answered.1, calls + 1, answered.2⟩ := by
  dsimp only [call, runAlone]
  cases (environment.perform process (choices calls) request world).1 <;> rfl

theorem runAlone_bind (program : Program interface α) (next : α → Program interface β) :
    runAlone process choices (program >>= next) calls world =
      let ended := runAlone process choices program calls world
      match ended.answer with
      | .ok value => runAlone process choices (next value) ended.calls ended.world
      | .error error => ⟨.error error, ended.calls, ended.world⟩ := by
  induction program generalizing calls world with
  | done value => rfl
  | thrown error => rfl
  | await request resume ih => exact ih _

theorem runAlone_bind_ok {value : α} {after : Nat} {left : environment.World}
    (ended : runAlone process choices program calls world = ⟨.ok value, after, left⟩)
    (next : α → Program interface β) :
    runAlone process choices (program >>= next) calls world =
      runAlone process choices (next value) after left := by
  rw [runAlone_bind, ended]

theorem runAlone_bind_error {error : interface.Error} {after : Nat} {left : environment.World}
    (ended : runAlone process choices program calls world = ⟨.error error, after, left⟩)
    (next : α → Program interface β) :
    runAlone process choices (program >>= next) calls world = ⟨.error error, after, left⟩ := by
  rw [runAlone_bind, ended]

theorem runAlone_attempt (program : Program interface α) :
    runAlone process choices (attempt program) calls world =
      let ended := runAlone process choices program calls world
      ⟨.ok ended.answer, ended.calls, ended.world⟩ := by
  induction program generalizing calls world with
  | done value => rfl
  | thrown error => rfl
  | await request resume ih => exact ih _

end Alone

/-- What holds of the world, which calls are permitted, and what an actor does to the world.
The actor `none` is the world itself. -/
structure Discipline (environment : Environment interface) where
  Holds : environment.World → Prop
  Permits : environment.Process → interface.Call → environment.World → Prop
  Effect : Option environment.Process → environment.World → environment.World → Prop
  perform_holds : ∀ {process choice request world}, Holds world → Permits process request world →
    Holds (environment.perform process choice request world).2
  perform_effect : ∀ {process choice request world}, Holds world → Permits process request world →
    Effect (some process) world (environment.perform process choice request world).2
  evolve_holds : ∀ {change world}, Holds world → Holds (environment.evolve change world)
  evolve_effect : ∀ {change world}, Holds world → Effect none world (environment.evolve change world)

namespace Discipline

variable (discipline : Discipline environment)

/-- Knowledge that no other actor can invalidate. -/
def Stable (process : environment.Process) (knows : environment.World → Prop) : Prop :=
  ∀ actor, actor ≠ some process → ∀ world after, discipline.Holds world →
    discipline.Effect actor world after → knows world → knows after

/-- Knowledge that no actor at all can invalidate. -/
def Persistent (knows : environment.World → Prop) : Prop :=
  ∀ actor world after, discipline.Holds world → discipline.Effect actor world after →
    knows world → knows after

/-- From what it knows, the program only makes permitted calls, and it ends with `returns` or
`throws`. What it learns from an answer must be stable until its next call. -/
def Safe (process : environment.Process) (returns : α → environment.World → Prop)
    (throws : interface.Error → environment.World → Prop) :
    Program interface α → (environment.World → Prop) → Prop
  | .done value, knows => ∀ world, discipline.Holds world → knows world → returns value world
  | .thrown error, knows => ∀ world, discipline.Holds world → knows world → throws error world
  | .await request resume, knows => ∀ world, discipline.Holds world → knows world →
      discipline.Permits process request world ∧
        ∀ choice, ∃ learned, discipline.Stable process learned ∧
          learned (environment.perform process choice request world).2 ∧
          Safe process returns throws
            (resume (environment.perform process choice request world).1) learned

variable {throws' : interface.Error → environment.World → Prop}

section Rules

variable {discipline} {knows weaker : environment.World → Prop}
variable {returns : α → environment.World → Prop} {throws : interface.Error → environment.World → Prop}

theorem stable_true : discipline.Stable process fun _ => True := fun _ _ _ _ _ _ _ => trivial

/-- More knowledge makes a program no less safe. -/
theorem Safe.weaken (safe : discipline.Safe process returns throws program weaker)
    (implies : ∀ world, discipline.Holds world → knows world → weaker world) :
    discipline.Safe process returns throws program knows := by
  cases program with
  | done value | thrown error | await request resume =>
    exact fun world holds known => safe world holds (implies world holds known)

theorem Safe.consequence {returns' : α → environment.World → Prop}
    (safe : discipline.Safe process returns throws program knows)
    (returning : ∀ value world, discipline.Holds world → returns value world → returns' value world)
    (throwing : ∀ error world, discipline.Holds world → throws error world → throws' error world) :
    discipline.Safe process returns' throws' program knows := by
  induction program generalizing knows with
  | done value => exact fun world holds known => returning value world holds (safe world holds known)
  | thrown error => exact fun world holds known => throwing error world holds (safe world holds known)
  | await request resume ih =>
    intro world holds known
    obtain ⟨permitted, answers⟩ := safe world holds known
    refine ⟨permitted, fun choice => ?_⟩
    obtain ⟨learned, stable, learns, rest⟩ := answers choice
    exact ⟨learned, stable, learns, ih _ rest⟩

theorem Safe.pure {value : α}
    (returning : ∀ world, discipline.Holds world → knows world → returns value world) :
    discipline.Safe process returns throws (Pure.pure value) knows :=
  returning

theorem Safe.throw {error : interface.Error}
    (throwing : ∀ world, discipline.Holds world → knows world → throws error world) :
    discipline.Safe process returns throws (throw error : Program interface α) knows :=
  throwing

theorem Safe.bind {next : α → Program interface β} {then' : β → environment.World → Prop}
    {between : α → environment.World → Prop}
    (safe : discipline.Safe process between throws program knows)
    (rest : ∀ value, discipline.Safe process then' throws (next value) (between value)) :
    discipline.Safe process then' throws (program >>= next) knows := by
  induction program generalizing knows with
  | done value => exact (rest value).weaken safe
  | thrown error => exact safe
  | await request resume ih =>
    intro world holds known
    obtain ⟨permitted, answers⟩ := safe world holds known
    refine ⟨permitted, fun choice => ?_⟩
    obtain ⟨learned, stable, learns, continues⟩ := answers choice
    exact ⟨learned, stable, learns, ih _ continues⟩

theorem Safe.recover {handler : interface.Error → Program interface α}
    {caught : interface.Error → environment.World → Prop}
    (safe : discipline.Safe process returns caught program knows)
    (handles : ∀ error, discipline.Safe process returns throws (handler error) (caught error)) :
    discipline.Safe process returns throws (tryCatch program handler) knows := by
  induction program generalizing knows with
  | done value => exact safe
  | thrown error => exact (handles error).weaken safe
  | await request resume ih =>
    intro world holds known
    obtain ⟨permitted, answers⟩ := safe world holds known
    refine ⟨permitted, fun choice => ?_⟩
    obtain ⟨learned, stable, learns, continues⟩ := answers choice
    exact ⟨learned, stable, learns, ih _ continues⟩

/-- What is known after either outcome. -/
def outcome (returns : α → environment.World → Prop)
    (throws : interface.Error → environment.World → Prop) :
    Except interface.Error α → environment.World → Prop
  | .ok value => returns value
  | .error error => throws error

theorem Safe.attempt (safe : discipline.Safe process returns throws program knows) :
    discipline.Safe process (outcome returns throws) throws' (attempt program) knows := by
  have returned : discipline.Safe process (outcome returns throws) throws
      (program >>= fun value => Pure.pure (Except.ok value)) knows :=
    safe.bind fun _ => Safe.pure fun _ _ known => known
  exact returned.recover fun _ => Safe.pure fun _ _ known => known

/-- One call: it is permitted, and each of its answers teaches something stable. -/
theorem Safe.call {request : interface.Call}
    {answers : interface.Answer request → environment.World → Prop}
    (permits : ∀ world, discipline.Holds world → knows world →
      discipline.Permits process request world)
    (answersStable : ∀ answer, discipline.Stable process (answers answer))
    (throwsStable : ∀ error, discipline.Stable process (throws error))
    (learns : ∀ world choice, discipline.Holds world → knows world →
      match environment.perform process choice request world with
      | (.ok answer, after) => answers answer after
      | (.error error, after) => throws error after) :
    discipline.Safe process answers throws (call request) knows := by
  intro world holds known
  refine ⟨permits world holds known, fun choice => ?_⟩
  have learned := learns world choice holds known
  generalize environment.perform process choice request world = answered at learned ⊢
  obtain ⟨error | answer, after⟩ := answered
  · exact ⟨throws error, throwsStable error, learned, fun _ _ thrown => thrown⟩
  · exact ⟨answers answer, answersStable answer, learned, fun _ _ returned => returned⟩

theorem Safe.lift {result : Except interface.Error α}
    (returning : ∀ value, result = .ok value → ∀ world, discipline.Holds world → knows world →
      returns value world)
    (throwing : ∀ error, result = .error error → ∀ world, discipline.Holds world → knows world →
      throws error world) :
    discipline.Safe process returns throws (lift result) knows := by
  cases result with
  | ok value => exact returning value rfl
  | error error => exact throwing error rfl

/-- What is known of something may be known of any particular one. -/
theorem Safe.of_exists {ι : Sort*} {knows : ι → environment.World → Prop}
    (safe : ∀ index, discipline.Safe process returns throws program (knows index)) :
    discipline.Safe process returns throws program fun world => ∃ index, knows index world := by
  cases program with
  | done value | thrown error | await request resume =>
    exact fun world holds ⟨index, known⟩ => safe index world holds known

/-- What is known regardless of the world may be assumed. -/
theorem Safe.of_fact {fact : Prop}
    (safe : fact → discipline.Safe process returns throws program knows) :
    discipline.Safe process returns throws program fun world => fact ∧ knows world :=
  (Safe.of_exists safe).weaken fun _ _ known => ⟨known.1, known.2⟩

end Rules

variable {state : State environment α}

section Soundness

variable {discipline} {Launch : Type} {body : environment.Process → Launch → Program interface α}

/-- The discipline holds, and every process is safe from something it still knows. -/
structure Sound (discipline : Discipline environment) (state : State environment α) : Prop where
  holds : discipline.Holds state.world
  safe : ∀ process program, state.programs process = some program →
    ∃ knows, discipline.Stable process knows ∧ knows state.world ∧
      discipline.Safe process (fun _ _ => True) (fun _ _ => True) program knows

/-- Every program that can be launched is safe knowing nothing. -/
def SafeBody (discipline : Discipline environment)
    (body : environment.Process → Launch → Program interface α) : Prop :=
  ∀ process input, discipline.Safe process (fun _ _ => True) (fun _ _ => True)
    (body process input) fun _ => True

theorem sound_start {world : environment.World} (holds : discipline.Holds world) :
    discipline.Sound (start world : State environment α) :=
  ⟨holds, fun _ _ => nofun⟩

/-- A waiting process waits for a permitted call. -/
theorem Sound.permits (sound : discipline.Sound state) {request : interface.Call}
    {resume : Except interface.Error (interface.Answer request) → Program interface α}
    (waiting : state.programs process = some (.await request resume)) :
    discipline.Permits process request state.world := by
  obtain ⟨knows, -, known, safe⟩ := sound.safe process _ waiting
  exact (safe state.world sound.holds known).1

variable [DecidableEq environment.Process]

/-- One event: nothing happens to the world, or one actor acts. -/
theorem step_effect (sound : discipline.Sound state) (event : Event environment Launch) :
    (step body state event).world = state.world ∨
      ∃ actor, discipline.Effect actor state.world (step body state event).world := by
  cases event with
  | launch process input => exact .inl rfl
  | change change => exact .inr ⟨none, discipline.evolve_effect sound.holds⟩
  | advance process choice =>
    simp only [step]
    split
    · next request resume waiting =>
        exact .inr ⟨some process, discipline.perform_effect sound.holds (sound.permits waiting)⟩
    · exact .inl rfl

theorem sound_step (safeBody : discipline.SafeBody body) (sound : discipline.Sound state)
    (event : Event environment Launch) :
    discipline.Sound (step body state event) := by
  cases event with
  | launch process input =>
    refine ⟨sound.holds, fun other program running => ?_⟩
    by_cases same : other = process
    · subst same
      simp only [step, Function.update_self, Option.some.injEq] at running
      subst running
      exact ⟨_, stable_true, trivial, safeBody other input⟩
    · simp only [step, ne_eq, same, not_false_eq_true, Function.update_of_ne] at running
      exact sound.safe other program running
  | change change =>
    refine ⟨discipline.evolve_holds sound.holds, fun other program running => ?_⟩
    obtain ⟨knows, stable, known, safe⟩ := sound.safe other program running
    exact ⟨knows, stable, stable none nofun _ _ sound.holds
      (discipline.evolve_effect sound.holds) known, safe⟩
  | advance process choice =>
    simp only [step]
    split
    · next request resume waiting =>
        have permitted := sound.permits waiting
        obtain ⟨knows, -, known, safe⟩ := sound.safe process _ waiting
        obtain ⟨learned, stable, learns, continues⟩ := (safe _ sound.holds known).2 choice
        refine ⟨discipline.perform_holds sound.holds permitted, fun other program running => ?_⟩
        by_cases same : other = process
        · subst same
          simp only [Function.update_self, Option.some.injEq] at running
          subst running
          exact ⟨learned, stable, learns, continues⟩
        · -- What the other processes know survives the step of this one.
          simp only [ne_eq, same, not_false_eq_true, Function.update_of_ne] at running
          obtain ⟨knows, stable, known, safe⟩ := sound.safe other program running
          refine ⟨knows, stable, ?_, safe⟩
          exact stable (some process) (fun clash => same (Option.some.inj clash).symm) _ _
            sound.holds (discipline.perform_effect sound.holds permitted) known
    · exact sound

theorem sound_run (safeBody : discipline.SafeBody body) (sound : discipline.Sound state)
    (events : List (Event environment Launch)) :
    discipline.Sound (run body state events) := by
  induction events generalizing state with
  | nil => exact sound
  | cons event rest ih => exact ih (sound_step safeBody sound event)

/-- What no actor can undo is never undone. -/
theorem persistent_run (safeBody : discipline.SafeBody body) (sound : discipline.Sound state)
    {kept : environment.World → Prop} (persistent : discipline.Persistent kept)
    (now : kept state.world) (events : List (Event environment Launch)) :
    kept (run body state events).world := by
  induction events generalizing state with
  | nil => exact now
  | cons event rest ih =>
    refine ih (sound_step safeBody sound event) ?_
    rcases step_effect sound event with same | ⟨actor, effect⟩
    · exact same ▸ now
    · exact persistent actor _ _ sound.holds effect now

end Soundness

end Discipline

end SolTokenListener.Lib.Interleaving
