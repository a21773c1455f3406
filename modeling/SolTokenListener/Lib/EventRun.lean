import Mathlib.Data.List.Induction

/-!
# Runs of a system that takes one event at a time

A system with a step function takes a list of events. A fact of every state of a run is carried by an
invariant that one step keeps, a fact between the ends of a run by a preorder that one step follows.
-/

namespace SolTokenListener.Lib.EventRun

variable {State Event : Type} (step : State → Event → State) (state : State) (events : List Event)

/-- The state after the events. -/
def run : State :=
  events.foldl step state

/-- The condition holds in every state of the run, the first and the last included. -/
def Always (holds : State → Prop) : State → List Event → Prop
  | state, [] => holds state
  | state, event :: events => holds state ∧ Always holds (step state event) events

instance decidableAlways (holds : State → Prop) [DecidablePred holds] :
    ∀ state events, Decidable (Always step holds state events)
  | state, [] => inferInstanceAs (Decidable (holds state))
  | state, event :: events =>
    have := decidableAlways holds (step state event) events
    inferInstanceAs (Decidable (holds state ∧ Always step holds (step state event) events))

theorem run_append (more : List Event) :
    run step state (events ++ more) = run step (run step state events) more := by
  simp only [run, List.foldl_append]

/-- The state after the first `k` events. -/
def stateAt (k : Nat) : State :=
  run step state (events.take k)

theorem stateAt_of_le {k : Nat} {events : List Event} (within : k ≤ events.length) (state : State)
    (more : List Event) : stateAt step state (events ++ more) k = stateAt step state events k := by
  rw [stateAt, List.take_append_of_le_length within, stateAt]

theorem stateAt_length (more : List Event) :
    stateAt step state (events ++ more) events.length = run step state events := by
  rw [stateAt_of_le step (Nat.le_refl _), stateAt, List.take_length]

theorem stateAt_succ_length (event : Event) :
    stateAt step state (events ++ [event]) (events.length + 1) =
      step (run step state events) event := by
  rw [stateAt, List.take_of_length_le (by simp), run_append]
  rfl

variable {step}

/-- What holds of no events and is kept when one more comes holds of every run and its events. -/
theorem run_history (holds : List Event → State → Prop) {state : State} (first : holds [] state)
    (keeps : ∀ events event, holds events (run step state events) →
      holds (events ++ [event]) (step (run step state events) event)) (events : List Event) :
    holds events (run step state events) := by
  induction events using List.reverseRecOn with
  | nil => exact first
  | append_singleton events event ih =>
    rw [run_append]
    exact keeps events event ih

/-- Every state of a run has what its first state has and one step keeps. -/
theorem run_invariant {invariant : State → Prop}
    (keeps : ∀ state event, invariant state → invariant (step state event)) {state : State}
    (first : invariant state) (events : List Event) : invariant (run step state events) := by
  induction events generalizing state with
  | nil => exact first
  | cons event events ih => exact ih (keeps state event first)

theorem Always.first {holds : State → Prop} {state : State} {events : List Event}
    (always : Always step holds state events) : holds state := by
  cases events with
  | nil => exact always
  | cons event events => exact always.1

/-- The same for a step that keeps the invariant only between states that meet the condition. -/
theorem run_invariant_of_always {holds invariant : State → Prop}
    (keeps : ∀ state event, holds state → holds (step state event) → invariant state →
      invariant (step state event))
    {state : State} (first : invariant state) {events : List Event}
    (always : Always step holds state events) : invariant (run step state events) := by
  induction events generalizing state with
  | nil => exact first
  | cons event events ih => exact ih (keeps state event always.1 always.2.first first) always.2

/-- The ends of a run are related as the ends of each of its steps are. -/
theorem run_related {related : State → State → Prop} (refl : ∀ state, related state state)
    (trans : ∀ {first second third}, related first second → related second third →
      related first third)
    (steps : ∀ state event, related state (step state event)) (state : State)
    (events : List Event) : related state (run step state events) := by
  induction events generalizing state with
  | nil => exact refl state
  | cons event events ih => exact trans (steps state event) (ih (step state event))

theorem stateAt_related {related : State → State → Prop} (refl : ∀ state, related state state)
    (trans : ∀ {first second third}, related first second → related second third →
      related first third)
    (steps : ∀ state event, related state (step state event)) (state : State)
    (events : List Event) {i k : Nat} (before : i ≤ k) :
    related (stateAt step state events i) (stateAt step state events k) := by
  have split : events.take k = events.take i ++ (events.drop i).take (k - i) := by
    rw [← List.take_add, Nat.add_sub_cancel' before]
  rw [stateAt, stateAt, split, run_append]
  exact run_related refl trans steps _ _

end SolTokenListener.Lib.EventRun
