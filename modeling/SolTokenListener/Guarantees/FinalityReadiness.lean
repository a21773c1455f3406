import SolTokenListener.Lib.EventRun
import SolTokenListener.Source.RecurringFinality

/-!
# Finality readiness is never stale

The revision of the selector grows with every change of the selection, so that a pass that began and ended
at one revision had one selection all along, whatever was promoted and cleared meanwhile. Readiness is
granted by such a pass only, and lost with the selection. Passes follow one another because a timer is set
only once the previous pass is over; each call of `start` begins such a chain of its own.
-/

namespace SolTokenListener.Guarantees.FinalityReadiness

open Lib.EventRun Source.RecurringFinality
open Source.StrictCatchUp (RpcProviderId)

variable {options : RecurringFinalityOptions} {state after : Reconciler} {event : Event}
  {selection : PromotedProviderSelection} {id : Nat}

/-! ## What one event does -/

/-- A `runOnce` of this operation is awaited. -/
def PassPending (state : Reconciler) (id : Nat) : Prop :=
  ∃ caller selection, state.operations[id]? = some { caller := caller, phase := .running selection }

/-- Readiness stays what it was or is lost. -/
def KeepsOrLoses (before after : Reconciler) : Prop :=
  after.currentReadySelection = before.currentReadySelection ∨ after.currentReadySelection = none

/-- What an event can do to the operations, the timers and the readiness. -/
inductive Moves (before after : Reconciler) : Event → Prop
  | quiet {event : Event} (operations : after.operations = before.operations)
      (timers : after.timers.length ≤ before.timers.length) (ready : KeepsOrLoses before after) :
      Moves before after event
  | launched {event : Event} (op : Operation) (isOpen : before.closed = false)
      (operations : after.operations = before.operations ++ [op])
      (phase : ∀ selection, op.phase = .running (some selection) →
        before.selector.selection = selection)
      (timers : event = .start ∧ after.timers = before.timers ∨
        after.timers.length + 1 = before.timers.length)
      (ready : after.currentReadySelection = none) : Moves before after event
  | settled (id : Nat) (succeeded : Bool) (caller : Caller)
      (awaited : Option PromotedProviderSelection) (phase : OperationPhase)
      (running : before.operations[id]? = some { caller := caller, phase := .running awaited })
      (finished : phase = .resolved ∨ phase = .rejected)
      (operations : after.operations = before.operations.set id { caller := caller, phase := phase })
      (timers : after.timers = before.timers)
      (ready : after.currentReadySelection = before.currentReadySelection ∨
        succeeded = true ∧ before.closed = false ∧ awaited = some before.selector.selection ∧
          after.currentReadySelection = awaited) :
      Moves before after (.passResult id succeeded)
  | handled (id : Nat) (op : Operation) (throws : Bool) (found : before.operations[id]? = some op)
      (finished : op.phase = .resolved ∨ op.phase = .rejected)
      (operations : after.operations =
        before.operations.set id { op with phase := .handled throws })
      (timers : after.timers.length ≤ before.timers.length + 1) (ready : KeepsOrLoses before after) :
      Moves before after (.handle id)

theorem runCurrentPass_moves (before : Reconciler) (caller : Caller)
    (selector : state.selector = before.selector) (operations : state.operations = before.operations)
    (isOpen : before.closed = false)
    (timers : event = .start ∧ state.timers = before.timers ∨
      state.timers.length + 1 = before.timers.length) :
    Moves before (runCurrentPass options state caller) event := by
  refine .launched _ isOpen (by rw [runCurrentPass, operations]) ?_ timers rfl
  intro selection phase
  grind

variable {caller : Caller} {awaited : Option PromotedProviderSelection}

theorem passResult_moves
    (running : state.operations[id]? = some { caller := caller, phase := .running awaited })
    (succeeded : Bool) :
    Moves state
      (passResult state id { caller := caller, phase := .running awaited } awaited succeeded)
      (.passResult id succeeded) := by
  unfold passResult
  cases succeeded with
  | false => exact .settled id _ caller awaited .rejected running (.inr rfl) rfl rfl (.inl rfl)
  | true =>
    cases awaited with
    | none => exact .settled id _ caller none .resolved running (.inl rfl) rfl rfl (.inl rfl)
    | some selection =>
      rw [if_neg (by decide)]
      dsimp only
      split
      case isTrue changed =>
        exact .settled id _ caller _ .rejected running (.inr rfl) rfl rfl (.inl rfl)
      case isFalse same =>
        have same := Decidable.not_not.mp same
        split
        case isTrue isOpen =>
          refine .settled id _ caller _ .resolved running (.inl rfl) rfl rfl (.inr ?_)
          exact ⟨rfl, by simpa [setPhase] using isOpen, by rw [same], rfl⟩
        case isFalse closed =>
          exact .settled id _ caller _ .resolved running (.inl rfl) rfl rfl (.inl rfl)

theorem handle_moves {op : Operation} (found : state.operations[id]? = some op)
    (finished : op.phase = .resolved ∨ op.phase = .rejected) (succeeded : Bool) :
    Moves state (handle options state id op succeeded) (.handle id) := by
  apply Moves.handled id op (!succeeded && op.caller == .start
    && options.initialFailureMode == .FAIL_START) found finished
  case operations => grind [handle, schedule, setPhase]
  case timers => grind [handle, schedule, setPhase]
  case ready => grind [handle, schedule, setPhase, KeepsOrLoses]

theorem currentReadySelectionIfCurrent_moves :
    Moves state (currentReadySelectionIfCurrent options state).2 event := by
  apply Moves.quiet <;> grind [currentReadySelectionIfCurrent, KeepsOrLoses]

theorem close_moves : Moves state (close state) event := by
  apply Moves.quiet <;> grind [close, KeepsOrLoses]

theorem closeResult_moves (timeout : Bool) : Moves state (closeResult state timeout) event := by
  apply Moves.quiet <;> grind [closeResult, KeepsOrLoses]

theorem step_moves (options : RecurringFinalityOptions) (state : Reconciler) (event : Event) :
    Moves state (step options state event) event := by
  cases event with
  | promote providerId => exact .quiet rfl (Nat.le_refl _) (.inl rfl)
  | clear providerId => exact .quiet rfl (Nat.le_refl _) (.inl rfl)
  | start =>
    dsimp only [step, start]
    split
    · exact .quiet rfl (Nat.le_refl _) (.inl rfl)
    · next isOpen =>
      exact runCurrentPass_moves state .start rfl rfl (by simpa using isOpen) (.inl ⟨rfl, rfl⟩)
  | tick timer =>
    dsimp only [step]
    split
    case isTrue held =>
      have erased := List.length_erase_of_mem held
      have positive := List.length_pos_of_mem held
      dsimp only [tick]
      split
      · exact .quiet rfl (by dsimp only; omega) (.inl rfl)
      · next isOpen =>
        exact runCurrentPass_moves state .timer rfl rfl (by simpa using isOpen)
          (.inr (by dsimp only; omega))
    case isFalse absent => exact .quiet rfl (Nat.le_refl _) (.inl rfl)
  | passResult id succeeded =>
    dsimp only [step]
    split
    case h_1 op found =>
      obtain ⟨caller, phase⟩ := op
      cases phase with
      | running awaited => exact passResult_moves found succeeded
      | _ => exact .quiet rfl (Nat.le_refl _) (.inl rfl)
    case h_2 absent => exact .quiet rfl (Nat.le_refl _) (.inl rfl)
  | handle id =>
    dsimp only [step]
    split
    case h_1 op found =>
      split
      case h_1 resolved => exact handle_moves found (.inl resolved) true
      case h_2 rejected => exact handle_moves found (.inr rejected) false
      case h_3 => exact .quiet rfl (Nat.le_refl _) (.inl rfl)
    case h_2 absent => exact .quiet rfl (Nat.le_refl _) (.inl rfl)
  | isReadyFor selection => exact currentReadySelectionIfCurrent_moves
  | readyProviderId => exact currentReadySelectionIfCurrent_moves
  | close => exact close_moves
  | closeResult timeout => exact closeResult_moves timeout

/-- An operation that is awaited was awaited already, or this event begins its pass. -/
theorem running_step (running : (step options state event).operations[id]? =
      some { caller := caller, phase := .running awaited }) :
    state.operations[id]? = some { caller := caller, phase := .running awaited } ∨
      (state.closed = false ∧ state.operations.length = id ∧
        ∀ selection, awaited = some selection → state.selector.selection = selection) := by
  cases step_moves options state event with
  | quiet operations timers ready => exact .inl (operations ▸ running)
  | launched op isOpen operations phase timers ready =>
    rw [operations] at running
    rcases Nat.lt_trichotomy id state.operations.length with old | new | beyond
    · rw [List.getElem?_append_left old] at running
      exact .inl running
    · rw [new, List.getElem?_concat_length] at running
      refine .inr ⟨isOpen, new.symm, ?_⟩
      rintro selection rfl
      exact phase selection (by rw [Option.some.inj running])
    · rw [List.getElem?_eq_none (by simp; omega)] at running
      cases running
  | settled other succeeded caller' earlier phase found finished operations timers ready => grind
  | handled other op throws found finished operations timers ready => grind

/-- What only the selector's own calls and `close` change. -/
structure Frame (before after : Reconciler) : Prop where
  selector : after.selector = before.selector
  closed : after.closed = before.closed
  closePromise : after.closePromise = before.closePromise

theorem passResult_frame (op : Operation) (awaited : Option PromotedProviderSelection)
    (succeeded : Bool) : Frame state (passResult state id op awaited succeeded) := by
  cases awaited <;> constructor <;> grind [passResult, setPhase]

theorem handle_frame (op : Operation) (succeeded : Bool) :
    Frame state (handle options state id op succeeded) := by
  constructor <;> grind [handle, schedule, setPhase]

theorem currentReadySelectionIfCurrent_frame :
    Frame state (currentReadySelectionIfCurrent options state).2 := by
  constructor <;> grind [currentReadySelectionIfCurrent]

theorem step_frame (options : RecurringFinalityOptions) (state : Reconciler) (event : Event) :
    (event ≠ .close ∧ Frame state (step options state event)) ∨
      (∃ providerId, event = .promote providerId) ∨ (∃ providerId, event = .clear providerId) ∨
      event = .close ∨ ∃ timeout, event = .closeResult timeout := by
  cases event with
  | promote providerId => exact .inr (.inl ⟨providerId, rfl⟩)
  | clear providerId => exact .inr (.inr (.inl ⟨providerId, rfl⟩))
  | close => exact .inr (.inr (.inr (.inl rfl)))
  | closeResult timeout => exact .inr (.inr (.inr (.inr ⟨timeout, rfl⟩)))
  | start => exact .inl ⟨nofun, by constructor <;> grind [step, start, runCurrentPass]⟩
  | tick timer => exact .inl ⟨nofun, by constructor <;> grind [step, tick, runCurrentPass]⟩
  | passResult id succeeded => exact .inl ⟨nofun, by grind [step, passResult_frame, Frame]⟩
  | handle id => exact .inl ⟨nofun, by grind [step, handle_frame, Frame]⟩
  | isReadyFor selection => exact .inl ⟨nofun, currentReadySelectionIfCurrent_frame⟩
  | readyProviderId => exact .inl ⟨nofun, currentReadySelectionIfCurrent_frame⟩

/-- The revision never falls, and at one revision there is one selection. -/
def Follows (before after : Reconciler) : Prop :=
  before.selector.revision ≤ after.selector.revision ∧
    (before.selector.revision = after.selector.revision →
      before.selector.selection = after.selector.selection)

theorem step_follows (options : RecurringFinalityOptions) (state : Reconciler) (event : Event) :
    Follows state (step options state event) := by
  have unchanged : ∀ after : Reconciler, after.selector = state.selector → Follows state after := by
    intro after same
    rw [Follows, same]
    exact ⟨Nat.le_refl _, fun _ => rfl⟩
  rcases step_frame options state event with ⟨_, frame⟩ | ⟨_, rfl⟩ | ⟨_, rfl⟩ | rfl | ⟨timeout, rfl⟩
  · exact unchanged _ frame.selector
  · grind [step, Follows, PromotedProviderSelector.promote]
  · grind [step, Follows, PromotedProviderSelector.clear]
  · exact unchanged _ (by grind [step, close])
  · exact unchanged _ (by grind [step, closeResult])

/-- `close` was called exactly if the reconciler is closed, and then it is ready for nothing. -/
structure Closing (events : List Event) (state : Reconciler) : Prop where
  closed_iff : state.closed = true ↔ .close ∈ events
  called : state.closePromise ≠ .notCalled → state.closed = true
  unready : state.closed = true → state.currentReadySelection = none

theorem step_unready (unready : state.closed = true → state.currentReadySelection = none)
    (closed : state.closed = true) :
    (step options state event).currentReadySelection = none := by
  have lost := unready closed
  cases step_moves options state event with
  | quiet operations timers ready => rcases ready with same | none <;> simp_all
  | launched op isOpen operations phase timers ready => exact ready
  | settled id succeeded caller awaited phase running finished operations timers ready =>
    rcases ready with same | ⟨_, isOpen, _⟩ <;> simp_all
  | handled id op throws found finished operations timers ready =>
    rcases ready with same | none <;> simp_all

theorem step_closing {events : List Event} (closing : Closing events state) :
    Closing (events ++ [event]) (step options state event) := by
  obtain ⟨closed_iff, called, unready⟩ := closing
  have kept : state.closed = true → (step options state event).currentReadySelection = none :=
    step_unready unready
  rcases step_frame options state event with
    ⟨other, frame⟩ | ⟨_, rfl⟩ | ⟨_, rfl⟩ | rfl | ⟨timeout, rfl⟩
  · constructor <;> grind [frame.closed, frame.closePromise]
  · constructor <;> grind [step]
  · constructor <;> grind [step]
  · constructor <;> grind [step, close]
  · constructor <;> grind [step, closeResult]

/-! ## Passes follow one another -/

def isActive (operation : Operation) : Bool :=
  match operation.phase with
  | .handled _ => false
  | _ => true

/-- Timers and operations that a call of `start` has led to and that are not over. -/
def chains (state : Reconciler) : Nat :=
  state.timers.length + state.operations.countP isActive

theorem countP_set_active {operations : List Operation} {op : Operation}
    (found : operations[id]? = some op) (new : Operation) :
    (operations.set id new).countP isActive + (if isActive op then 1 else 0) =
      operations.countP isActive + (if isActive new then 1 else 0) := by
  induction operations generalizing id with
  | nil => simp at found
  | cons first rest ih =>
    cases id with
    | zero =>
      obtain rfl : first = op := by simpa using found
      simp only [List.set_cons_zero, List.countP_cons]
      omega
    | succ id =>
      have rest_count := ih (by simpa using found)
      simp only [List.set_cons_succ, List.countP_cons]
      omega

theorem step_chains (options : RecurringFinalityOptions) (state : Reconciler) (event : Event) :
    chains (step options state event) ≤ chains state + [event].count .start := by
  cases step_moves options state event with
  | quiet operations timers ready =>
    rw [chains, operations]
    exact Nat.le_add_right_of_le (Nat.add_le_add_right timers _)
  | launched op isOpen operations phase timers ready =>
    have one : [op].countP isActive ≤ 1 := List.countP_le_length
    rw [chains, operations, List.countP_append]
    rcases timers with ⟨rfl, same⟩ | fewer
    · rw [same, chains, List.count_singleton_self]
      omega
    · rw [chains]
      omega
  | settled id succeeded caller awaited phase running finished operations timers ready =>
    have counted := countP_set_active running { caller := caller, phase := phase }
    have before : isActive { caller := caller, phase := .running awaited } = true := rfl
    have after : isActive { caller := caller, phase := phase } = true := by
      rcases finished with rfl | rfl <;> rfl
    rw [before, after] at counted
    rw [chains, operations, timers, chains]
    omega
  | handled id op throws found finished operations timers ready =>
    have counted := countP_set_active found { op with phase := .handled throws }
    have before : isActive op = true := by
      rcases finished with phase | phase <;> simp only [isActive, phase]
    have after : isActive { op with phase := .handled throws } = false := rfl
    rw [before, after, if_pos rfl, if_neg Bool.false_ne_true] at counted
    rw [chains, operations, chains]
    omega

/-- Operations whose `runOnce` is awaited. -/
def pendingPasses (state : Reconciler) : Nat :=
  state.operations.countP fun operation =>
    match operation.phase with
    | .running _ => true
    | _ => false

theorem pendingPasses_le_chains (state : Reconciler) : pendingPasses state ≤ chains state := by
  have active : pendingPasses state ≤ state.operations.countP isActive := by
    refine List.countP_mono_left ?_
    intro operation _ pending
    obtain ⟨caller, phase⟩ := operation
    cases phase <;> first | rfl | exact absurd pending Bool.false_ne_true
  exact Nat.le_trans active (Nat.le_add_left _ _)

/-! ## What readiness rests on -/

section Histories

variable (options : RecurringFinalityOptions) (passes : List RpcProviderId) (events : List Event)

/-- The state after the events. -/
def reached : Reconciler := run (step options) (created passes) events

/-- The state before the event with this index. -/
def before (k : Nat) : Reconciler := stateAt (step options) (created passes) events k

/-- The event with this index begins the pass, with this selection. -/
structure Begins (id : Nat) (selection : PromotedProviderSelection) (first : Nat) : Prop where
  within : first < events.length
  fresh : ¬ PassPending (before options passes events first) id
  pending : PassPending (before options passes events (first + 1)) id
  selected : (before options passes events first).selector.selection = selection

/-- The event with this index ends the pass with success, with this selection. -/
structure Succeeds (id : Nat) (selection : PromotedProviderSelection) (last : Nat) : Prop where
  event : events[last]? = some (.passResult id true)
  pending : PassPending (before options passes events last) id
  selected : (before options passes events last).selector.selection = selection

/-- A pass began and ended with success, and the selection was this one from its beginning to its end. -/
structure WholePass (id : Nat) (selection : PromotedProviderSelection) (first last : Nat) : Prop where
  begins : Begins options passes events id selection first
  succeeds : Succeeds options passes events id selection last
  order : first < last
  throughout : ∀ k, first ≤ k → k ≤ last → (before options passes events k).selector.selection = selection

end Histories

variable {passes : List RpcProviderId} {events : List Event} {first last : Nat}

theorem reached_history (holds : List Event → Reconciler → Prop)
    (start : holds [] (created passes))
    (keeps : ∀ events event, holds events (reached options passes events) →
      holds (events ++ [event]) (step options (reached options passes events) event))
    (events : List Event) : holds events (reached options passes events) :=
  run_history holds start keeps events

theorem before_append {k : Nat} (within : k ≤ events.length) (event : Event) :
    before options passes (events ++ [event]) k = before options passes events k :=
  stateAt_of_le _ within _ _

theorem Begins.append (begins : Begins options passes events id selection first) (event : Event) :
    Begins options passes (events ++ [event]) id selection first := by
  obtain ⟨within, fresh, pending, selected⟩ := begins
  have earlier := @before_append options passes _ _ (Nat.le_of_lt within) event
  have later := @before_append options passes _ _ within event
  exact ⟨by simp; omega, by rwa [earlier], by rwa [later], by rwa [earlier]⟩

theorem Succeeds.append (succeeds : Succeeds options passes events id selection last)
    (event : Event) : Succeeds options passes (events ++ [event]) id selection last := by
  obtain ⟨at_last, pending, selected⟩ := succeeds
  have within : last < events.length := (List.getElem?_eq_some_iff.mp at_last).1
  have same := @before_append options passes _ _ (Nat.le_of_lt within) event
  exact ⟨by rwa [List.getElem?_append_left within], by rwa [same], by rwa [same]⟩

variable (options passes events) in
theorem run_chains : chains (reached options passes events) ≤ events.count .start := by
  refine reached_history (fun events state => chains state ≤ events.count .start) ?_ ?_ events
  · exact Nat.le_refl 0
  intro events event bounded
  have one := step_chains options (reached options passes events) event
  rw [List.count_append]
  omega

theorem follows_trans {one two three : Reconciler} (left : Follows one two)
    (right : Follows two three) : Follows one three := by
  grind [Follows]

/-- At equal selections the revision did not move, so that neither did the selection between them. -/
theorem selection_between {i j k : Nat} (lower : i ≤ k) (upper : k ≤ j)
    (start : (before options passes events i).selector.selection = selection)
    (finish : (before options passes events j).selector.selection = selection) :
    (before options passes events k).selector.selection = selection := by
  have follows : ∀ {m n}, m ≤ n →
      Follows (before options passes events m) (before options passes events n) := by
    intro m n le
    exact @stateAt_related _ _ _ Follows (fun state => ⟨Nat.le_refl _, fun _ => rfl⟩)
      follows_trans (step_follows options) _ _ _ _ le
  grind [Follows, PromotedProviderSelector.selection]

variable (options passes events) in
/-- A pass began and succeeded with this selection. -/
def GrantedBy (selection : PromotedProviderSelection) : Prop :=
  ∃ id first last, first < last ∧ Begins options passes events id selection first ∧
    Succeeds options passes events id selection last

theorem GrantedBy.append (granted : GrantedBy options passes events selection) (event : Event) :
    GrantedBy options passes (events ++ [event]) selection := by
  obtain ⟨id, first, last, order, begins, succeeds⟩ := granted
  exact ⟨id, first, last, order, begins.append event, succeeds.append event⟩

variable (options passes events) in
/-- Every awaited pass has begun, and readiness was granted by a pass that began and succeeded. -/
structure Granted (state : Reconciler) : Prop where
  awaited : ∀ id caller selection,
    state.operations[id]? = some { caller := caller, phase := .running (some selection) } →
      ∃ first, Begins options passes events id selection first
  ready : ∀ selection, state.currentReadySelection = some selection →
    GrantedBy options passes events selection

variable (options passes events) in
/-- The state that the next event finds. -/
theorem before_length (event : Event) :
    before options passes (events ++ [event]) events.length =
      reached options passes events :=
  stateAt_length _ _ _ _

theorem awaited_step (granted : Granted options passes events (reached options passes events))
    (running : (step options (reached options passes events) event).operations[id]? =
      some { caller := caller, phase := .running (some selection) }) :
    ∃ first, Begins options passes (events ++ [event]) id selection first := by
  rcases running_step running with earlier | ⟨_, new, current⟩
  · obtain ⟨first, begins⟩ := granted.awaited id caller selection earlier
    exact ⟨first, begins.append event⟩
  · have here := before_length options passes events event
    have next := stateAt_succ_length (step options) (created passes) events event
    refine ⟨events.length, by simp, ?_, ⟨caller, some selection, ?_⟩, ?_⟩
    · rw [here]
      rintro ⟨_, _, found⟩
      simp [← new] at found
    · rw [← running]
      exact congrArg (fun state : Reconciler => state.operations[id]?) next
    · rw [here]
      exact current selection rfl

theorem ready_step (granted : Granted options passes events (reached options passes events))
    (ready : (step options (reached options passes events) event).currentReadySelection =
      some selection) : GrantedBy options passes (events ++ [event]) selection := by
  have kept : KeepsOrLoses (reached options passes events)
      (step options (reached options passes events) event) →
        GrantedBy options passes (events ++ [event]) selection := by
    rintro (same | lost)
    · exact (granted.ready selection (same ▸ ready)).append event
    · rw [lost] at ready
      cases ready
  cases step_moves options (reached options passes events) event with
  | quiet operations timers change => exact kept change
  | launched op isOpen operations phase timers lost => exact kept (.inr lost)
  | handled id op throws found finished operations timers change => exact kept change
  | settled id succeeded caller awaited phase running finished operations timers change =>
    rcases change with same | ⟨rfl, _, current, granting⟩
    · exact kept (.inl same)
    · obtain rfl : awaited = some selection := by rw [← granting, ready]
      obtain ⟨first, begins⟩ := granted.awaited id caller selection running
      have here := before_length options passes events (.passResult id true)
      refine ⟨id, first, events.length, begins.within, begins.append _, by simp, ?_, ?_⟩
      · rw [here]
        exact ⟨caller, some selection, running⟩
      · rw [here]
        exact (Option.some.inj current).symm

variable (options passes events) in
theorem run_granted : Granted options passes events (reached options passes events) := by
  refine reached_history (fun events state => Granted options passes events state) ?_ ?_ events
  · exact ⟨nofun, nofun⟩
  · intro events event granted
    exact ⟨fun _ _ _ => awaited_step granted, fun _ => ready_step granted⟩

/-! ## Readiness -/

theorem isReadyFor_eq_true (ready : (isReadyFor options state selection).1 = true) :
    state.currentReadySelection = some selection ∧ state.selector.selection = selection := by
  grind [isReadyFor, currentReadySelectionIfCurrent]

variable (options passes events) in
theorem run_closing : Closing events (reached options passes events) := by
  refine reached_history (fun events state => Closing events state) ?_ ?_ events
  · constructor <;> simp [created]
  · intro events event closing
    exact step_closing closing

/-- Nothing begins a pass of a closed reconciler. -/
theorem step_closed_begins (closed : state.closed = true) (fresh : ¬ PassPending state id) :
    ¬ PassPending (step options state event) id := by
  rintro ⟨caller, awaited, running⟩
  rcases running_step running with earlier | ⟨isOpen, _⟩
  · exact fresh ⟨caller, awaited, earlier⟩
  · rw [closed] at isOpen
    cases isOpen

/-- A reconciler is ready for a selection only while it is the current one and after a whole pass with
it, passes do not overlap when `start` is called once, and after `close` none begins and it is ready for
nothing. -/
theorem readiness_never_stale (options : RecurringFinalityOptions) (passes : List RpcProviderId)
    (events : List Event) :
    (∀ selection,
      (isReadyFor options (reached options passes events) selection).1 = true →
        (reached options passes events).selector.selection = selection ∧
          ∃ id first last, WholePass options passes events id selection first last) ∧
    (events.count .start ≤ 1 →
      pendingPasses (reached options passes events) ≤ 1) ∧
    (.close ∈ events →
      (∀ selection,
        (isReadyFor options (reached options passes events) selection).1 = false) ∧
      ∀ event id, ¬ PassPending (reached options passes events) id →
        ¬ PassPending (step options (reached options passes events) event) id) := by
  refine ⟨?_, ?_, ?_⟩
  · intro selection ready
    obtain ⟨granted, current⟩ := isReadyFor_eq_true ready
    obtain ⟨id, first, last, order, begins, succeeds⟩ :=
      (run_granted options passes events).ready selection granted
    refine ⟨current, id, first, last, begins, succeeds, order, ?_⟩
    intro k lower upper
    exact selection_between lower upper begins.selected succeeds.selected
  · intro once
    exact Nat.le_trans (pendingPasses_le_chains _) (Nat.le_trans (run_chains options passes events) once)
  · intro closes
    have closing := run_closing options passes events
    have closed := closing.closed_iff.mpr closes
    refine ⟨?_, ?_⟩
    · intro selection
      rw [Bool.eq_false_iff]
      intro ready
      have granted := (isReadyFor_eq_true ready).1
      rw [closing.unready closed] at granted
      cases granted
    · intro event id fresh
      exact step_closed_begins closed fresh

def sampleOptions : RecurringFinalityOptions :=
  { initialFailureMode := .DEGRADED_RETRY, currentSelection := true }

/-- After one pass the reconciler is ready, and that pass covered the selection. -/
theorem readiness_after_pass :
    let events : List Event := [.promote .primary, .start, .passResult 0 true, .handle 0]
    let selection : PromotedProviderSelection := { providerId := some .primary, revision := 1 }
    (isReadyFor sampleOptions (reached sampleOptions [.primary] events) selection).1 = true ∧
      ∃ id first last, WholePass sampleOptions [.primary] events id selection first last :=
  ⟨by decide, ((readiness_never_stale sampleOptions [.primary] _).1 _ (by decide)).2⟩

/-- `start` does not look whether it was called before: a second call begins a second pass. -/
theorem second_start_overlaps :
    pendingPasses (reached sampleOptions [.primary] [.promote .primary, .start, .start]) = 2 := by
  decide

end SolTokenListener.Guarantees.FinalityReadiness
