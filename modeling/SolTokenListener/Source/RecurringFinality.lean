import SolTokenListener.Source.StrictCatchUp

/-!
# The recurring finality reconciler and the promoted provider

Source: src/application/production-listener-factory.ts:894-1094, 1180-1204, 1569-1584,
src/application/promoted-provider-selector.ts:22-73. Each synchronous stretch of the code is one event.
A promise that `runCurrentPass` returned is named by the order of the calls, and between the end of a
pass and the callbacks of its promise other events may come. The diagnostics, which change nothing else,
are left out, and so are the checks of shape that a selection of the selector passes.
-/

namespace SolTokenListener.Source.RecurringFinality

open Source.StrictCatchUp (RpcProviderId)

inductive ListenerRuntimeState where
  | STARTING | RUNNING | DEGRADED | STOPPING | STOPPED
  deriving DecidableEq, Repr

inductive InitialFinalityFailureMode where
  | FAIL_START | DEGRADED_RETRY
  deriving DecidableEq, Repr

structure PromotedProviderSelection where
  providerId : Option RpcProviderId
  revision : Nat
  deriving DecidableEq, Repr

structure PromotedProviderSelector where
  passes : List RpcProviderId
  activeProvider : Option RpcProviderId := none
  revision : Nat := 0

namespace PromotedProviderSelector

def selection (selector : PromotedProviderSelector) : PromotedProviderSelection :=
  { providerId := selector.activeProvider, revision := selector.revision }

/-- Of a provider that has no pass, the call throws and changes nothing. -/
def promote (selector : PromotedProviderSelector) (providerId : RpcProviderId) :
    PromotedProviderSelector :=
  if providerId ∉ selector.passes then selector
  else { selector with revision := selector.revision + 1, activeProvider := some providerId }

def clear (selector : PromotedProviderSelector) (providerId : RpcProviderId) :
    PromotedProviderSelector :=
  if selector.activeProvider ≠ some providerId then selector
  else { selector with revision := selector.revision + 1, activeProvider := none }

end PromotedProviderSelector

/-! ## The reconciler -/

structure RecurringFinalityOptions where
  initialFailureMode : InitialFinalityFailureMode
  /-- Whether a `currentSelection` is configured; it reads the selector. -/
  currentSelection : Bool

inductive Caller where
  | start | timer
  deriving DecidableEq, Repr

/-- A promise of `runCurrentPass`: its pass is awaited, it has settled, its caller's callback has run. -/
inductive OperationPhase where
  | running (selection : Option PromotedProviderSelection)
  | resolved | rejected
  /-- `throws`: the promise of `start` rejects. -/
  | handled (throws : Bool)
  deriving DecidableEq, Repr

structure Operation where
  caller : Caller
  phase : OperationPhase
  deriving DecidableEq, Repr

/-- The promise of `close`. -/
inductive ClosePhase where
  | notCalled | waiting (operation : Nat) | stopped | timedOut
  deriving DecidableEq, Repr

structure Reconciler where
  selector : PromotedProviderSelector
  currentState : ListenerRuntimeState := .STOPPED
  currentReadySelection : Option PromotedProviderSelection := none
  timer : Option Nat := none
  inFlight : Option Nat := none
  closePromise : ClosePhase := .notCalled
  closed : Bool := false
  operations : List Operation := []
  /-- The timers the scheduler holds, and the name of the next one. -/
  timers : List Nat := []
  nextTimer : Nat := 0

variable (options : RecurringFinalityOptions) (state : Reconciler)

/-- The part of `runCurrentPass` before its first `await`, and the promise it returns. -/
def runCurrentPass (caller : Caller) : Reconciler :=
  let phase :=
    if !options.currentSelection then OperationPhase.running none
    else if state.selector.selection.providerId = none then .rejected
    else .running (some state.selector.selection)
  { state with
    currentReadySelection := none
    operations := state.operations ++ [{ caller := caller, phase := phase }]
    inFlight := some state.operations.length }

def setPhase (id : Nat) (operation : Operation) (phase : OperationPhase) : Reconciler :=
  { state with operations := state.operations.set id { operation with phase := phase } }

/-- `runCurrentPass` after `runOnce`. -/
def passResult (id : Nat) (operation : Operation) (selection : Option PromotedProviderSelection)
    (succeeded : Bool) : Reconciler :=
  if !succeeded then setPhase state id operation .rejected
  else match selection with
    | none => setPhase state id operation .resolved
    | some selection =>
      if state.selector.selection ≠ selection then setPhase state id operation .rejected
      else
        let state := setPhase state id operation .resolved
        if !state.closed then { state with currentReadySelection := some selection } else state

def schedule : Reconciler :=
  if state.closed then state
  else { state with
    timer := some state.nextTimer
    timers := state.nextTimer :: state.timers
    nextTimer := state.nextTimer + 1 }

def start : Reconciler :=
  if state.closed then state
  else runCurrentPass options
    { state with currentState := .STARTING, currentReadySelection := none } .start

/-- The callback of a timer. -/
def tick (timer : Nat) : Reconciler :=
  let state := { state with timers := state.timers.erase timer, timer := none }
  if state.closed then state
  else runCurrentPass options { state with currentReadySelection := none } .timer

/-- What the caller of `runCurrentPass` does once its promise has settled. -/
def handle (id : Nat) (operation : Operation) (succeeded : Bool) : Reconciler :=
  let throws := !succeeded && operation.caller == .start
    && options.initialFailureMode == .FAIL_START
  let state := setPhase state id operation (.handled throws)
  let state := if state.inFlight = some id then { state with inFlight := none } else state
  if state.closed then state
  else if succeeded then schedule { state with currentState := .RUNNING }
  else match operation.caller with
    | .start =>
      let state := { state with currentState := .DEGRADED }
      if throws then state else schedule state
    | .timer => schedule { state with currentReadySelection := none, currentState := .DEGRADED }

/-- `close` and the part of `performClose` before its `await`. -/
def close (state : Reconciler) : Reconciler :=
  if state.closePromise ≠ .notCalled then state
  else
    let timers := match state.timer with
      | some timer => state.timers.erase timer
      | none => state.timers
    let state := { state with
      closed := true, timers := timers, timer := none, currentReadySelection := none }
    match state.inFlight with
    | some running => { state with closePromise := .waiting running }
    | none => { state with closePromise := .stopped, currentState := .STOPPED }

/-- `performClose` after `settleController`. -/
def closeResult (timeout : Bool) : Reconciler :=
  match state.closePromise with
  | .waiting running =>
    if timeout then { state with closePromise := .timedOut, currentState := .DEGRADED }
    else match state.operations[running]? with
      | some { caller := _, phase := .running _ } => state
      | _ => { state with closePromise := .stopped, currentState := .STOPPED }
  | _ => state

def currentReadySelectionIfCurrent : Option PromotedProviderSelection × Reconciler :=
  match state.currentReadySelection with
  | none => (none, state)
  | some ready =>
    if !options.currentSelection then (none, state)
    else if ready = state.selector.selection then (some ready, state)
    else (none, { state with currentReadySelection := none })

def isReadyFor (selection : PromotedProviderSelection) : Bool × Reconciler :=
  let (ready, after) := currentReadySelectionIfCurrent options state
  (after.currentState == .RUNNING && ready == some selection, after)

def readyProviderId : Option RpcProviderId × Reconciler :=
  let (ready, after) := currentReadySelectionIfCurrent options state
  (ready.bind (·.providerId), after)

/-! ## Events -/

inductive Event where
  | promote (providerId : RpcProviderId)
  | clear (providerId : RpcProviderId)
  | start
  | tick (timer : Nat)
  /-- `runOnce` of this operation settles. -/
  | passResult (id : Nat) (succeeded : Bool)
  /-- The callback on this operation's promise runs. -/
  | handle (id : Nat)
  | isReadyFor (selection : PromotedProviderSelection)
  | readyProviderId
  | close
  /-- `settleController` settles, by its timeout or not. -/
  | closeResult (timeout : Bool)
  deriving DecidableEq, Repr

/-- An event that the state does not allow, such as a timer that is not held, changes nothing. -/
def step : Event → Reconciler
  | .promote providerId => { state with selector := state.selector.promote providerId }
  | .clear providerId => { state with selector := state.selector.clear providerId }
  | .start => start options state
  | .tick timer => if timer ∈ state.timers then tick options state timer else state
  | .passResult id succeeded =>
    match state.operations[id]? with
    | some operation =>
      match operation.phase with
      | .running selection => passResult state id operation selection succeeded
      | _ => state
    | none => state
  | .handle id =>
    match state.operations[id]? with
    | some operation =>
      match operation.phase with
      | .resolved => handle options state id operation true
      | .rejected => handle options state id operation false
      | _ => state
    | none => state
  | .isReadyFor selection => (isReadyFor options state selection).2
  | .readyProviderId => (readyProviderId options state).2
  | .close => close state
  | .closeResult timeout => closeResult state timeout

/-- Both objects as they are built. -/
def created (passes : List RpcProviderId) : Reconciler := { selector := { passes := passes } }

end SolTokenListener.Source.RecurringFinality
