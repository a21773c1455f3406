import SolTokenListener.Lib.EventRun
import SolTokenListener.Source.Chain

/-!
# The permit queue of the provider-affine hydration

Source: src/application/provider-affine-catch-up-hydration.ts:36-54, 224-233, 420-488, 552-562. A signal is a
number, and an aborted one is listed. A signal that aborts calls its listeners one after the other, and they
may drain the queue in between, so that setting the flag and calling a listener are two events. A waiter
that was granted holds the permit until it releases it, once; `holders` keeps count of them. Route tokens
and providers are texts.
-/

namespace SolTokenListener.Source.HydrationPermits

open Source.Chain (MAX_SAFE_INTEGER)

structure RouteContext where
  providerId : String
  token : String
deriving DecidableEq

inductive PermitKind where
  | WORKER | SCAN
deriving DecidableEq

structure Waiter where
  id : Nat
  kind : PermitKind
  workerContext : Option RouteContext
  signal : Option Nat
deriving DecidableEq

inductive Settlement where
  | granted | rejected
deriving DecidableEq

def MAX_PERMIT_WAITERS : Nat := 1024

/-! ## The active context -/

/-- The active context, the transport epoch and how often the cache was cleared for a new epoch. -/
structure Route where
  active : Option RouteContext
  epoch : Nat
  generation : Nat
deriving DecidableEq

/-- `advanceEpoch()` and the read of the cache's metrics that applies the new epoch at once. -/
def Route.advance (route : Route) : Route :=
  { route with
    epoch := if (route.epoch : Int) = MAX_SAFE_INTEGER then 0 else route.epoch + 1
    generation := route.generation + 1 }

def Route.bind (route : Route) (context : RouteContext) : Route :=
  if route.active = some context then route else Route.advance { route with active := some context }

/-! ## The queue -/

structure Permits where
  queue : List Waiter
  permitKind : Option PermitKind
  workerRouteContext : Option RouteContext
  workerRouteReferences : Int
  closed : Bool
  route : Route
  abortedSignals : List Nat
  nextId : Nat
  settled : List (Nat × Settlement)
  holders : List Waiter
deriving DecidableEq

namespace Permits

variable (permits : Permits)

def isAborted (signal : Option Nat) : Bool := signal.any (· ∈ permits.abortedSignals)

def settle (id : Nat) (settlement : Settlement) : Permits :=
  { permits with settled := (id, settlement) :: permits.settled }

/-- The head of the queue may join the route that holds the permit. -/
def mayShare : Bool :=
  permits.permitKind = some .WORKER ∧ permits.workerRouteContext.isSome ∧
    (∀ waiter ∈ permits.queue, waiter.kind ≠ .SCAN) ∧
    permits.queue.head?.any fun next =>
      next.kind = .WORKER ∧ next.workerContext = permits.workerRouteContext

def grant (waiter : Waiter) : Permits :=
  let held := { permits.settle waiter.id .granted with
    permitKind := some waiter.kind
    holders := waiter :: permits.holders }
  match waiter.kind with
  | .SCAN => held
  | .WORKER =>
    let opened :=
      if held.workerRouteReferences = 0 then
        { held with
          workerRouteContext := waiter.workerContext
          route := waiter.workerContext.elim held.route held.route.bind }
      else held
    { opened with workerRouteReferences := opened.workerRouteReferences + 1 }

/-- One call of `drain` up to its own next call; `none` when it returns. -/
def drainStep : Option Permits :=
  if permits.closed then none
  else if permits.permitKind.isSome ∧ ¬ permits.mayShare then none
  else
    match permits.queue with
    | [] => none
    | waiter :: rest =>
      let shifted := { permits with queue := rest }
      some (if permits.isAborted waiter.signal then shifted.settle waiter.id .rejected else shifted.grant waiter)

def drainFor : Nat → Permits → Permits
  | 0, permits => permits
  | calls + 1, permits =>
    match permits.drainStep with
    | none => permits
    | some next => drainFor calls next

/-- Every call takes a waiter from the queue. -/
def drain : Permits := drainFor permits.queue.length permits

/-- The promise of the waiter is pending until `settled` names it. An overload and a call that `assertOpen`
refuses have no waiter. -/
def acquire (kind : PermitKind) (signal : Option Nat) (workerContext : Option RouteContext) :
    Permits :=
  if permits.closed ∨ permits.isAborted signal then permits
  else if (MAX_PERMIT_WAITERS : Int) ≤ permits.queue.length + max 0 (permits.workerRouteReferences - 1) then permits
  else
    drain { permits with
      queue := permits.queue ++ [⟨permits.nextId, kind, workerContext, signal⟩]
      nextId := permits.nextId + 1 }

/-- The abort listener of a waiter. -/
def onAbort (waiter : Waiter) : Permits :=
  if waiter ∈ permits.queue then
    { permits with queue := permits.queue.erase waiter }.settle waiter.id .rejected
  else permits

def release : Permits :=
  drain { permits with permitKind := none, workerRouteContext := none }

def releaseWorkerRoute : Permits :=
  let left := { permits with workerRouteReferences := permits.workerRouteReferences - 1 }
  if left.workerRouteReferences = 0 then left.release else left

/-- A holder gives the permit back: a scan in its `finally`, a worker in its cleanup. -/
def releaseHolder (waiter : Waiter) : Permits :=
  if waiter ∈ permits.holders then
    let left := { permits with holders := permits.holders.erase waiter }
    match waiter.kind with
    | .SCAN => left.release
    | .WORKER => left.releaseWorkerRoute
  else permits

def close (permits : Permits) : Permits :=
  if permits.closed then permits
  else
    { permits with
      closed := true
      queue := []
      settled := (permits.queue.map fun waiter => (waiter.id, .rejected)).reverse ++ permits.settled }

end Permits

inductive PermitEvent where
  | acquire (kind : PermitKind) (signal : Option Nat) (workerContext : Option RouteContext)
  | abortSignal (signal : Nat)
  | onAbort (waiter : Waiter)
  | releaseHolder (waiter : Waiter)
  | close
deriving DecidableEq

/-- A listener is called for a signal that is aborted. -/
def step (permits : Permits) : PermitEvent → Permits
  | .acquire kind signal workerContext => permits.acquire kind signal workerContext
  | .abortSignal signal => { permits with abortedSignals := signal :: permits.abortedSignals }
  | .onAbort waiter => if permits.isAborted waiter.signal then permits.onAbort waiter else permits
  | .releaseHolder waiter => permits.releaseHolder waiter
  | .close => permits.close

def start : Permits where
  queue := []
  permitKind := none
  workerRouteContext := none
  workerRouteReferences := 0
  closed := false
  route := ⟨none, 0, 0⟩
  abortedSignals := []
  nextId := 0
  settled := []
  holders := []

end SolTokenListener.Source.HydrationPermits
