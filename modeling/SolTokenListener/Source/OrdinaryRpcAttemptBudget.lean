import Mathlib.Algebra.Order.Ring.Rat

/-!
# The budget of ordinary RPC attempts

Source: src/solana/rpc/ordinary-rpc-attempt-budget.ts:1-126. An attempt is a callback that the
budget calls synchronously: while it runs, it may call the budget again. The calls in progress are
frames, and the code after a call of an attempt runs when that call returns. Promises are not
modelled beyond who settled them; what an attempt returns or throws does not reach the budget.

Attempts, timers and signals are known by numbers. The clock is the sequence of its readings,
rationals that never decrease; differences of readings are exact.
-/

namespace SolTokenListener.Source.OrdinaryRpcAttemptBudget

def MAX_ATTEMPTS : Nat := 8
def WINDOW_MS : Rat := 1000
def MAX_WAITERS : Nat := 64

abbrev AttemptId := Nat
abbrev TimerId := Nat
abbrev SignalId := Nat

structure Clock where
  now : Nat → Rat
  nondecreasing : Monotone now

structure Waiter where
  attempt : AttemptId
  signal : Option SignalId
  deriving DecidableEq, Repr

/-- A call of an attempt in progress: from `run` directly, or from the loop of `pump`. -/
inductive Frame where
  | direct | pumping
  deriving DecidableEq, Repr

/-- How a queued attempt left the queue. -/
inductive Settlement where
  | started | aborted | closed
  deriving DecidableEq, Repr

/-- Why `run` refused an attempt without queueing it. -/
inductive Refusal where
  | closed | aborted | full
  deriving DecidableEq, Repr

structure Budget where
  starts : List Rat
  waiters : List Waiter
  timer : Option TimerId
  closed : Bool
  /-- The number of times the clock was read. -/
  reads : Nat
  /-- The timers the scheduler holds, with their delays. -/
  armed : List (TimerId × Rat)
  timerCount : Nat
  aborted : SignalId → Bool
  /-- The calls of attempts in progress, innermost first. -/
  frames : List Frame
  attemptCount : Nat
  /-- All starts, newest first, like the logs below. -/
  started : List (AttemptId × Rat)
  queued : List AttemptId
  settled : List (AttemptId × Settlement)
  refused : List (AttemptId × Refusal)

namespace Budget

def isAborted (budget : Budget) (signal : Option SignalId) : Bool := signal.any budget.aborted

def settle (budget : Budget) (attempt : AttemptId) (settlement : Settlement) : Budget :=
  { budget with settled := (attempt, settlement) :: budget.settled }

def refuse (budget : Budget) (attempt : AttemptId) (refusal : Refusal) : Budget :=
  { budget with refused := (attempt, refusal) :: budget.refused }

def cancelTimer (budget : Budget) : Budget :=
  { budget with
    armed := budget.armed.filter fun entry => some entry.1 ≠ budget.timer
    timer := none }

section Clocked

variable (clock : Clock)

/-- The attempt is called: `start` goes on when it returns. -/
def start (budget : Budget) (attempt : AttemptId) (frame : Frame) : Budget :=
  let now := clock.now budget.reads
  { budget with
    reads := budget.reads + 1
    starts := budget.starts ++ [now]
    started := (attempt, now) :: budget.started
    frames := frame :: budget.frames }

def expire (budget : Budget) : Budget :=
  let cutoff := clock.now budget.reads - WINDOW_MS
  { budget with
    reads := budget.reads + 1
    starts := budget.starts.dropWhile (· ≤ cutoff) }

/-- `this.timer = this.scheduler.schedule(…)`, unless there is no start to wait for. -/
def schedule (budget : Budget) : Budget :=
  match budget.starts.head? with
  | none => budget
  | some oldest =>
    let now := clock.now budget.reads
    { budget with
      reads := budget.reads + 1
      timer := some budget.timerCount
      armed := (budget.timerCount, max 1 (oldest + WINDOW_MS - now)) :: budget.armed
      timerCount := budget.timerCount + 1 }

/-- The loop of `pump` and what follows it, up to a call of an attempt. -/
def pumpLoop : List Waiter → Budget → Budget
  | [], budget => { budget with waiters := [] }
  | waiter :: rest, budget =>
    if budget.starts.length < MAX_ATTEMPTS then
      if budget.isAborted waiter.signal then pumpLoop rest (budget.settle waiter.attempt .aborted)
      else
        ({ budget with waiters := rest }.settle waiter.attempt .started).start clock waiter.attempt
          .pumping
    else { budget with waiters := waiter :: rest }.schedule clock

def pump (budget : Budget) : Budget :=
  let cancelled := budget.cancelTimer
  if cancelled.closed then cancelled
  else
    let expired := cancelled.expire clock
    pumpLoop clock expired.waiters expired

def run (budget : Budget) (signal : Option SignalId) : Budget :=
  let attempt := budget.attemptCount
  let called := { budget with attemptCount := attempt + 1 }
  if called.closed then called.refuse attempt .closed
  else if called.isAborted signal then called.refuse attempt .aborted
  else
    let expired := called.expire clock
    if expired.waiters = [] ∧ expired.starts.length < MAX_ATTEMPTS then
      expired.start clock attempt .direct
    else if MAX_WAITERS ≤ expired.waiters.length then expired.refuse attempt .full
    else pump clock { expired with
      waiters := expired.waiters ++ [⟨attempt, signal⟩]
      queued := attempt :: expired.queued }

/-- The abort listener of a queued attempt. -/
def abortListener (budget : Budget) (attempt : AttemptId) : Budget :=
  match budget.waiters.find? (·.attempt = attempt) with
  | none => budget
  | some waiter =>
    if budget.isAborted waiter.signal then
      pump clock ({ budget with waiters := budget.waiters.filter (·.attempt ≠ attempt) }.settle
        attempt .aborted)
    else budget

def close (budget : Budget) : Budget :=
  if budget.closed then budget
  else
    let cancelled := { budget with closed := true }.cancelTimer
    budget.waiters.foldl (fun closing waiter => closing.settle waiter.attempt .closed)
      { cancelled with waiters := [] }

/-- The scheduler's callback of an armed timer. -/
def fire (budget : Budget) (timer : TimerId) : Budget :=
  pump clock { budget with
    armed := budget.armed.filter (·.1 ≠ timer)
    timer := none }

/-- The innermost call of an attempt returned, or threw. -/
def attemptReturns (budget : Budget) : Budget :=
  match budget.frames with
  | [] => budget
  | .direct :: frames => { budget with frames }
  | .pumping :: frames => pumpLoop clock budget.waiters { budget with frames }

end Clocked

end Budget

/-! ## Runs -/

/-- `run`, `abort` and `close` also happen inside an attempt; a timer fires from the event loop. A
signal aborts, and then the listeners of its queued attempts are called one by one. -/
inductive BudgetEvent where
  | run (signal : Option SignalId)
  | attemptReturns
  | abort (signal : SignalId)
  | abortListener (attempt : AttemptId)
  | close
  | timer (timer : TimerId)
  deriving DecidableEq, Repr

def budgetStep (clock : Clock) (budget : Budget) : BudgetEvent → Budget
  | .run signal => budget.run clock signal
  | .attemptReturns => budget.attemptReturns clock
  | .abort signal => { budget with aborted := fun other => other = signal || budget.aborted other }
  | .abortListener attempt => budget.abortListener clock attempt
  | .close => budget.close
  | .timer timer =>
    if budget.frames = [] ∧ budget.armed.any (·.1 = timer) then budget.fire clock timer else budget

def newBudget : Budget where
  starts := []
  waiters := []
  timer := none
  closed := false
  reads := 0
  armed := []
  timerCount := 0
  aborted := fun _ => false
  frames := []
  attemptCount := 0
  started := []
  queued := []
  settled := []
  refused := []

def budgetRun (clock : Clock) (budget : Budget) (events : List BudgetEvent) : Budget :=
  events.foldl (budgetStep clock) budget

end SolTokenListener.Source.OrdinaryRpcAttemptBudget
