import Mathlib.Data.List.Nodup
import Mathlib.Data.List.TakeWhile
import Mathlib.Data.Nat.Cast.Order.Ring
import SolTokenListener.Lib.SlidingWindow
import SolTokenListener.Source.OrdinaryRpcAttemptBudget

/-!
# The attempt budget over whole runs

Attempts are run, aborted and closed in any order, also from inside an attempt; timers fire at any
time after they were armed, early ones included. The list of starts is pruned, so the bound on every
window is carried by the full history: what was pruned left the window for good, since the clock
never goes back.
-/

namespace SolTokenListener.Guarantees.AttemptBudget

open Lib.SlidingWindow
open Source.OrdinaryRpcAttemptBudget

variable {clock : Clock} {budget : Budget}

/-- The times of all starts, newest first. -/
abbrev startTimes (budget : Budget) : List Rat := budget.started.map (·.2)

/-- The attempts that were started from the queue, newest first. -/
def startedFromQueue (budget : Budget) : List AttemptId :=
  (budget.settled.filter (·.2 = .started)).map (·.1)

/-- A timer of the scheduler is the one the budget waits for. -/
def TimerArmed (budget : Budget) : Prop :=
  ∃ timer, budget.timer = some timer ∧ timer ∈ budget.armed.map (·.1)

/-! ## The starts -/

/-- What was pruned left the window: it stays out of it at every later reading. -/
structure Paced (clock : Clock) (budget : Budget) : Prop where
  full : budget.starts.length ≤ MAX_ATTEMPTS
  spaced : Spaced MAX_ATTEMPTS WINDOW_MS (startTimes budget)
  pruned : ∃ gone, startTimes budget = budget.starts.reverse ++ gone ∧
    ∀ time ∈ gone, ∀ reading, budget.reads ≤ reading → time + WINDOW_MS ≤ clock.now reading

theorem Paced.later {later : Budget} (paced : Paced clock budget) (sameStarts : later.starts = budget.starts)
    (sameStarted : later.started = budget.started) (more : budget.reads ≤ later.reads) :
    Paced clock later := by
  obtain ⟨gone, isHistory, left⟩ := paced.pruned
  refine ⟨sameStarts ▸ paced.full, by rw [startTimes, sameStarted]; exact paced.spaced, gone, ?_, ?_⟩
  · rw [startTimes, sameStarted, sameStarts]
    exact isHistory
  · exact fun time member reading isLater => left time member reading (more.trans isLater)

theorem paced_expire (paced : Paced clock budget) : Paced clock (budget.expire clock) := by
  obtain ⟨gone, isHistory, left⟩ := paced.pruned
  have split := List.takeWhile_append_dropWhile
    (p := fun time => decide (time ≤ clock.now budget.reads - WINDOW_MS)) (l := budget.starts)
  refine ⟨((List.dropWhile_sublist _).length_le).trans paced.full, paced.spaced,
    (budget.starts.takeWhile (· ≤ clock.now budget.reads - WINDOW_MS)).reverse ++ gone, ?_, ?_⟩
  · change startTimes budget = _
    rw [isHistory, ← List.append_assoc]
    change _ = (List.dropWhile _ _).reverse ++ _ ++ _
    rw [← List.reverse_append, split]
  · intro time member reading isLater
    rcases List.mem_append.mp member with dropped | old
    · have isOld := List.mem_takeWhile_imp (List.mem_reverse.mp dropped)
      have now : clock.now budget.reads ≤ clock.now reading :=
        clock.nondecreasing ((Nat.le_succ _).trans isLater)
      have before : time ≤ clock.now budget.reads - WINDOW_MS := of_decide_eq_true isOld
      exact (le_sub_iff_add_le.mp before).trans now
    · exact left time old reading ((Nat.le_succ _).trans isLater)

theorem paced_start {attempt : AttemptId} {frame : Frame} (paced : Paced clock budget)
    (room : budget.starts.length < MAX_ATTEMPTS) : Paced clock (budget.start clock attempt frame) := by
  obtain ⟨gone, isHistory, left⟩ := paced.pruned
  have isHistory' : startTimes (budget.start clock attempt frame) =
      clock.now budget.reads :: (budget.starts.reverse ++ gone) := by
    rw [← isHistory]
    rfl
  refine ⟨?_, ?_, gone, ?_, fun time member reading isLater =>
    left time member reading ((Nat.le_succ _).trans isLater)⟩
  · simpa [Budget.start] using Nat.succ_le_of_lt room
  · rw [isHistory']
    refine spaced_cons (isHistory ▸ paced.spaced) (by simpa using room) fun time member => ?_
    exact left time member budget.reads (Nat.le_refl _)
  · rw [isHistory']
    simp [Budget.start]

/-! ## The queue -/

/-- Queued attempts wait in the order of their calls; those that left did so once. -/
structure Queued (budget : Budget) : Prop where
  few : budget.waiters.length ≤ MAX_WAITERS
  sorted : (budget.waiters.map (·.attempt)).Pairwise (· < ·)
  account : (budget.settled.map (·.1) ++ budget.waiters.map (·.attempt)).Perm budget.queued
  order : budget.queued.Pairwise (· > ·)
  issued : ∀ attempt ∈ budget.queued, attempt < budget.attemptCount
  fifo : (startedFromQueue budget).Pairwise (· > ·)
  ahead : ∀ attempt ∈ startedFromQueue budget, ∀ waiter ∈ budget.waiters, attempt < waiter.attempt

variable {waiter : Waiter} {rest waiters : List Waiter}

section Queue

variable {settlement : Settlement}

theorem startedFromQueue_settle {attempt : AttemptId} :
    startedFromQueue (budget.settle attempt settlement) =
      if settlement = .started then attempt :: startedFromQueue budget else startedFromQueue budget := by
  unfold startedFromQueue Budget.settle
  split
  · next isStarted => simp [isStarted]
  · next notStarted => simp [notStarted]

/-- The first waiter leaves the queue. -/
theorem queued_shift (queue : Queued { budget with waiters := waiter :: rest }) :
    Queued ({ budget with waiters := rest }.settle waiter.attempt settlement) := by
  have ordered := List.pairwise_cons.mp queue.sorted
  have behind : ∀ other ∈ rest, waiter.attempt < other.attempt :=
    fun other member => ordered.1 other.attempt (List.mem_map_of_mem member)
  have aheadOf : ∀ attempt ∈ startedFromQueue budget, attempt < waiter.attempt :=
    fun attempt member => queue.ahead attempt member waiter List.mem_cons_self
  refine ⟨(Nat.le_succ _).trans queue.few, ordered.2, ?_, queue.order, queue.issued, ?_, ?_⟩
  · exact (List.perm_middle.symm).trans queue.account
  · rw [startedFromQueue_settle]
    split
    · exact List.pairwise_cons.mpr ⟨aheadOf, queue.fifo⟩
    · exact queue.fifo
  · rw [startedFromQueue_settle]
    intro attempt member other isOther
    split at member
    · rcases List.mem_cons.mp member with rfl | old
      · exact behind other isOther
      · exact (aheadOf attempt old).trans (behind other isOther)
    · exact (aheadOf attempt member).trans (behind other isOther)

/-- Any waiter leaves the queue without a start. -/
theorem queued_remove (queue : Queued budget) (member : waiter ∈ budget.waiters) :
    Queued ({ budget with waiters := budget.waiters.filter (·.attempt ≠ waiter.attempt) }.settle
      waiter.attempt .aborted) := by
  have sublist : (budget.waiters.filter (·.attempt ≠ waiter.attempt)).Sublist budget.waiters :=
    List.filter_sublist
  have distinct : (budget.waiters.map (·.attempt)).Nodup := queue.sorted.imp fun less => less.ne
  have taken : (budget.waiters.map (·.attempt)).Perm (waiter.attempt ::
      (budget.waiters.filter (·.attempt ≠ waiter.attempt)).map (·.attempt)) := by
    have erased : (budget.waiters.map (·.attempt)).erase waiter.attempt =
        (budget.waiters.filter (·.attempt ≠ waiter.attempt)).map (·.attempt) := by
      rw [distinct.erase_eq_filter, List.filter_map]
      congr 2
      funext other
      simp [bne, beq_eq_decide]
    exact erased ▸ List.perm_cons_erase (List.mem_map_of_mem member)
  have sameStarts : startedFromQueue ({ budget with
      waiters := budget.waiters.filter (·.attempt ≠ waiter.attempt) }.settle waiter.attempt .aborted) =
        startedFromQueue budget := startedFromQueue_settle
  refine ⟨sublist.length_le.trans queue.few, queue.sorted.sublist (sublist.map _), ?_, queue.order,
    queue.issued, sameStarts ▸ queue.fifo, ?_⟩
  · refine List.Perm.trans ?_ queue.account
    exact (List.perm_middle.symm).trans (taken.symm.append_left _)
  · rw [sameStarts]
    exact fun attempt isStarted other isOther => queue.ahead attempt isStarted other
      (sublist.subset isOther)

/-- A new attempt is queued behind the others. -/
theorem queued_push {signal : Option SignalId} (queue : Queued budget)
    (room : budget.waiters.length < MAX_WAITERS) :
    Queued { budget with
      attemptCount := budget.attemptCount + 1
      waiters := budget.waiters ++ [⟨budget.attemptCount, signal⟩]
      queued := budget.attemptCount :: budget.queued } := by
  have waitingIssued : ∀ waiter ∈ budget.waiters, waiter.attempt < budget.attemptCount :=
    fun waiter member => queue.issued _ (queue.account.subset
      (List.mem_append_right _ (List.mem_map_of_mem member)))
  have startedIssued : ∀ attempt ∈ startedFromQueue budget, attempt < budget.attemptCount := by
    intro attempt member
    obtain ⟨entry, isEntry, rfl⟩ := List.mem_map.mp member
    exact queue.issued _ (queue.account.subset (List.mem_append_left _
      (List.mem_map_of_mem (List.mem_of_mem_filter isEntry))))
  refine ⟨?_, ?_, ?_, List.pairwise_cons.mpr ⟨queue.issued, queue.order⟩, ?_, queue.fifo, ?_⟩
  · simpa using Nat.succ_le_of_lt room
  · rw [List.map_append, List.pairwise_append]
    refine ⟨queue.sorted, List.pairwise_singleton _ _, fun attempt member last isLast => ?_⟩
    obtain ⟨waiter, isWaiter, rfl⟩ := List.mem_map.mp member
    cases List.mem_singleton.mp isLast
    exact waitingIssued waiter isWaiter
  · rw [List.map_append, ← List.append_assoc]
    exact (List.perm_append_singleton _ _).trans (queue.account.cons _)
  · intro attempt member
    rcases List.mem_cons.mp member with rfl | old
    · exact Nat.lt_succ_self _
    · exact (queue.issued attempt old).trans (Nat.lt_succ_self _)
  · intro attempt member waiter isWaiter
    rcases List.mem_append.mp isWaiter with old | new
    · exact queue.ahead attempt member waiter old
    · cases List.mem_singleton.mp new
      exact startedIssued attempt member

/-- All waiters leave the queue, in order. -/
theorem queued_closeAll (queue : Queued { budget with waiters }) :
    Queued (waiters.foldl (fun closing waiter => closing.settle waiter.attempt .closed)
      { budget with waiters := [] }) := by
  induction waiters generalizing budget with
  | nil => exact queue
  | cons waiter rest ih =>
    have shifted : Queued { budget.settle waiter.attempt .closed with waiters := rest } :=
      queued_shift queue
    exact ih shifted

theorem closeAll_settles (waiters : List Waiter) (budget : Budget) :
    ∃ settled, waiters.foldl (fun closing waiter => closing.settle waiter.attempt .closed) budget =
      { budget with settled } := by
  induction waiters generalizing budget with
  | nil => exact ⟨budget.settled, rfl⟩
  | cons waiter rest ih =>
    obtain ⟨settled, isSettled⟩ := ih (budget.settle waiter.attempt .closed)
    exact ⟨settled, isSettled⟩

end Queue

/-! ## The pump -/

/-- What holds in every state of a run. -/
structure Inv (clock : Clock) (budget : Budget) : Prop where
  paced : Paced clock budget
  queue : Queued budget
  closedEmpty : budget.closed = true → budget.waiters = []
  timer : budget.closed = false → budget.waiters ≠ [] → TimerArmed budget ∨ .pumping ∈ budget.frames

theorem queued_of_same {later : Budget} (queue : Queued budget) (sameWaiters : later.waiters = budget.waiters)
    (sameSettled : later.settled = budget.settled) (sameQueued : later.queued = budget.queued)
    (more : budget.attemptCount ≤ later.attemptCount) : Queued later := by
  have sameStarts : startedFromQueue later = startedFromQueue budget := by
    rw [startedFromQueue, startedFromQueue, sameSettled]
  refine ⟨sameWaiters ▸ queue.few, sameWaiters ▸ queue.sorted, ?_, sameQueued ▸ queue.order, ?_,
    sameStarts ▸ queue.fifo, ?_⟩
  · rw [sameSettled, sameWaiters, sameQueued]
    exact queue.account
  · rw [sameQueued]
    exact fun attempt member => (queue.issued attempt member).trans_le more
  · rw [sameStarts, sameWaiters]
    exact queue.ahead

theorem inv_pumpLoop (paced : Paced clock budget) (queue : Queued { budget with waiters })
    (isOpen : waiters ≠ [] → budget.closed = false) :
    Inv clock (budget.pumpLoop clock waiters) := by
  induction waiters generalizing budget with
  | nil =>
    exact ⟨paced.later rfl rfl (Nat.le_refl _), queue, fun _ => rfl, fun _ waits => absurd rfl waits⟩
  | cons waiter rest ih =>
    have stillOpen := isOpen (List.cons_ne_nil _ _)
    unfold Budget.pumpLoop
    split
    · next room =>
        split
        · have shifted : Queued { budget.settle waiter.attempt .aborted with waiters := rest } :=
            queued_shift queue
          exact ih (paced.later rfl rfl (Nat.le_refl _)) shifted fun _ => stillOpen
        · have left : Paced clock ({ budget with waiters := rest }.settle waiter.attempt .started) :=
            paced.later rfl rfl (Nat.le_refl _)
          refine ⟨paced_start left room, { queued_shift queue with }, fun isClosed => ?_,
            fun _ _ => .inr List.mem_cons_self⟩
          cases stillOpen.symm.trans isClosed
    · next full =>
        -- The loop stopped because the window is full, so there is a start to wait for.
        obtain ⟨oldest, others, isStarts⟩ : ∃ oldest others, budget.starts = oldest :: others := by
          cases isStarts : budget.starts with
          | nil => simp [isStarts, MAX_ATTEMPTS] at full
          | cons oldest others => exact ⟨oldest, others, rfl⟩
        have scheduled : (Budget.schedule clock { budget with waiters := waiter :: rest }) =
            { budget with
              waiters := waiter :: rest
              reads := budget.reads + 1
              timer := some budget.timerCount
              armed := (budget.timerCount, max 1 (oldest + WINDOW_MS - clock.now budget.reads)) ::
                budget.armed
              timerCount := budget.timerCount + 1 } := by
          simp only [Budget.schedule, isStarts, List.head?_cons]
        rw [scheduled]
        refine ⟨paced.later rfl rfl (Nat.le_succ _), { queue with }, fun isClosed => ?_,
          fun _ _ => .inl ⟨budget.timerCount, rfl, List.mem_cons_self⟩⟩
        cases stillOpen.symm.trans isClosed

theorem inv_pump (paced : Paced clock budget) (queue : Queued budget)
    (closedEmpty : budget.closed = true → budget.waiters = []) : Inv clock (budget.pump clock) := by
  unfold Budget.pump
  dsimp only
  split
  · next isClosed =>
      refine ⟨paced.later rfl rfl (Nat.le_refl _), { queue with }, closedEmpty, fun isOpen => ?_⟩
      cases isOpen.symm.trans isClosed
  · next isOpen =>
      have cancelled : Paced clock budget.cancelTimer := paced.later rfl rfl (Nat.le_refl _)
      have stillOpen : budget.closed = false := by simpa [Budget.cancelTimer] using isOpen
      exact inv_pumpLoop (paced_expire cancelled) { queue with } fun _ => stillOpen

/-! ## Runs -/

theorem inv_run (inv : Inv clock budget) (signal : Option SignalId) :
    Inv clock (budget.run clock signal) := by
  unfold Budget.run
  dsimp only
  have counted : Queued { budget with attemptCount := budget.attemptCount + 1 } :=
    queued_of_same inv.queue rfl rfl rfl (Nat.le_succ _)
  split
  · exact ⟨inv.paced.later rfl rfl (Nat.le_refl _), { counted with }, inv.closedEmpty, inv.timer⟩
  · next isOpen =>
      split
      · exact ⟨inv.paced.later rfl rfl (Nat.le_refl _), { counted with }, inv.closedEmpty, inv.timer⟩
      · have expired : Paced clock (Budget.expire clock
            { budget with attemptCount := budget.attemptCount + 1 }) :=
          paced_expire (inv.paced.later rfl rfl (Nat.le_refl _))
        split
        · next direct =>
            refine ⟨paced_start expired direct.2, { counted with }, inv.closedEmpty, fun _ waits => ?_⟩
            exact absurd direct.1 waits
        · split
          · exact ⟨expired.later rfl rfl (Nat.le_refl _), { counted with }, inv.closedEmpty, inv.timer⟩
          · next room =>
              exact inv_pump (expired.later rfl rfl (Nat.le_refl _))
                { queued_push inv.queue (Nat.lt_of_not_le room) with }
                fun isClosed => absurd isClosed isOpen

theorem inv_closeAll (paced : Paced clock budget) (queue : Queued { budget with waiters }) :
    Inv clock (waiters.foldl (fun closing waiter => closing.settle waiter.attempt .closed)
      { budget with waiters := [] }) := by
  have left := queued_closeAll queue
  obtain ⟨settled, isSettled⟩ := closeAll_settles waiters { budget with waiters := [] }
  rw [isSettled] at left ⊢
  exact ⟨paced.later rfl rfl (Nat.le_refl _), left, fun _ => rfl, fun _ waits => absurd rfl waits⟩

theorem inv_step (inv : Inv clock budget) (event : BudgetEvent) :
    Inv clock (budgetStep clock budget event) := by
  cases event with
  | run signal => exact inv_run inv signal
  | attemptReturns =>
    change Inv clock (budget.attemptReturns clock)
    unfold Budget.attemptReturns
    split
    · exact inv
    · next frames isFrames =>
        refine ⟨inv.paced.later rfl rfl (Nat.le_refl _), { inv.queue with }, inv.closedEmpty,
          fun isOpen waits => ?_⟩
        rcases inv.timer isOpen waits with isArmed | isPumping
        · exact .inl isArmed
        · rw [isFrames] at isPumping
          exact .inr (by simpa using isPumping)
    · refine inv_pumpLoop (inv.paced.later rfl rfl (Nat.le_refl _)) { inv.queue with } fun waits => ?_
      cases isClosed : budget.closed with
      | false => rfl
      | true => exact absurd (inv.closedEmpty isClosed) waits
  | abort signal =>
    exact ⟨inv.paced.later rfl rfl (Nat.le_refl _), { inv.queue with }, inv.closedEmpty, inv.timer⟩
  | abortListener attempt =>
    change Inv clock (budget.abortListener clock attempt)
    unfold Budget.abortListener
    split
    · exact inv
    · next waiter isWaiter =>
        have member := List.mem_of_find?_eq_some isWaiter
        have isAttempt : waiter.attempt = attempt := by simpa using List.find?_some isWaiter
        split
        · subst isAttempt
          refine inv_pump (inv.paced.later rfl rfl (Nat.le_refl _)) (queued_remove inv.queue member)
            fun isClosed => ?_
          rw [inv.closedEmpty isClosed] at member
          cases member
        · exact inv
  | close =>
    change Inv clock budget.close
    unfold Budget.close
    split
    · exact inv
    · have shut : Paced clock (Budget.cancelTimer { budget with closed := true }) :=
        inv.paced.later rfl rfl (Nat.le_refl _)
      exact inv_closeAll shut { inv.queue with }
  | timer timer =>
    change Inv clock (ite _ _ _)
    split
    · exact inv_pump (inv.paced.later rfl rfl (Nat.le_refl _)) { inv.queue with } inv.closedEmpty
    · exact inv

theorem inv_newBudget : Inv clock newBudget where
  paced := ⟨Nat.zero_le _, trivial, [], rfl, fun _ member => absurd member List.not_mem_nil⟩
  queue := ⟨Nat.zero_le _, List.Pairwise.nil, List.Perm.refl _, List.Pairwise.nil,
    fun _ member => absurd member List.not_mem_nil, List.Pairwise.nil,
    fun _ member => absurd member List.not_mem_nil⟩
  closedEmpty := fun _ => rfl
  timer := fun _ waits => absurd rfl waits

theorem inv_budgetRun (inv : Inv clock budget) (events : List BudgetEvent) :
    Inv clock (budgetRun clock budget events) := by
  induction events generalizing budget with
  | nil => exact inv
  | cons event rest ih => exact ih (inv_step inv event)

/-! ## After closing -/

/-- A closed budget stays closed and starts nothing. -/
theorem closed_step (inv : Inv clock budget) (isClosed : budget.closed = true) (event : BudgetEvent) :
    (budgetStep clock budget event).closed = true ∧
      (budgetStep clock budget event).started = budget.started := by
  have empty := inv.closedEmpty isClosed
  cases event with
  | run signal =>
    change (budget.run clock signal).closed = true ∧ (budget.run clock signal).started = budget.started
    simp only [Budget.run, isClosed, if_true]
    exact ⟨rfl, rfl⟩
  | attemptReturns =>
    change (budget.attemptReturns clock).closed = true ∧ (budget.attemptReturns clock).started = _
    unfold Budget.attemptReturns
    rw [empty]
    split <;> exact ⟨isClosed, rfl⟩
  | abort signal => exact ⟨isClosed, rfl⟩
  | abortListener attempt =>
    change (budget.abortListener clock attempt).closed = true ∧
      (budget.abortListener clock attempt).started = _
    unfold Budget.abortListener
    rw [empty]
    exact ⟨isClosed, rfl⟩
  | close =>
    change budget.close.closed = true ∧ budget.close.started = _
    unfold Budget.close
    rw [if_pos isClosed]
    exact ⟨isClosed, rfl⟩
  | timer timer =>
    change (ite _ _ _ : Budget).closed = true ∧ (ite _ _ _ : Budget).started = _
    split
    · simp only [Budget.fire, Budget.pump, Budget.cancelTimer, isClosed, if_true, and_self]
    · exact ⟨isClosed, rfl⟩

theorem closed_budgetRun (inv : Inv clock budget) (isClosed : budget.closed = true)
    (events : List BudgetEvent) : (budgetRun clock budget events).started = budget.started := by
  induction events generalizing budget with
  | nil => rfl
  | cons event rest ih =>
    obtain ⟨stillClosed, same⟩ := closed_step inv isClosed event
    exact (ih (inv_step inv event) stillClosed).trans same

/-! ## Progress -/

/-- What is settled stays settled while the loop goes on. -/
theorem settled_pumpLoop (waiters : List Waiter) (budget : Budget) :
    budget.settled ⊆ (budget.pumpLoop clock waiters).settled := by
  induction waiters generalizing budget with
  | nil => exact List.Subset.refl _
  | cons waiter rest ih =>
    unfold Budget.pumpLoop
    split
    · split
      · exact fun entry isSettled => ih _ (List.mem_cons_of_mem _ isSettled)
      · exact List.subset_cons_self _ _
    · unfold Budget.schedule
      split <;> exact List.Subset.refl _

/-- A pump that finds room in the window starts the first waiter, or drops it as aborted. -/
theorem pumpLoop_serves (room : budget.starts.length < MAX_ATTEMPTS) :
    (waiter.attempt, if budget.isAborted waiter.signal then .aborted else .started) ∈
      (budget.pumpLoop clock (waiter :: rest)).settled := by
  rw [Budget.pumpLoop, if_pos room]
  split
  · exact settled_pumpLoop rest _ List.mem_cons_self
  · exact List.mem_cons_self

theorem timer_serves {timer : TimerId} (isOpen : budget.closed = false) (idle : budget.frames = [])
    (isQueue : budget.waiters = waiter :: rest) (isArmed : timer ∈ budget.armed.map (·.1))
    (room : (budget.expire clock).starts.length < MAX_ATTEMPTS) :
    (waiter.attempt, if budget.isAborted waiter.signal then .aborted else .started) ∈
      (budgetStep clock budget (.timer timer)).settled := by
  obtain ⟨entry, isEntry, rfl⟩ := List.mem_map.mp isArmed
  have fires : budget.armed.any (·.1 = entry.1) :=
    List.any_eq_true.mpr ⟨entry, isEntry, decide_eq_true rfl⟩
  rw [budgetStep, if_pos ⟨idle, fires⟩, Budget.fire, Budget.pump]
  dsimp only
  rw [if_neg (by simp [Budget.cancelTimer, isOpen])]
  change _ ∈ (Budget.pumpLoop clock budget.waiters _).settled
  rw [isQueue]
  exact pumpLoop_serves room

/-- The budget kept in every run. -/
structure Budgeted (clock : Clock) (events : List BudgetEvent) (budget : Budget) : Prop where
  closedOpen : ∀ from', ((startTimes budget).filter fun time =>
    from' ≤ time ∧ time < from' + WINDOW_MS).length ≤ MAX_ATTEMPTS
  openClosed : ∀ from', ((startTimes budget).filter fun time =>
    from' < time ∧ time ≤ from' + WINDOW_MS).length ≤ MAX_ATTEMPTS
  fifo : (startedFromQueue budget).Pairwise (· > ·) ∧
    ∀ attempt ∈ startedFromQueue budget, ∀ waiter ∈ budget.waiters, attempt < waiter.attempt
  few : budget.waiters.length ≤ MAX_WAITERS
  /-- Every queued attempt waits, or was settled; once, and not both. -/
  settledOnce : budget.queued.Nodup ∧
    (budget.settled.map (·.1) ++ budget.waiters.map (·.attempt)).Perm budget.queued
  closedSettled : budget.closed = true → budget.waiters = []
  noLateStart : budget.closed = true → ∀ more,
    (budgetRun clock newBudget (events ++ more)).started = budget.started
  /-- While the pump calls an attempt, it has yet to arm its timer. -/
  timerArmed : budget.closed = false → budget.waiters ≠ [] → .pumping ∉ budget.frames →
    TimerArmed budget
  /-- The timer settles the first waiter as soon as the window has room. -/
  progress : budget.closed = false → budget.frames = [] → ∀ waiter rest timer,
    budget.waiters = waiter :: rest → timer ∈ budget.armed.map (·.1) →
    (budget.expire clock).starts.length < MAX_ATTEMPTS →
    (waiter.attempt, if budget.isAborted waiter.signal then .aborted else .started) ∈
      (budgetStep clock budget (.timer timer)).settled

/-- However attempts, aborts, timers and the close interleave, no window of a second sees more than
eight starts, the queue is served in order, and each queued attempt is settled once. -/
theorem attemptBudget_kept (clock : Clock) (events : List BudgetEvent) :
    Budgeted clock events (budgetRun clock newBudget events) := by
  have inv : Inv clock (budgetRun clock newBudget events) := inv_budgetRun inv_newBudget events
  have positive : 0 < MAX_ATTEMPTS := by decide
  refine {
    closedOpen := spaced_closedOpen positive inv.paced.spaced
    openClosed := spaced_openClosed positive inv.paced.spaced
    fifo := ⟨inv.queue.fifo, inv.queue.ahead⟩
    few := inv.queue.few
    settledOnce := ⟨inv.queue.order.imp fun greater => greater.ne', inv.queue.account⟩
    closedSettled := inv.closedEmpty
    noLateStart := fun isClosed more => ?_
    timerArmed := fun isOpen waits idle => (inv.timer isOpen waits).resolve_right idle
    progress := fun isOpen idle _ _ _ => timer_serves isOpen idle }
  have continued : budgetRun clock newBudget (events ++ more) =
      budgetRun clock (budgetRun clock newBudget events) more := List.foldl_append
  rw [continued]
  exact closed_budgetRun inv isClosed more

/-! Nine attempts at once: eight start, the ninth waits for a timer. -/

section Sample

/-- A millisecond a reading, and a pause of a second before the twentieth. -/
def sampleClock : Clock where
  now := fun reading => ((if reading < 19 then reading else reading + 1000 : Nat) : Rat)
  nondecreasing := by
    intro first second isLater
    have ordered : (if first < 19 then first else first + 1000) ≤
        (if second < 19 then second else second + 1000) := by split_ifs <;> omega
    exact Nat.cast_le.mpr ordered

def sampleBurst : List BudgetEvent := (List.replicate 9 [.run none, .attemptReturns]).flatten

example : (budgetRun sampleClock newBudget sampleBurst).waiters = [⟨8, none⟩] := by
  decide +kernel

example : (budgetRun sampleClock newBudget (sampleBurst ++ [.timer 0])).settled = [(8, .started)] := by
  decide +kernel

end Sample

end SolTokenListener.Guarantees.AttemptBudget
