import SolTokenListener.Source.HydrationPermits

/-!
# The permit queue is exclusive, and conserves work except after an abort

`Sound` says what the fields of the queue tell about the holders; every event keeps it. A drain ends where a
further call would return at once, so after every event that drains no waiter is left that could be
granted. The abort listener takes its waiter out of the queue without a drain. When that waiter was the
last scan, or the head of another context, a worker of the holding context is left at the head until the
next event that drains.
-/

namespace SolTokenListener.Guarantees.PermitQueue

open Lib.EventRun
open Source.HydrationPermits Source.HydrationPermits.Permits

/-! ## What is promised -/

/-- Any two holders are workers of one context. -/
def Exclusive (permits : Permits) : Prop :=
  permits.holders.Pairwise fun left right =>
    left.kind = .WORKER ∧ right.kind = .WORKER ∧ left.workerContext = right.workerContext ∧
      left.workerContext ≠ none

def activeReferences (permits : Permits) : Int :=
  if permits.permitKind = some .SCAN then 1 else permits.workerRouteReferences

/-- No waiter is left that a drain would grant. -/
def NoneStranded (permits : Permits) : Prop :=
  (permits.permitKind = none → permits.queue = []) ∧
    ∀ context, permits.permitKind = some .WORKER → permits.workerRouteContext = some context →
      (∀ waiter ∈ permits.queue, waiter.kind ≠ .SCAN) →
        ∀ next ∈ permits.queue.head?, ¬ (next.kind = .WORKER ∧ next.workerContext = some context)

structure Disciplined (permits : Permits) : Prop where
  exclusive : Exclusive permits
  bounded : activeReferences permits + permits.queue.length ≤ 1025
  settledOnce : (permits.settled.map Prod.fst).Nodup
  conserving : permits.closed = false → NoneStranded permits

/-- The waiter is all that keeps a worker of the holding context waiting: without it, such a worker is at
the head and no scan is queued. -/
structure Strands (permits : Permits) (waiter : Waiter) : Prop where
  isOpen : permits.closed = false
  isAborted : permits.isAborted waiter.signal = true
  queued : waiter ∈ permits.queue
  keepsWaiting : ∃ context, permits.permitKind = some .WORKER ∧ permits.workerRouteContext = some context ∧
    (∀ other ∈ permits.queue.erase waiter, other.kind ≠ .SCAN) ∧
    ∃ next ∈ (permits.queue.erase waiter).head?, next.kind = .WORKER ∧ next.workerContext = some context

/-! ## Grants -/

section Grant

variable (permits : Permits) (waiter : Waiter)

/-- What every grant does. -/
theorem grant_fields : (permits.grant waiter).queue = permits.queue ∧
    (permits.grant waiter).permitKind = some waiter.kind ∧
    (permits.grant waiter).holders = waiter :: permits.holders ∧
    (permits.grant waiter).settled = (waiter.id, .granted) :: permits.settled ∧
    (permits.grant waiter).nextId = permits.nextId ∧ (permits.grant waiter).closed = permits.closed := by
  unfold grant
  cases waiter.kind with
  | SCAN => exact ⟨rfl, rfl, rfl, rfl, rfl, rfl⟩
  | WORKER =>
    dsimp only
    split <;> exact ⟨rfl, rfl, rfl, rfl, rfl, rfl⟩

theorem grant_scan (isScan : waiter.kind = .SCAN) :
    (permits.grant waiter).workerRouteReferences = permits.workerRouteReferences := by
  unfold grant
  rw [isScan]
  rfl

theorem grant_worker (isWorker : waiter.kind = .WORKER) :
    (permits.grant waiter).workerRouteReferences = permits.workerRouteReferences + 1 ∧
      (permits.grant waiter).workerRouteContext =
        if permits.workerRouteReferences = 0 then waiter.workerContext else permits.workerRouteContext := by
  unfold grant
  rw [isWorker]
  dsimp only [settle]
  split <;> exact ⟨rfl, rfl⟩

end Grant

/-! ## The invariant -/

structure Sound (permits : Permits) : Prop where
  free : permits.permitKind = none → permits.holders = [] ∧ permits.workerRouteReferences = 0
  scan : permits.permitKind = some .SCAN →
    (∃ holder, permits.holders = [holder] ∧ holder.kind = .SCAN) ∧ permits.workerRouteReferences = 0
  worker : permits.permitKind = some .WORKER →
    permits.holders ≠ [] ∧ permits.workerRouteReferences = permits.holders.length ∧
      (∀ holder ∈ permits.holders, holder.kind = .WORKER ∧ holder.workerContext = permits.workerRouteContext) ∧
      (permits.workerRouteContext = none → permits.holders.length = 1)
  room : permits.queue.length + max 0 (permits.workerRouteReferences - 1) ≤ (MAX_PERMIT_WAITERS : Int)
  once : (permits.queue.map Waiter.id ++ permits.settled.map Prod.fst).Nodup
  known : ∀ id ∈ permits.queue.map Waiter.id ++ permits.settled.map Prod.fst, id < permits.nextId

variable {permits : Permits}

theorem mayShare_iff : permits.mayShare = true ↔
    ∃ context, permits.permitKind = some .WORKER ∧ permits.workerRouteContext = some context ∧
      (∀ waiter ∈ permits.queue, waiter.kind ≠ .SCAN) ∧
      ∃ next ∈ permits.queue.head?, next.kind = .WORKER ∧ next.workerContext = some context := by
  simp only [mayShare, decide_eq_true_eq, Option.isSome_iff_exists, Option.any_eq_true]
  constructor
  · rintro ⟨isWorker, ⟨context, isContext⟩, noScan, next, isNext, nextWorker, same⟩
    exact ⟨context, isWorker, isContext, noScan, next, isNext, nextWorker, same.trans isContext⟩
  · rintro ⟨context, isWorker, isContext, noScan, next, isNext, nextWorker, same⟩
    exact ⟨isWorker, ⟨context, isContext⟩, noScan, next, isNext, nextWorker, same.trans isContext.symm⟩

/-- What a further call of `drain` finds. -/
theorem drainStep_eq_some {next : Permits} (called : permits.drainStep = some next) :
    ∃ waiter rest, permits.queue = waiter :: rest ∧ permits.closed = false ∧
      (permits.permitKind = none ∨ permits.mayShare = true) ∧
      (next = { permits with queue := rest }.settle waiter.id .rejected ∨
        next = grant { permits with queue := rest } waiter) := by
  unfold drainStep at called
  split at called
  · cases called
  next isOpen =>
  split at called
  · cases called
  next goesOn =>
  split at called
  · cases called
  next waiter rest isQueue =>
  refine ⟨waiter, rest, isQueue, Bool.eq_false_iff.mpr isOpen, ?_, ?_⟩
  · by_cases isFree : permits.permitKind = none
    · exact .inl isFree
    · exact .inr (not_not.mp fun alone => goesOn ⟨Option.isSome_iff_ne_none.mpr isFree, alone⟩)
  · have isNext := (Option.some.inj called).symm
    split at isNext
    · exact .inl isNext
    · exact .inr isNext

theorem drainStep_eq_none (isOpen : permits.closed = false) :
    permits.drainStep = none ↔ NoneStranded permits := by
  unfold Permits.drainStep
  rw [if_neg (Bool.eq_false_iff.mp isOpen)]
  constructor
  · intro returns
    refine ⟨fun isFree => ?_, fun context isWorker isContext noScan next isNext joins => ?_⟩
    · rw [if_neg (by simp [isFree])] at returns
      split at returns
      · next isEmpty => exact isEmpty
      · cases returns
    · have shares : permits.mayShare = true :=
        mayShare_iff.mpr ⟨context, isWorker, isContext, noScan, next, isNext, joins⟩
      rw [if_neg (by simp [shares])] at returns
      split at returns
      · next isEmpty =>
          rw [isEmpty] at isNext
          cases isNext
      · cases returns
  · rintro ⟨whenFree, whenShared⟩
    split
    · rfl
    next goesOn =>
    by_cases isFree : permits.permitKind = none
    · rw [whenFree isFree]
    · have shares : permits.mayShare = true :=
        not_not.mp fun alone => goesOn ⟨Option.isSome_iff_ne_none.mpr isFree, alone⟩
      obtain ⟨context, isWorker, isContext, noScan, next, isNext, joins⟩ := mayShare_iff.mp shares
      exact absurd joins (whenShared context isWorker isContext noScan next isNext)

theorem Sound.drainStep {next : Permits} (sound : Sound permits)
    (called : permits.drainStep = some next) : Sound next := by
  obtain ⟨waiter, rest, isQueue, isOpen, mayGrant, made⟩ := drainStep_eq_some called
  have room := sound.room
  have once := sound.once
  have known := sound.known
  rw [isQueue, List.length_cons] at room
  rw [isQueue] at once known
  -- The waiter's name moves from the queue to the settled ones.
  have moved : List.Perm (waiter.id :: (rest.map Waiter.id ++ permits.settled.map Prod.fst))
      (rest.map Waiter.id ++ waiter.id :: permits.settled.map Prod.fst) := List.perm_middle.symm
  have stillOnce := moved.nodup_iff.mp once
  have stillKnown : ∀ id ∈ rest.map Waiter.id ++ waiter.id :: permits.settled.map Prod.fst, id < permits.nextId :=
    fun id member => known id (moved.mem_iff.mpr member)
  rcases made with rfl | made
  · exact ⟨sound.free, sound.scan, sound.worker, by dsimp only [settle]; omega, stillOnce, stillKnown⟩
  · obtain ⟨queue, kind, holders, settled, nextId, -⟩ := grant_fields { permits with queue := rest } waiter
    have asScan := grant_scan { permits with queue := rest } waiter
    have asWorker := grant_worker { permits with queue := rest } waiter
    rw [← made] at queue kind holders settled nextId asScan asWorker
    have nextOnce : (next.queue.map Waiter.id ++ next.settled.map Prod.fst).Nodup := by
      rwa [queue, settled]
    have nextKnown : ∀ id ∈ next.queue.map Waiter.id ++ next.settled.map Prod.fst, id < next.nextId := by
      rwa [queue, settled, nextId]
    dsimp only at queue holders settled nextId asScan asWorker
    clear made
    cases isKind : waiter.kind with
    | SCAN =>
      have references := asScan isKind
      have isFree : permits.permitKind = none := by
        refine mayGrant.resolve_right fun shares => ?_
        obtain ⟨_, _, _, noScan, _⟩ := mayShare_iff.mp shares
        exact noScan waiter (by rw [isQueue]; exact List.mem_cons_self) isKind
      obtain ⟨noHolder, noReference⟩ := sound.free isFree
      refine ⟨?_, fun _ => ⟨⟨waiter, ?_, isKind⟩, ?_⟩, ?_, ?_, nextOnce, nextKnown⟩
      · rw [kind]
        exact nofun
      · rw [holders, noHolder]
      · rw [references, noReference]
      · rw [kind, isKind]
        exact nofun
      · rw [queue, references]
        omega
    | WORKER =>
      obtain ⟨references, context⟩ := asWorker isKind
      rcases mayGrant with isFree | shares
      · obtain ⟨noHolder, noReference⟩ := sound.free isFree
        rw [if_pos noReference] at context
        refine ⟨?_, ?_, fun _ => ⟨?_, ?_, ?_, ?_⟩, ?_, nextOnce, nextKnown⟩
        · rw [kind]
          exact nofun
        · rw [kind, isKind]
          exact nofun
        · rw [holders]
          exact List.cons_ne_nil _ _
        · rw [references, holders, noHolder, noReference]
          rfl
        · rw [holders, noHolder, context]
          intro holder member
          rw [List.mem_singleton.mp member]
          exact ⟨isKind, rfl⟩
        · rw [holders, noHolder]
          exact fun _ => rfl
        · rw [queue, references]
          omega
      · obtain ⟨shared, isWorker, isShared, -, first, isFirst, -, joins⟩ := mayShare_iff.mp shares
        rw [isQueue, List.head?_cons, Option.mem_def, Option.some.injEq] at isFirst
        subst isFirst
        obtain ⟨someHolder, count, ofRoute, -⟩ := sound.worker isWorker
        have positive := List.length_pos_iff.mpr someHolder
        rw [if_neg (by omega), isShared] at context
        refine ⟨?_, ?_, fun _ => ⟨?_, ?_, ?_, ?_⟩, ?_, nextOnce, nextKnown⟩
        · rw [kind]
          exact nofun
        · rw [kind, isKind]
          exact nofun
        · rw [holders]
          exact List.cons_ne_nil _ _
        · rw [references, holders, count, List.length_cons]
          push_cast
          rfl
        · rw [holders, context]
          intro holder member
          rcases List.mem_cons.mp member with rfl | earlier
          · exact ⟨isKind, joins⟩
          · exact ⟨(ofRoute holder earlier).1, (ofRoute holder earlier).2.trans isShared⟩
        · rw [context]
          exact nofun
        · rw [queue, references]
          omega

theorem drainStep_length {next : Permits} (called : permits.drainStep = some next) :
    permits.queue.length = next.queue.length + 1 := by
  obtain ⟨waiter, rest, isQueue, -, -, rfl | rfl⟩ := drainStep_eq_some called
  · rw [isQueue]
    rfl
  · rw [isQueue, (grant_fields _ waiter).1, List.length_cons]

/-- A drain ends where a further call would return at once. -/
theorem drainFor_ends {calls : Nat} (sound : Sound permits) (enough : permits.queue.length ≤ calls) :
    Sound (drainFor calls permits) ∧ (drainFor calls permits).drainStep = none := by
  induction calls generalizing permits with
  | zero =>
    refine ⟨sound, ?_⟩
    cases called : permits.drainStep with
    | none => exact called
    | some next =>
      have := drainStep_length called
      omega
  | succ calls ih =>
    rw [drainFor]
    split
    · next returns => exact ⟨sound, returns⟩
    · next next called =>
        have := drainStep_length called
        exact ih (sound.drainStep called) (by omega)

theorem Sound.drain (sound : Sound permits) :
    Sound permits.drain ∧ permits.drain.drainStep = none := drainFor_ends sound (Nat.le_refl _)

/-! ## Events -/

/-- Sound, and no waiter is left that could be granted. -/
def Quiet (permits : Permits) : Prop := Sound permits ∧ permits.drainStep = none

/-- The state after an event is sound, and as quiet as the one before. -/
def Keeps (before after : Permits) : Prop := Sound after ∧ (before.drainStep = none → after.drainStep = none)

theorem Sound.keeps_drain {before : Permits} (sound : Sound permits) : Keeps before permits.drain :=
  ⟨sound.drain.1, fun _ => sound.drain.2⟩

theorem acquire_keeps (sound : Sound permits) (kind : PermitKind) (signal : Option Nat)
    (workerContext : Option RouteContext) : Keeps permits (permits.acquire kind signal workerContext) := by
  unfold acquire
  split
  · exact ⟨sound, id⟩
  split
  · exact ⟨sound, id⟩
  next room =>
  refine Sound.keeps_drain ⟨sound.free, sound.scan, sound.worker, ?_, ?_, ?_⟩
  · simp only [List.length_append, List.length_singleton]
    push_cast
    omega
  · have fresh : permits.nextId ∉ permits.queue.map Waiter.id ++ permits.settled.map Prod.fst :=
      fun member => Nat.lt_irrefl _ (sound.known _ member)
    have moved : List.Perm (permits.nextId :: (permits.queue.map Waiter.id ++ permits.settled.map Prod.fst))
        (permits.queue.map Waiter.id ++ permits.nextId :: permits.settled.map Prod.fst) := List.perm_middle.symm
    simp only [List.map_append, List.map_singleton, List.append_assoc, List.singleton_append]
    exact moved.nodup_iff.mp (List.nodup_cons.mpr ⟨fresh, sound.once⟩)
  · intro id member
    simp only [List.map_append, List.map_singleton, List.append_assoc, List.singleton_append, List.mem_append,
      List.mem_cons] at member
    rcases member with queued | rfl | earlier
    · exact Nat.lt_succ_of_lt (sound.known id (List.mem_append_left _ queued))
    · exact Nat.lt_succ_self _
    · exact Nat.lt_succ_of_lt (sound.known id (List.mem_append_right _ earlier))

theorem onAbort_sound (sound : Sound permits) (waiter : Waiter) :
    Sound (permits.onAbort waiter) := by
  unfold onAbort
  split
  · next queued =>
      have shorter := List.length_erase_of_mem queued
      have moved : List.Perm (permits.queue.map Waiter.id ++ permits.settled.map Prod.fst)
          ((permits.queue.erase waiter).map Waiter.id ++ waiter.id :: permits.settled.map Prod.fst) := by
        have taken := ((List.perm_cons_erase queued).map Waiter.id).append_right (permits.settled.map Prod.fst)
        exact taken.trans List.perm_middle.symm
      refine ⟨sound.free, sound.scan, sound.worker, ?_, moved.nodup_iff.mp sound.once,
        fun id member => sound.known id (moved.mem_iff.mpr member)⟩
      have room := sound.room
      dsimp only [settle]
      omega
  · exact sound

theorem returns_of_closed (isClosed : permits.closed = true) : permits.drainStep = none := by
  unfold Permits.drainStep
  rw [if_pos isClosed]

/-- Whether a drain would go on does not depend on the references and the holders. -/
theorem returns_of_same {other : Permits} (returns : permits.drainStep = none)
    (sameClosed : other.closed = permits.closed) (same : NoneStranded permits → NoneStranded other) :
    other.drainStep = none := by
  cases isClosed : permits.closed with
  | false => exact (drainStep_eq_none (sameClosed.trans isClosed)).mpr (same ((drainStep_eq_none isClosed).mp returns))
  | true => exact returns_of_closed (sameClosed.trans isClosed)

variable {waiter : Waiter}

theorem kind_of_holder (sound : Sound permits) (holds : waiter ∈ permits.holders) :
    permits.permitKind = some waiter.kind := by
  cases held : permits.permitKind with
  | none =>
    rw [(sound.free held).1] at holds
    cases holds
  | some kind =>
    cases kind with
    | SCAN =>
      obtain ⟨⟨holder, only, isScan⟩, -⟩ := sound.scan held
      rw [only] at holds
      rw [List.mem_singleton.mp holds, isScan]
    | WORKER => rw [((sound.worker held).2.2.1 waiter holds).1]

/-- The last holder has left: the permit is free, and the queue is drained. -/
theorem release_keeps {before : Permits} (noHolder : permits.holders = [])
    (noReference : permits.workerRouteReferences = 0)
    (room : permits.queue.length ≤ (MAX_PERMIT_WAITERS : Int))
    (once : (permits.queue.map Waiter.id ++ permits.settled.map Prod.fst).Nodup)
    (known : ∀ id ∈ permits.queue.map Waiter.id ++ permits.settled.map Prod.fst, id < permits.nextId) :
    Keeps before permits.release := by
  refine Sound.keeps_drain ⟨fun _ => ⟨noHolder, noReference⟩, nofun, nofun, ?_, once, known⟩
  dsimp only
  omega

theorem releaseHolder_keeps (sound : Sound permits) (waiter : Waiter) :
    Keeps permits (permits.releaseHolder waiter) := by
  have room := sound.room
  unfold releaseHolder
  split
  · next holds =>
      have isHeld := kind_of_holder sound holds
      have fewer := List.length_erase_of_mem holds
      have positive := List.length_pos_of_mem holds
      cases isKind : waiter.kind with
      | SCAN =>
        rw [isKind] at isHeld
        obtain ⟨⟨holder, only, -⟩, noReference⟩ := sound.scan isHeld
        refine release_keeps ?_ noReference ?_ sound.once sound.known
        · have one := congrArg List.length only
          rw [List.length_singleton] at one
          exact List.length_eq_zero_iff.mp (by dsimp only; omega)
        · dsimp only
          omega
      | WORKER =>
        rw [isKind] at isHeld
        obtain ⟨-, count, ofRoute, unshared⟩ := sound.worker isHeld
        dsimp only [releaseWorkerRoute]
        split
        · next last =>
            refine release_keeps ?_ last ?_ sound.once sound.known
            · exact List.length_eq_zero_iff.mp (by dsimp only; omega)
            · dsimp only
              omega
        · next others =>
            refine ⟨⟨?_, ?_, fun _ => ⟨?_, ?_, ?_, ?_⟩, ?_, sound.once, sound.known⟩, ?_⟩
            · exact fun isFree => absurd (isFree.symm.trans isHeld) nofun
            · exact fun isScan => absurd (isScan.symm.trans isHeld) nofun
            · exact List.length_pos_iff.mp (by dsimp only; omega)
            · dsimp only
              omega
            · exact fun holder member => ofRoute holder (List.mem_of_mem_erase member)
            · intro isNone
              have := unshared isNone
              omega
            · dsimp only
              omega
            · exact fun returns => returns_of_same returns rfl id
  · exact ⟨sound, id⟩

theorem close_keeps (sound : Sound permits) : Keeps permits permits.close := by
  unfold Permits.close
  split
  · exact ⟨sound, id⟩
  · have moved : List.Perm (permits.queue.map Waiter.id ++ permits.settled.map Prod.fst)
        (((permits.queue.map fun waiter => (waiter.id, Settlement.rejected)).reverse ++ permits.settled).map
          Prod.fst) := by
      rw [List.map_append, List.map_reverse, List.map_map]
      exact (List.reverse_perm _).symm.append_right _
    refine ⟨⟨sound.free, sound.scan, sound.worker, ?_, moved.nodup_iff.mp sound.once,
      fun id member => sound.known id (moved.mem_iff.mpr member)⟩, ?_⟩
    · have room := sound.room
      simp only [List.length_nil]
      omega
    · exact fun _ => returns_of_closed rfl

theorem onAbort_returns (returns : permits.drainStep = none)
    (isAborted : permits.isAborted waiter.signal = true) (fine : ¬ Strands permits waiter) :
    (permits.onAbort waiter).drainStep = none := by
  by_cases queued : waiter ∈ permits.queue
  · have same : permits.onAbort waiter =
        { permits with queue := permits.queue.erase waiter }.settle waiter.id .rejected := if_pos queued
    cases isClosed : permits.closed with
    | true => exact returns_of_closed (by rw [same]; exact isClosed)
    | false =>
      have before := (drainStep_eq_none isClosed).mp returns
      refine (drainStep_eq_none (by rw [same]; exact isClosed)).mpr ⟨fun isFree => ?_, ?_⟩
      · rw [same] at isFree
        rw [before.1 isFree] at queued
        cases queued
      · rw [same]
        intro context isWorker isContext noScan next isNext joins
        exact fine ⟨isClosed, isAborted, queued, context, isWorker, isContext, noScan, next, isNext, joins⟩
  · rw [show permits.onAbort waiter = permits from if_neg queued]
    exact returns

theorem step_sound (sound : Sound permits) (event : PermitEvent) :
    Sound (step permits event) ∧ (permits.drainStep = none →
      (∀ waiter, event = .onAbort waiter → ¬ Strands permits waiter) → (step permits event).drainStep = none) := by
  cases event with
  | acquire kind signal workerContext =>
    obtain ⟨after, returns⟩ := acquire_keeps sound kind signal workerContext
    exact ⟨after, fun before _ => returns before⟩
  | abortSignal signal =>
    exact ⟨⟨sound.free, sound.scan, sound.worker, sound.room, sound.once, sound.known⟩,
      fun before _ => returns_of_same before rfl id⟩
  | onAbort waiter =>
    dsimp only [step]
    split
    · next isAborted =>
        exact ⟨onAbort_sound sound waiter, fun before fine => onAbort_returns before isAborted (fine waiter rfl)⟩
    · exact ⟨sound, fun before _ => before⟩
  | releaseHolder waiter =>
    obtain ⟨after, returns⟩ := releaseHolder_keeps sound waiter
    exact ⟨after, fun before _ => returns before⟩
  | close =>
    obtain ⟨after, returns⟩ := close_keeps sound
    exact ⟨after, fun before _ => returns before⟩

theorem step_quiet (quiet : Quiet permits) {event : PermitEvent}
    (fine : ∀ waiter, event = .onAbort waiter → ¬ Strands permits waiter) : Quiet (step permits event) :=
  ⟨(step_sound quiet.1 event).1, (step_sound quiet.1 event).2 quiet.2 fine⟩

/-! ## Runs -/

theorem Sound.exclusive (sound : Sound permits) : Exclusive permits := by
  unfold Exclusive
  cases held : permits.permitKind with
  | none =>
    rw [(sound.free held).1]
    exact List.Pairwise.nil
  | some kind =>
    cases kind with
    | SCAN =>
      obtain ⟨⟨holder, only, -⟩, -⟩ := sound.scan held
      rw [only]
      exact List.pairwise_singleton _ _
    | WORKER =>
      obtain ⟨-, -, ofRoute, unshared⟩ := sound.worker held
      cases isContext : permits.workerRouteContext with
      | none =>
        obtain ⟨holder, only⟩ := List.length_eq_one_iff.mp (unshared isContext)
        rw [only]
        exact List.pairwise_singleton _ _
      | some context =>
        rw [isContext] at ofRoute
        refine List.pairwise_of_forall_mem_list fun left isLeft right isRight => ?_
        obtain ⟨leftWorker, leftContext⟩ := ofRoute left isLeft
        obtain ⟨rightWorker, rightContext⟩ := ofRoute right isRight
        exact ⟨leftWorker, rightWorker, leftContext.trans rightContext.symm, by rw [leftContext]; exact nofun⟩

theorem Sound.bounded (sound : Sound permits) :
    activeReferences permits + permits.queue.length ≤ 1025 := by
  have room := sound.room
  simp only [MAX_PERMIT_WAITERS] at room
  unfold activeReferences
  split
  · next isScan =>
      have := (sound.scan isScan).2
      omega
  · omega

theorem Quiet.disciplined (quiet : Quiet permits) : Disciplined permits :=
  ⟨quiet.1.exclusive, quiet.1.bounded, (List.nodup_append.mp quiet.1.once).2.1,
    fun isOpen => (drainStep_eq_none isOpen).mp quiet.2⟩

theorem start_quiet : Quiet start :=
  ⟨⟨fun _ => ⟨rfl, rfl⟩, nofun, nofun, by decide, List.nodup_nil, nofun⟩, rfl⟩

/-- A step to a disciplined state was no abort that strands a waiter. -/
theorem not_strands (after : Disciplined (step permits (.onAbort waiter))) :
    ¬ Strands permits waiter := by
  rintro ⟨isOpen, isAborted, queued, context, isWorker, isContext, noScan, next, isNext, joins⟩
  dsimp only [step] at after
  rw [if_pos isAborted, onAbort, if_pos queued] at after
  exact (after.conserving isOpen).2 context isWorker isContext noScan next isNext joins

theorem always_iff (quiet : Quiet permits) (events : List PermitEvent) :
    Always step Disciplined permits events ↔
      ∀ before waiter after, events = before ++ .onAbort waiter :: after →
        ¬ Strands (run step permits before) waiter := by
  induction events generalizing permits with
  | nil => exact iff_of_true quiet.disciplined fun before waiter after split => by simp at split
  | cons event events ih =>
    constructor
    · rintro ⟨-, always⟩
      have fine : ∀ waiter, event = .onAbort waiter → ¬ Strands permits waiter := by
        rintro waiter rfl
        exact not_strands always.first
      have later := (ih (step_quiet quiet fine)).mp always
      rintro (_ | ⟨first, before⟩) waiter after split
      · exact fine waiter (List.cons.inj split).1
      · obtain ⟨rfl, rest⟩ := List.cons.inj split
        exact later before waiter after rest
    · intro fine
      refine ⟨quiet.disciplined, (ih (step_quiet quiet ?_)).mpr ?_⟩
      · rintro waiter rfl
        exact fine [] waiter events rfl
      · rintro before waiter after rfl
        exact fine (event :: before) waiter after rfl

/-- Along a run the queue is exclusive, bounded, settles every waiter once and leaves no waiter it could grant,
exactly when no abort in the run takes away the waiter that kept a worker of the holding context waiting. -/
theorem permitQueue_disciplined_iff (events : List PermitEvent) :
    Always step Disciplined start events ↔
      ∀ before waiter after, events = before ++ .onAbort waiter :: after →
        ¬ Strands (run step start before) waiter :=
  always_iff start_quiet events

/-- No abort breaks the rest: in every run the queue is exclusive and bounded and settles each waiter once. -/
theorem run_sound (events : List PermitEvent) : Sound (run step start events) :=
  @run_invariant _ _ step Sound (fun _ event sound => (step_sound sound event).1) _ start_quiet.1 events

/-! ## A stranded worker -/

def sampleContext : RouteContext := ⟨"primary", "worker:1"⟩

/-- A worker holds the route, a scan and a second worker of its context wait, and the scan is aborted. -/
def abortedScan : List PermitEvent := [
  .acquire .WORKER none (some sampleContext),
  .acquire .SCAN (some 0) none,
  .acquire .WORKER none (some sampleContext),
  .abortSignal 0,
  .onAbort ⟨1, .SCAN, none, some 0⟩]

theorem abortedScan_strands :
    (run step start abortedScan).queue = [⟨2, .WORKER, some sampleContext, none⟩] ∧
      ¬ Always step Disciplined start abortedScan := by
  refine ⟨by decide, fun always => ?_⟩
  have fine := (always_iff start_quiet abortedScan).mp always (abortedScan.take 4) ⟨1, .SCAN, none, some 0⟩ [] rfl
  exact fine ⟨by decide, by decide, by decide, sampleContext, by decide, by decide, by decide,
    ⟨2, .WORKER, some sampleContext, none⟩, by decide, by decide⟩

end SolTokenListener.Guarantees.PermitQueue
