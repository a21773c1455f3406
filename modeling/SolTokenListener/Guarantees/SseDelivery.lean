import SolTokenListener.Lib.OrderedLog
import SolTokenListener.Source.SseSessions

/-!
# What a session delivers

The events a session writes are the rows of the stream behind its start, in order, each once and none left
out. A session that ends leaves its reader with the sequence to come back with, so the same holds over any
number of reconnections. What expired before it was read is skipped only by a reader without a cursor.
-/

namespace SolTokenListener.Guarantees.SseDelivery

open Lib.OrderedLog Lib.EventRun Source.SseSessions SseSession

/-- The rows of the stream behind a position, without the first `skipped`. -/
def rowsAfter (stream : EventStream) (skipped position : Nat) : List ApiStreamRevision :=
  after (·.sequence) position (stream.rows.drop skipped)

def eventsOf (frames : List Frame) : List ApiStreamRevision :=
  frames.filterMap fun frame => match frame with
    | .event revision => some revision
    | _ => none

def sent (s : SseSession) : List ApiStreamRevision := eventsOf s.written

/-- Only rows past their retention were skipped, and only for a reader without a cursor. -/
structure Skips (stream : EventStream) (startAfter skipped : Nat) : Prop where
  expired : skipped ≤ stream.expired
  fromStart : 0 < skipped → startAfter = 0

/-- The rows are the first ones behind the start. -/
def Delivered (stream : EventStream) (startAfter : Nat) (rows : List ApiStreamRevision) : Prop :=
  ∃ skipped, Skips stream startAfter skipped ∧ rows <+: rowsAfter stream skipped startAfter

/-- Where a session began. -/
structure Origin where
  stream : EventStream
  startAfter : Nat

/-- The stream has grown from that of the origin: what was read there is read here. -/
def Grown (origin : Origin) (stream : EventStream) : Prop :=
  ∀ startAfter rows, Delivered origin.stream startAfter rows → Delivered stream startAfter rows

/-! ## Between the stream and a session -/

section Stream

variable {origin : Origin} {stream : EventStream} {startAfter position : Nat}
  {rows part sent atHand : List ApiStreamRevision} {revision : ApiStreamRevision}

theorem Delivered.of_prefix (delivered : Delivered stream startAfter rows) (isPrefix : part <+: rows) :
    Delivered stream startAfter part :=
  delivered.imp fun _ whole => ⟨whole.1, isPrefix.trans whole.2⟩

theorem skips_none : Skips stream startAfter 0 := ⟨Nat.zero_le _, nofun⟩

theorem delivered_nil : Delivered stream startAfter [] := ⟨0, skips_none, List.nil_prefix⟩

theorem Delivered.expire (delivered : Delivered stream startAfter rows) (more : Nat) :
    Delivered (stream.expire more) startAfter rows :=
  delivered.imp fun _ whole => ⟨⟨Nat.le_trans whole.1.expired
    (Nat.le_min.mpr ⟨Nat.le_add_right _ _, stream.stored⟩), whole.1.fromStart⟩, whole.2⟩

theorem Delivered.insert (delivered : Delivered stream startAfter rows) (revision : ApiStreamRevision) :
    Delivered (stream.insert revision) startAfter rows := by
  obtain ⟨skipped, skips, isPrefix⟩ := delivered
  unfold EventStream.insert
  split
  · refine ⟨skipped, { skips with }, ?_⟩
    rw [rowsAfter, List.drop_append_of_le_length (Nat.le_trans skips.expired stream.stored), after_append]
    exact isPrefix.trans (List.prefix_append _ _)
  · exact ⟨skipped, skips, isPrefix⟩

theorem retained_of_current (current : stream.resolve position = .CURRENT) :
    ∃ row ∈ stream.retained, row.sequence = position := by
  unfold EventStream.resolve at current
  split at current
  · cases current
  split at current
  · next isRetained => simpa using isRetained
  · cases current

/-- A query answers with the next rows, or with an error: behind a cursor nothing that expired is skipped. -/
theorem delivered_read {limit : Nat} (answer : stream.readAfter position limit = .ok rows) :
    Delivered stream position rows := by
  unfold EventStream.readAfter at answer
  split at answer
  · next accepted =>
    cases answer
    rcases accepted with isZero | current
    · exact ⟨stream.expired, ⟨Nat.le_refl _, fun _ => isZero⟩, List.take_prefix _ _⟩
    · obtain ⟨row, mem, isPosition⟩ := retained_of_current current
      have whole : after (·.sequence) position stream.retained = rowsAfter stream 0 position :=
        isPosition ▸ after_drop stream.ascending mem
      exact ⟨0, skips_none, whole ▸ List.take_prefix _ _⟩
  · split at answer <;> cases answer

/-- The sequence to go on behind. -/
def lastOf (startAfter : Nat) (rows : List ApiStreamRevision) : Nat :=
  (rows.getLast?.map (·.sequence)).getD startAfter

/-- What is read behind the last row received continues what was received before. -/
theorem Delivered.resume (before : Delivered stream startAfter rows)
    (reads : Delivered stream (lastOf startAfter rows) part) : Delivered stream startAfter (rows ++ part) := by
  rcases List.eq_nil_or_concat' rows with rfl | ⟨front, last, rfl⟩
  · exact reads
  rw [lastOf, List.getLast?_concat] at reads
  obtain ⟨skipped, skips, tail, split⟩ := before
  obtain ⟨none, isNone, isPrefix⟩ := reads
  have isBehind : last ∈ rowsAfter stream skipped startAfter :=
    split ▸ List.mem_append_left _ (List.mem_append_right _ List.mem_cons_self)
  have mem : last ∈ stream.rows.drop skipped := (List.mem_filter.mp isBehind).1
  obtain rfl : none = 0 := by
    by_contra skipsSome
    have positive := stream.positive last (List.mem_of_mem_drop mem)
    exact absurd (isNone.fromStart (Nat.pos_of_ne_zero skipsSome)) (Nat.ne_of_gt positive)
  have behind : rowsAfter stream 0 last.sequence = tail := by
    rw [List.append_assoc] at split
    have ascending := stream.ascending.sublist (List.drop_sublist skipped stream.rows)
    exact (after_drop stream.ascending mem).symm.trans (after_of_split ascending split.symm)
  refine ⟨skipped, skips, ?_⟩
  rw [← split, List.prefix_append_right_inj, ← behind]
  exact isPrefix

/-- The rows sent and those at hand are the first ones behind the start; the position is that of the last sent. -/
structure Reads (origin : Origin) (stream : EventStream) (sent : List ApiStreamRevision) (position : Nat)
    (atHand : List ApiStreamRevision) : Prop where
  next : Delivered stream origin.startAfter (sent ++ atHand)
  grown : Grown origin stream
  position : lastOf origin.startAfter sent = position

theorem Reads.stop (reads : Reads origin stream sent position atHand) : Reads origin stream sent position [] :=
  ⟨reads.next.of_prefix ((List.prefix_append_right_inj sent).mpr List.nil_prefix), reads.grown, reads.position⟩

/-- The next row is written. -/
theorem Reads.send (reads : Reads origin stream sent position (revision :: atHand)) :
    Reads origin stream (sent ++ [revision]) revision.sequence atHand :=
  ⟨List.append_assoc sent [revision] atHand ▸ reads.next, reads.grown, by rw [lastOf, List.getLast?_concat]; rfl⟩

theorem Reads.read (reads : Reads origin stream sent position atHand) {limit : Nat}
    (answer : stream.readAfter position limit = .ok rows) : Reads origin stream sent position rows :=
  have before := reads.next.of_prefix (List.prefix_append sent atHand)
  ⟨before.resume (reads.position ▸ delivered_read answer), reads.grown, reads.position⟩

end Stream

/-! ## A session that is open -/

def queuedEvents (operations : List Operation) : List ApiStreamRevision :=
  operations.filterMap fun operation => match operation with
    | .event revision => some revision
    | _ => none

/-- The event the poll has queued and awaits. -/
def awaited : Polling → List ApiStreamRevision
  | .writing revision _ => [revision]
  | _ => []

/-- What the poll has yet to see written. -/
def batch : Polling → List ApiStreamRevision
  | .answered (.ok revisions) => revisions
  | .writing revision rest => revision :: rest
  | .resumed .rejected _ => []
  | .resumed _ rest => rest
  | _ => []

/-- The rows whose writing has settled, `taken`, and the poll's batch are read; of the batch the first row may
have been written and be draining. -/
structure Live (origin : Origin) (s : SseSession) (taken : List ApiStreamRevision) : Prop where
  written : sent s = taken ++ queuedEvents s.draining.toList
  reads : Reads origin s.stream taken s.lastSequence (batch s.polling)
  queue : queuedEvents (s.draining.toList ++ s.writeTail) = awaited s.polling
  idle : s.started = false → s.polling = .off

/-- What every step keeps. -/
structure Inv (origin : Origin) (s : SseSession) : Prop where
  delivered : Delivered s.stream origin.startAfter (sent s)
  grown : Grown origin s.stream
  live : s.closed = false → ∃ taken, Live origin s taken

variable {origin : Origin} {s : SseSession} {polling : Polling} {operation : Operation} {rest : List Operation}
  {revision : ApiStreamRevision} {revisions more taken : List ApiStreamRevision}

theorem queuedEvents_append (operations more : List Operation) :
    queuedEvents (operations ++ more) = queuedEvents operations ++ queuedEvents more :=
  List.filterMap_append

theorem awaited_isPrefix (polling : Polling) : awaited polling <+: batch polling := by
  cases polling with
  | writing revision rest => exact List.prefix_append [revision] rest
  | off | scheduled | reading | answered | resumed => exact List.nil_prefix

theorem Live.inv (live : Live origin s taken) : Inv origin s := by
  refine ⟨live.reads.next.of_prefix ?_, live.reads.grown, fun _ => ⟨taken, live⟩⟩
  have queue := live.queue
  rw [queuedEvents_append] at queue
  rw [live.written, List.prefix_append_right_inj]
  exact (queue ▸ List.prefix_append _ _).trans (awaited_isPrefix s.polling)

theorem inv_newSession (origin : Origin) (batchSize : Nat) :
    Inv origin (newSession origin.startAfter batchSize origin.stream) :=
  @Live.inv origin _ []
    { written := rfl
      reads := ⟨delivered_nil, fun _ _ => id, rfl⟩
      queue := rfl
      idle := fun _ => rfl }

theorem Live.begun (live : Live origin s taken) (polls : s.polling ≠ .off) : s.started = false → polling = .off :=
  fun idle => absurd (live.idle idle) polls

theorem Live.enqueued (live : Live origin s taken) (operation : Operation) : queuedEvents (s.draining.toList ++
    (s.writeTail ++ [operation])) = awaited s.polling ++ queuedEvents [operation] := by
  rw [← List.append_assoc, queuedEvents_append, live.queue]

/-- The poll goes where it has nothing at hand. -/
theorem Live.turn (live : Live origin s taken) (settled : awaited s.polling = [])
    (still : awaited polling = [] ∧ batch polling = []) (idle : s.started = false → polling = .off) :
    Live origin { s with polling } taken :=
  { live with
    reads := still.2 ▸ live.reads.stop
    queue := live.queue.trans (settled.trans still.1.symm)
    idle := idle }

/-- The loop of a poll takes up the rest of its batch. -/
theorem Live.writeNext (live : Live origin s taken) (settled : awaited s.polling = []) (polls : s.polling ≠ .off)
    (isBatch : batch s.polling = revisions) : Live origin (s.writeNext revisions) taken := by
  cases revisions with
  | nil =>
    refine live.turn settled ?_ (live.begun polls)
    split <;> exact ⟨rfl, rfl⟩
  | cons revision rest =>
    have reads := live.reads
    rw [isBatch] at reads
    exact ⟨live.written, reads, (live.enqueued _).trans (congrArg (· ++ [revision]) settled), live.begun polls⟩

theorem Live.heartbeat (live : Live origin s taken) : Live origin s.heartbeat taken :=
  { live with queue := (live.enqueued _).trans (List.append_nil _) }

/-! ## Operations -/

/-- An operation without an event settles. -/
theorem Live.settle_other (live : Live origin s taken) (other : queuedEvents [operation] = [])
    (outcome : Outcome) : Live origin (s.settle outcome operation) taken := by
  cases operation with
  | event revision => cases other
  | heartbeat => exact { live with }
  | closing reason code => cases reason <;> exact { live with }

theorem sent_write (s : SseSession) (frame : Frame) : sent (s.write frame) = sent s ++ eventsOf [frame] :=
  List.filterMap_append

theorem eventsOf_terminalFrame (reason : SseCloseReason) (code : StreamErrorCode) :
    eventsOf [terminalFrame reason code] = [] := by
  unfold terminalFrame
  split <;> rfl

/-- It does not matter which operation drains, if it has no event. -/
theorem Live.drains (live : Live origin s taken) {draining : Option Operation}
    (same : queuedEvents draining.toList = queuedEvents s.draining.toList) :
    Live origin { s with draining } taken :=
  { live with
    written := live.written.trans (congrArg (taken ++ ·) same.symm)
    queue := by rw [queuedEvents_append, same, ← queuedEvents_append, live.queue] }

/-- A frame without an event is written. -/
theorem Live.writeFrame_other (live : Live origin s taken) (calm : s.draining = none)
    (other : queuedEvents [operation] = []) {frame : Frame} (noEvent : eventsOf [frame] = []) (accepted : Bool) :
    Live origin (s.writeFrame accepted operation frame) taken := by
  have isWritten : Live origin (s.write frame) taken :=
    { live with written := by rw [sent_write, noEvent, List.append_nil]; exact live.written }
  unfold writeFrame
  repeat' split
  · exact live.settle_other other .rejected
  · exact isWritten.settle_other other .written
  · refine isWritten.drains (other.trans ?_)
    rw [show (s.write frame).draining = none from calm]
    rfl

/-- The operation of an event is the one the poll awaits. -/
theorem Live.writing (live : Live origin s taken)
    (isQueue : s.draining.toList ++ s.writeTail = .event revision :: rest) :
    queuedEvents rest = [] ∧ ∃ more, s.polling = .writing revision more := by
  have queue := live.queue
  rw [isQueue] at queue
  cases isPolling : s.polling with
  | writing awaitedRevision more =>
    rw [isPolling] at queue
    obtain ⟨same, none⟩ := List.cons.inj queue
    exact ⟨none, more, by rw [show revision = awaitedRevision from same]⟩
  | off | scheduled | reading | answered | resumed =>
    rw [isPolling] at queue
    cases queue

/-- The operation of an event settles. -/
theorem live_settle_event (isPolling : s.polling = .writing revision more)
    (begun : ∀ polling : Polling, s.started = false → polling = .off) (calm : s.draining = none)
    (none : queuedEvents s.writeTail = []) {outcome : Outcome}
    (reads : Reads origin s.stream (sent s)
      (if outcome = .written then revision.sequence else s.lastSequence) (batch (.resumed outcome more))) :
    Live origin (s.settle outcome (.event revision)) (sent s) := by
  unfold settle
  simp only [isPolling]
  refine ⟨?_, reads, ?_, begun _⟩ <;> rw [calm]
  · exact (List.append_nil _).symm
  · exact none

theorem Live.runOperation (live : Live origin s taken) (isOpen : s.closed = false) (calm : s.draining = none)
    (isQueue : s.writeTail = operation :: rest) (accepted : Bool) :
    Inv origin (SseSession.runOperation accepted operation { s with writeTail := rest }) := by
  have queue : queuedEvents ([operation] ++ rest) = awaited s.polling := by
    rw [← live.queue, calm, isQueue]
    rfl
  have behind (other : queuedEvents [operation] = []) : Live origin { s with writeTail := rest } taken :=
    { live with queue := by rw [← queue, queuedEvents_append [operation], other, calm]; rfl }
  cases operation with simp only [SseSession.runOperation]
  | event revision =>
    obtain ⟨none, more, isPolling⟩ := live.writing (by rw [calm, isQueue]; rfl)
    have begun : ∀ polling : Polling, s.started = false → polling = .off := fun _ => live.begun (isPolling ▸ nofun)
    have isTaken : sent s = taken := by rw [live.written, calm]; exact List.append_nil _
    have reads := live.reads
    rw [isPolling, ← isTaken] at reads
    have unwritten := @live_settle_event origin { s with writeTail := rest } _ _ isPolling begun calm none
      .rejected reads.stop
    have sends := sent_write s (.event revision) ▸ reads.send
    simp only [eventFrame]
    split
    · next closed => exact absurd (isOpen.symm.trans closed) nofun
    split
    · next frame isFrame =>
      obtain rfl : .event revision = frame := by split at isFrame <;> cases isFrame; rfl
      unfold SseSession.writeFrame
      repeat' split
      · exact unwritten.inv
      · exact (@live_settle_event _ { s with writeTail := rest, written := s.written ++ [.event revision] }
          _ _ isPolling begun calm none .written sends).inv
      · exact Live.inv ⟨sent_write s (.event revision), isPolling ▸ reads, queue, live.idle⟩
    · exact unwritten.inv
  | heartbeat =>
    split
    · next closed => exact absurd (isOpen.symm.trans closed) nofun
    · exact ((behind rfl).writeFrame_other calm rfl rfl accepted).inv
  | closing reason code =>
    split
    · exact ((behind rfl).settle_other rfl .skipped).inv
    · exact ((behind rfl).writeFrame_other calm rfl (eventsOf_terminalFrame reason code) accepted).inv

/-- The response drains. -/
theorem Live.drain (live : Live origin s taken) (draining : s.draining = some operation) :
    ∃ taken, Live origin (({ s with draining := none }).settle .written operation) taken := by
  cases operation with
  | event revision =>
    obtain ⟨none, more, isPolling⟩ := live.writing (by rw [draining]; rfl)
    have reads := live.reads
    have written : sent s = taken ++ [revision] := by rw [live.written, draining]; rfl
    rw [isPolling] at reads
    exact ⟨_, @live_settle_event _ { s with draining := .none } _ _ isPolling
      (fun _ => live.begun (isPolling ▸ nofun)) rfl none .written (written ▸ reads.send)⟩
  | heartbeat | closing => exact ⟨taken, (live.drains (by rw [draining]; rfl)).settle_other rfl .written⟩

/-! ## A session that closes -/

/-- What a closed session leaves as it is. -/
def outcome (s : SseSession) : EventStream × List ApiStreamRevision × Bool := (s.stream, sent s, s.closed)

theorem outcome_settle (result : Outcome) (operation : Operation) (s : SseSession) :
    outcome (s.settle result operation) = outcome s := by
  unfold settle
  repeat' split
  all_goals rfl

/-- What closing does to the session, whichever way. -/
theorem outcome_stop (s : SseSession) :
    outcome ({ s with closed := true }).clearTimers.interruptPendingDrain = outcome { s with closed := true } := by
  unfold interruptPendingDrain
  split
  · exact outcome_settle ..
  · rfl

/-- Of a closed session only the closing operation writes, and that is no event. -/
theorem outcome_runOperation (closed : s.closed = true) (accepted : Bool) (operation : Operation) :
    outcome (s.runOperation accepted operation) = outcome s := by
  cases operation with simp only [SseSession.runOperation, SseSession.writeFrame, closed, if_true]
  | event | heartbeat => exact outcome_settle ..
  | closing reason code =>
    have written : outcome (s.write (terminalFrame reason code)) = outcome s := by
      rw [outcome, sent_write, eventsOf_terminalFrame, List.append_nil]
      rfl
    repeat' split
    · exact outcome_settle ..
    · exact outcome_settle ..
    · exact (outcome_settle ..).trans written
    · exact written

theorem Inv.of_outcome {before : SseSession} (inv : Inv origin before) (same : outcome s = outcome before)
    (live : before.closed = false → ∃ taken, Live origin s taken) : Inv origin s := by
  obtain ⟨stream, rest⟩ := Prod.mk.inj same
  obtain ⟨sents, closed⟩ := Prod.mk.inj rest
  exact ⟨stream ▸ sents ▸ inv.delivered, stream ▸ inv.grown, fun isOpen => live (closed ▸ isOpen)⟩

theorem Inv.map {before : SseSession} (inv : Inv origin before) (same : outcome s = outcome before)
    (live : ∀ taken, Live origin before taken → Live origin s taken) : Inv origin s :=
  inv.of_outcome same fun isOpen => (inv.live isOpen).imp live

theorem Inv.of_closed {before : SseSession} (inv : Inv origin before)
    (same : outcome s = outcome { before with closed := true }) : Inv origin s :=
  have closed : Inv origin { before with closed := true } := ⟨inv.delivered, inv.grown, nofun⟩
  closed.of_outcome same nofun

theorem Inv.closeWithError (inv : Inv origin s) (reason : SseCloseReason) (code : StreamErrorCode) :
    Inv origin (s.closeWithError reason code) := by
  unfold SseSession.closeWithError
  split
  · exact inv
  · exact inv.of_closed (outcome_stop s)

theorem Inv.abandon (inv : Inv origin s) : Inv origin s.abandon := by
  unfold SseSession.abandon
  split
  · exact inv
  · exact inv.of_closed (outcome_stop s)

/-! ## Steps -/

section Kept

variable (inv : Inv origin s)

include inv

theorem Inv.grow {stream : EventStream} (grows : ∀ startAfter rows,
    Delivered s.stream startAfter rows → Delivered stream startAfter rows) : Inv origin { s with stream } := by
  have grown : Grown origin stream := fun _ _ before => grows _ _ (inv.grown _ _ before)
  refine ⟨grows _ _ inv.delivered, grown, fun isOpen => (inv.live isOpen).imp fun _ live => ?_⟩
  exact { live with reads := ⟨grows _ _ live.reads.next, grown, live.reads.position⟩ }

theorem Inv.turn (settled : awaited s.polling = []) (polls : s.polling ≠ .off)
    (still : awaited polling = [] ∧ batch polling = []) : Inv origin { s with polling } :=
  inv.map rfl fun _ live => live.turn settled still (live.begun polls)

theorem Inv.pollFails (settled : awaited s.polling = []) (polls : s.polling ≠ .off)
    (code : StreamErrorCode) : Inv origin (s.pollFails code) := by
  have off : Inv origin { s with polling := .off } := inv.turn settled polls ⟨rfl, rfl⟩
  unfold SseSession.pollFails
  split
  · exact off
  · exact off.closeWithError .ERROR code

theorem Inv.writeNext (settled : awaited s.polling = []) (polls : s.polling ≠ .off)
    (isBatch : batch s.polling = revisions) : Inv origin (s.writeNext revisions) :=
  inv.map (by cases revisions <;> rfl) fun _ live => live.writeNext settled polls isBatch

theorem Inv.pollResumes : Inv origin (s.step .pollResumes) := by
  simp only [SseSession.step]
  split
  · next revisions isPolling =>
    have settled : awaited s.polling = [] := isPolling ▸ rfl
    have polls : s.polling ≠ .off := isPolling ▸ nofun
    unfold pollRead
    split
    · exact inv.turn settled polls ⟨rfl, rfl⟩
    · split
      · exact inv.pollFails settled polls _
      · exact inv.writeNext settled polls (isPolling ▸ rfl)
  · next code isPolling => exact inv.pollFails (isPolling ▸ rfl) (isPolling ▸ nofun) code
  · next rest isPolling => exact inv.pollFails (isPolling ▸ rfl) (isPolling ▸ nofun) _
  · next result rest notRejected isPolling =>
    refine inv.writeNext (isPolling ▸ rfl) (isPolling ▸ nofun) (isPolling ▸ ?_)
    cases result <;> first | rfl | exact (notRejected rfl).elim
  · exact inv

theorem Inv.query (isPolling : s.polling = .reading) : Inv origin s.query := by
  refine inv.map rfl fun _ live => ⟨live.written, ?_, live.queue.trans (isPolling ▸ rfl), live.begun (isPolling ▸ nofun)⟩
  unfold SseSession.query
  cases answer : s.stream.readAfter s.lastSequence s.batchSize with
  | error code => exact live.reads.stop
  | ok rows => exact live.reads.read answer

theorem Inv.start (lost : Bool) : Inv origin (s.start lost) := by
  unfold SseSession.start
  split
  · exact inv
  next fresh =>
  rw [Bool.or_eq_true, not_or, Bool.not_eq_true, Bool.not_eq_true] at fresh
  obtain ⟨taken, live⟩ := inv.live fresh.2
  split
  · exact inv.abandon
  have begun (beating : Beating) (destroyed : Bool) :
      Live origin { s with started := true, beating, destroyed } taken := { live with idle := nofun }
  split
  · exact (begun s.beating true).inv.abandon
  · exact ((begun .scheduled s.destroyed).turn (live.idle fresh.1 ▸ rfl) ⟨rfl, rfl⟩ nofun).inv

theorem Inv.terminalLost : Inv origin s.terminalLost := by
  unfold SseSession.terminalLost
  split
  · next draining =>
    exact inv.map (outcome_settle ..) fun _ live =>
      (live.drains (by rw [draining]; rfl)).settle_other rfl .rejected
  · exact inv

end Kept

/-- One step keeps what is known of a session. -/
theorem inv_step (origin : Origin) (s : SseSession) (event : SseEvent) (inv : Inv origin s) :
    Inv origin (s.step event) := by
  have other (beating : Beating) (destroyed : Bool) : Inv origin { s with beating, destroyed } :=
    inv.map rfl fun _ live => { live with }
  cases event with simp only [SseSession.step]
  | insert revision => exact inv.grow fun _ _ delivered => delivered.insert revision
  | expire more => exact inv.grow fun _ _ delivered => delivered.expire more
  | start lost => exact inv.start lost
  | pollTimer =>
    split
    · next isPolling =>
      refine inv.turn (isPolling ▸ rfl) (isPolling ▸ nofun) ?_
      split <;> exact ⟨rfl, rfl⟩
    · exact inv
  | query =>
    split
    · next isPolling => exact inv.query isPolling
    · exact inv
  | queryFails =>
    split
    · next isPolling => exact inv.turn (isPolling ▸ rfl) (isPolling ▸ nofun) ⟨rfl, rfl⟩
    · exact inv
  | pollResumes => exact inv.pollResumes
  | heartbeatTimer =>
    split
    · exact inv.map rfl fun _ live => live.heartbeat
    · exact inv
  | heartbeatResumes =>
    simp only [SseSession.heartbeatResumes]
    repeat' split
    · exact other .off s.destroyed
    · exact (other .off s.destroyed).closeWithError ..
    · exact other .scheduled s.destroyed
    · exact inv
  | runOperation accepted =>
    split
    · next operation rest calm isQueue =>
      rcases Bool.eq_false_or_eq_true s.closed with closed | isOpen
      · exact inv.of_outcome (@outcome_runOperation { s with writeTail := rest } closed accepted operation)
          fun isOpen => absurd (closed.symm.trans isOpen) nofun
      · obtain ⟨taken, live⟩ := inv.live isOpen
        exact live.runOperation isOpen calm isQueue accepted
    · exact inv
  | drain =>
    split
    · next operation draining =>
      exact inv.of_outcome (outcome_settle .written operation { s with draining := none }) fun isOpen =>
        (inv.live isOpen).elim fun _ live => live.drain draining
    · exact inv
  | peer =>
    repeat' split
    · exact inv.terminalLost
    · exact inv.closeWithError ..
    · exact inv
  | terminalTimeout => exact inv.terminalLost
  | destroyed => exact other s.beating true
  | close reason => exact inv.closeWithError ..

theorem inv_run (origin : Origin) (batchSize : Nat) (events : List SseEvent) :
    Inv origin (run SseSession.step (newSession origin.startAfter batchSize origin.stream) events) :=
  run_invariant (inv_step origin) (inv_newSession origin batchSize) events

/-- A session writes the rows behind its start in order, each once and without a gap, whatever the order of
timers, answers, writes, drains, disconnections, insertions and expirations. -/
theorem session_delivers (startAfter batchSize : Nat) (stream : EventStream) (events : List SseEvent) :
    let s := run SseSession.step (newSession startAfter batchSize stream) events
    Delivered s.stream startAfter (sent s) :=
  (inv_run ⟨stream, startAfter⟩ batchSize events).delivered

/-- A reader behind two rows, the first of which waits for the response to drain. -/
example : (sent (run SseSession.step (newSession 0 9 ⟨[], 0, Nat.le_refl 0, .nil, nofun⟩) [.insert ⟨3, "a"⟩,
    .insert ⟨5, "b"⟩, .start false, .pollTimer, .query, .pollResumes, .runOperation false, .drain, .pollResumes,
    .runOperation true])).map (·.sequence) = [3, 5] := by
  decide +kernel

/-! ## Readers that come back -/

/-- A reader, with the cursor it came with first. -/
structure Reader where
  stream : EventStream
  cursor : Option Nat
  startAfter : Nat
  received : List ApiStreamRevision

/-- What happens during one connection, and how many of the events sent the reader gets. -/
structure Connection where
  batchSize : Nat
  events : List SseEvent
  arrived : Nat

def Reader.lastEventId (reader : Reader) : Option Nat :=
  (reader.received.getLast?.map (·.sequence)).or reader.cursor

/-- The reader connects with the last identifier it knows, and is refused or gets more events. -/
def Reader.connect (reader : Reader) (connection : Connection) : Reader :=
  match reader.stream.resolveStreamStart reader.lastEventId with
  | .error _ => reader
  | .ok position =>
    let session := run SseSession.step (newSession position connection.batchSize reader.stream) connection.events
    { reader with
      stream := session.stream
      startAfter := if reader.received = [] then position else reader.startAfter
      received := reader.received ++ (sent session).take connection.arrived }

/-- The reader has the first rows behind its start, which is the cursor it came with. -/
def Reader.Complete (reader : Reader) : Prop :=
  Delivered reader.stream reader.startAfter reader.received ∧
    ∀ cursor, reader.cursor = some cursor → reader.startAfter = cursor

theorem position_of_resolved {stream : EventStream} {sequence position : Nat}
    (resolved : stream.resolveStreamStart (some sequence) = .ok position) : position = sequence := by
  simp only [EventStream.resolveStreamStart] at resolved
  split at resolved <;> cases resolved
  rfl

theorem complete_connect (reader : Reader) (connection : Connection) (before : reader.Complete) :
    (reader.connect connection).Complete := by
  unfold Reader.connect
  split
  · exact before
  next position resolved =>
  have inv := inv_run ⟨reader.stream, position⟩ connection.batchSize connection.events
  have part := inv.delivered.of_prefix (List.take_prefix connection.arrived _)
  unfold Reader.lastEventId at resolved
  rcases List.eq_nil_or_concat' reader.received with isNil | ⟨front, last, isConcat⟩
  · simp only [Reader.Complete, isNil, if_true, List.nil_append]
    refine ⟨part, fun cursor isCursor => ?_⟩
    rw [isNil, isCursor] at resolved
    exact position_of_resolved resolved
  · have kept := inv.grown _ _ before.1
    have isLast : lastOf reader.startAfter reader.received = last.sequence := by
      rw [lastOf, isConcat, List.getLast?_concat]
      rfl
    rw [isConcat, List.getLast?_concat] at resolved
    obtain rfl : position = last.sequence := position_of_resolved resolved
    rw [Reader.Complete, if_neg (isConcat ▸ List.concat_ne_nil last front)]
    exact ⟨kept.resume (isLast ▸ part), before.2⟩

/-- Over any number of connections, with any part of each lost, a reader that comes back with the last
identifier it got has every row behind its start exactly once and in order, as far as it has come. -/
theorem reader_receives (stream : EventStream) (cursor : Option Nat) (connections : List Connection) :
    (run Reader.connect ⟨stream, cursor, cursor.getD 0, []⟩ connections).Complete :=
  run_invariant complete_connect ⟨delivered_nil, fun _ isCursor => congrArg (·.getD 0) isCursor⟩ connections

end SolTokenListener.Guarantees.SseDelivery
