import SolTokenListener.Lib.EventRun

/-!
# Sessions of server-sent events

Source: src/interfaces/http/sse-session.ts:29-310, src/storage/api-event-stream.repository.ts:68-254,
src/interfaces/http/api-router.ts:217-247, migrations/006_api_event_stream.sql. One session, its response and
the stream it reads. A step fires a timer, settles an await, or is an event of the response or of the stream.
The timer of a poll is armed by `start` and by the end of the poll before, that of a heartbeat likewise, so each
chain is one thread. Operations of `writeTail` run one after the other; what `enqueue` returned settles with its
operation, and whoever awaits it goes on at a later step. Of a frame only its kind and the revision it carries
are kept. The delays of the timers, the headers, the text of a cursor, the call of `onClosed`, an `end` that
throws and the `RangeError` of `readAfter` for a page of more than 200 rows are left out; such a session closes at
its first poll, before it has written an event.
-/

namespace SolTokenListener.Source.SseSessions

def MAX_CURSOR_SEQUENCE : Nat := 9223372036854775807

structure ApiStreamRevision where
  sequence : Nat
  type : String

/-- The table of the stream. Identities follow the order of the commits, and a row is kept for four hours from
its insertion, so what is past its retention is the first `expired` rows. -/
structure EventStream where
  rows : List ApiStreamRevision
  expired : Nat
  stored : expired ≤ rows.length
  ascending : rows.Pairwise (·.sequence < ·.sequence)
  positive : ∀ row ∈ rows, 0 < row.sequence

inductive StreamErrorCode where
  | DEPENDENCY_UNAVAILABLE | EVENT_CURSOR_EXPIRED | INVALID_CURSOR

namespace EventStream

variable (stream : EventStream)

def retained : List ApiStreamRevision := stream.rows.drop stream.expired

def highWaterMark : Nat := (stream.retained.map (·.sequence)).foldl max 0

inductive CursorStatus where
  | CURRENT | EXPIRED | FUTURE
deriving DecidableEq

def resolve (sequence : Nat) : CursorStatus :=
  if stream.rows.all (·.sequence < sequence) then .FUTURE
  else if stream.retained.any (·.sequence = sequence) then .CURRENT else .EXPIRED

/-- A cursor from the future is invalid data to a session. -/
def readAfter (after limit : Nat) : Except StreamErrorCode (List ApiStreamRevision) :=
  if after = 0 ∨ stream.resolve after = .CURRENT then
    .ok ((stream.retained.filter (after < ·.sequence)).take limit)
  else if stream.resolve after = .EXPIRED then .error .EVENT_CURSOR_EXPIRED
  else .error .DEPENDENCY_UNAVAILABLE

/-- Where a new session starts, given the sequence that `Last-Event-ID` decodes to. -/
def resolveStreamStart : Option Nat → Except StreamErrorCode Nat
  | none => .ok stream.highWaterMark
  | some sequence => match stream.resolve sequence with
    | .CURRENT => .ok sequence
    | .EXPIRED => .error .EVENT_CURSOR_EXPIRED
    | .FUTURE => .error .INVALID_CURSOR

/-- A transaction that inserts a row commits. -/
def insert (revision : ApiStreamRevision) : EventStream :=
  if newest : 0 < revision.sequence ∧ ∀ row ∈ stream.rows, row.sequence < revision.sequence then
    { stream with
      rows := stream.rows ++ [revision]
      stored := Nat.le_trans stream.stored (List.length_append ▸ Nat.le_add_right _ _)
      ascending := List.pairwise_append.mpr ⟨stream.ascending, List.pairwise_singleton _ _,
        fun row mem _ isNew => List.mem_singleton.mp isNew ▸ newest.2 row mem⟩
      positive := fun row mem => (List.mem_append.mp mem).elim (stream.positive row)
        fun isNew => List.mem_singleton.mp isNew ▸ newest.1 }
  else stream

/-- Time passes, and more rows are past their retention. -/
def expire (more : Nat) : EventStream :=
  { stream with expired := min (stream.expired + more) stream.rows.length, stored := Nat.min_le_right _ _ }

end EventStream

/-! ## Sessions -/

inductive SseCloseReason where
  | CLIENT | SERVER | ERROR
deriving DecidableEq

inductive Frame where
  | event (revision : ApiStreamRevision)
  | heartbeat
  | serverShutdown
  | streamError (code : StreamErrorCode)

inductive Operation where
  | event (revision : ApiStreamRevision)
  | heartbeat
  | closing (reason : SseCloseReason) (code : StreamErrorCode)

/-- How an operation settles: its frame was taken by the response, it had nothing to write, or it failed. -/
inductive Outcome where
  | written | skipped | rejected
deriving DecidableEq

/-- Where the chain of polls stands. -/
inductive Polling where
  | off
  | scheduled
  | reading
  | answered (answer : Except StreamErrorCode (List ApiStreamRevision))
  | writing (revision : ApiStreamRevision) (rest : List ApiStreamRevision)
  | resumed (outcome : Outcome) (rest : List ApiStreamRevision)

inductive Beating where
  | off
  | scheduled
  | writing
  | resumed (outcome : Outcome)
deriving DecidableEq

structure SseSession where
  batchSize : Nat
  stream : EventStream
  lastSequence : Nat
  polling : Polling
  beating : Beating
  writeTail : List Operation
  /-- The operation that waits for the response to drain. -/
  draining : Option Operation
  started : Bool
  closed : Bool
  /-- The promise `closing` is set. -/
  closing : Bool
  writableEnded : Bool
  destroyed : Bool
  /-- The frames given to the response, oldest first. -/
  written : List Frame

def newSession (startAfter batchSize : Nat) (stream : EventStream) : SseSession where
  batchSize := batchSize
  stream := stream
  lastSequence := startAfter
  polling := .off
  beating := .off
  writeTail := []
  draining := none
  started := false
  closed := false
  closing := false
  writableEnded := false
  destroyed := false
  written := []

def assertIncreasingRevisions : Nat → List ApiStreamRevision → Bool
  | _, [] => true
  | previous, revision :: rest =>
    previous < revision.sequence && assertIncreasingRevisions revision.sequence rest

/-! ## Frames -/

/-- `^[A-Za-z0-9_.:-]{1,128}$`. -/
def isSafeEventType (type : String) : Bool :=
  1 ≤ type.length && type.length ≤ 128 && type.toList.all fun char => char.isAlphanum || "_.:-".contains char

/-- Nothing when it throws. -/
def eventFrame (revision : ApiStreamRevision) : Option Frame :=
  if 0 < revision.sequence ∧ revision.sequence ≤ MAX_CURSOR_SEQUENCE ∧ isSafeEventType revision.type then
    some (.event revision)
  else none

namespace SseSession

def isWritable (s : SseSession) : Bool := !s.writableEnded && !s.destroyed

/-! ## Operations -/

/-- An operation settles, and what awaits it may go on. A terminal frame ends the response, and one that was
not drained destroys it. -/
def settle (outcome : Outcome) (operation : Operation) (s : SseSession) : SseSession :=
  match operation with
  | .event revision => match s.polling with
    | .writing _ rest =>
      { s with
        lastSequence := if outcome = .written then revision.sequence else s.lastSequence
        polling := .resumed outcome rest }
    | _ => s
  | .heartbeat => { s with beating := .resumed outcome }
  | .closing .CLIENT _ => s
  | .closing _ _ =>
    { s with writableEnded := true, destroyed := s.destroyed || outcome != .written }

def enqueue (operation : Operation) (s : SseSession) : SseSession :=
  { s with writeTail := s.writeTail ++ [operation] }

def clearTimers (s : SseSession) : SseSession :=
  { s with
    polling := match s.polling with
      | .scheduled => .off
      | polling => polling
    beating := if s.beating = .scheduled then .off else s.beating }

/-- An interrupted drain rejects, so the operation that waits for it does. -/
def interruptPendingDrain (s : SseSession) : SseSession :=
  match s.draining with
  | some operation => ({ s with draining := none }).settle .rejected operation
  | none => s

def closeWithError (reason : SseCloseReason) (code : StreamErrorCode) (s : SseSession) : SseSession :=
  if s.closing then s
  else
    let stopped := ({ s with closed := true }).clearTimers.interruptPendingDrain
    ({ stopped with closing := true }).enqueue (.closing reason code)

def close (reason : SseCloseReason) : SseSession → SseSession :=
  closeWithError reason .DEPENDENCY_UNAVAILABLE

def abandon (s : SseSession) : SseSession :=
  if s.closed then s
  else ({ s with closed := true }).clearTimers.interruptPendingDrain

/-! ## Starting, polling, heartbeats -/

/-- `lost`: the response stops being writable while the headers are sent. -/
def start (lost : Bool) (s : SseSession) : SseSession :=
  if s.started || s.closed then s
  else if !s.isWritable then s.abandon
  else if lost then ({ s with started := true, destroyed := true }).abandon
  else { s with started := true, polling := .scheduled, beating := .scheduled }

/-- The loop over the revisions of a batch, up to its next await, and what follows the loop. -/
def writeNext (revisions : List ApiStreamRevision) (s : SseSession) : SseSession :=
  match revisions with
  | [] => { s with polling := if s.closed then .off else .scheduled }
  | revision :: rest => ({ s with polling := .writing revision rest }).enqueue (.event revision)

/-- The `catch` of a poll. -/
def pollFails (code : StreamErrorCode) (s : SseSession) : SseSession :=
  if s.closed then { s with polling := .off }
  else closeWithError .ERROR code { s with polling := .off }

def poll (s : SseSession) : SseSession :=
  { s with polling := if s.closed then .off else .reading }

/-- The query sees the stream of the moment. -/
def query (s : SseSession) : SseSession :=
  { s with polling := .answered (s.stream.readAfter s.lastSequence s.batchSize) }

def pollRead (revisions : List ApiStreamRevision) (s : SseSession) : SseSession :=
  if s.closed then { s with polling := .off }
  else if s.batchSize < revisions.length ∨ !assertIncreasingRevisions s.lastSequence revisions then
    s.pollFails .DEPENDENCY_UNAVAILABLE
  else s.writeNext revisions

def heartbeat (s : SseSession) : SseSession :=
  ({ s with beating := .writing }).enqueue .heartbeat

def heartbeatResumes (outcome : Outcome) (s : SseSession) : SseSession :=
  if s.closed then { s with beating := .off }
  else match outcome with
    | .rejected => close .ERROR { s with beating := .off }
    | _ => { s with beating := .scheduled }

/-! ## Writing -/

def write (frame : Frame) (s : SseSession) : SseSession :=
  { s with written := s.written ++ [frame] }

/-- The response takes the frame of the operation, or the operation waits for it to drain. -/
def writeFrame (accepted : Bool) (operation : Operation) (frame : Frame) (s : SseSession) : SseSession :=
  if !s.isWritable then s.settle .rejected operation
  else if accepted then (s.write frame).settle .written operation
  else { s.write frame with draining := some operation }

def terminalFrame (reason : SseCloseReason) (code : StreamErrorCode) : Frame :=
  if reason = .SERVER then .serverShutdown else .streamError code

def runOperation (accepted : Bool) (operation : Operation) (s : SseSession) : SseSession :=
  match operation with
  | .event revision =>
    if s.closed then s.settle .skipped operation
    else match eventFrame revision with
      | some frame => s.writeFrame accepted operation frame
      | none => s.settle .rejected operation
  | .heartbeat =>
    if s.closed then s.settle .skipped operation
    else s.writeFrame accepted operation .heartbeat
  | .closing reason code =>
    if reason = .CLIENT then s.settle .skipped operation
    else s.writeFrame accepted operation (terminalFrame reason code)

/-- The peer is gone or the time is up while a terminal frame drains. -/
def terminalLost (s : SseSession) : SseSession :=
  match s.draining with
  | some (.closing reason code) => ({ s with draining := none }).settle .rejected (.closing reason code)
  | _ => s

/-! ## Steps -/

inductive SseEvent where
  | insert (revision : ApiStreamRevision)
  | expire (more : Nat)
  | start (lost : Bool)
  | pollTimer
  | query
  | queryFails
  | pollResumes
  | heartbeatTimer
  | heartbeatResumes
  | runOperation (accepted : Bool)
  | drain
  /-- The response emits `close` or `error`. -/
  | peer
  | terminalTimeout
  | destroyed
  | close (reason : SseCloseReason)

def step (s : SseSession) : SseEvent → SseSession
  | .insert revision => { s with stream := s.stream.insert revision }
  | .expire more => { s with stream := s.stream.expire more }
  | .start lost => s.start lost
  | .pollTimer => match s.polling with
    | .scheduled => s.poll
    | _ => s
  | .query => match s.polling with
    | .reading => s.query
    | _ => s
  | .queryFails => match s.polling with
    | .reading => { s with polling := .answered (.error .DEPENDENCY_UNAVAILABLE) }
    | _ => s
  | .pollResumes => match s.polling with
    | .answered (.ok revisions) => s.pollRead revisions
    | .answered (.error code) => s.pollFails code
    | .resumed .rejected _ => s.pollFails .DEPENDENCY_UNAVAILABLE
    | .resumed _ rest => s.writeNext rest
    | _ => s
  | .heartbeatTimer => if s.beating = .scheduled then s.heartbeat else s
  | .heartbeatResumes => match s.beating with
    | .resumed outcome => s.heartbeatResumes outcome
    | _ => s
  | .runOperation accepted => match s.draining, s.writeTail with
    | none, operation :: rest => ({ s with writeTail := rest }).runOperation accepted operation
    | _, _ => s
  | .drain => match s.draining with
    | some operation => ({ s with draining := none }).settle .written operation
    | none => s
  -- The session listens until it is closed; after that, only a terminal frame still listens.
  | .peer =>
    if s.closed then s.terminalLost
    else if s.started then s.close .CLIENT else s
  | .terminalTimeout => s.terminalLost
  | .destroyed => { s with destroyed := true }
  | .close reason => s.close reason

end SseSession

end SolTokenListener.Source.SseSessions
