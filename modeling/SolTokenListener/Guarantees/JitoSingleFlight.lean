import SolTokenListener.Guarantees.JitoSteps

/-!
# Write-ahead and single flight of the JitoSOL bot

What was broadcast for the position of a running journal is its pending transaction or an action it
has left behind. Every save that has its cause keeps this, and no cause saves, prepares or broadcasts
on a halted journal.
-/

namespace SolTokenListener.Guarantees.JitoSingleFlight

open Lib.AsyncProgram
open Lib.Interleaving
open Source.JitoConfig Source.JitoJournal
open Source.JitoEngine
open Guarantees.JitoRuns Guarantees.JitoSteps

/-! ## The flight of a position -/

/-- What was broadcast for the current position is its pending transaction, or an action it has
left behind; the pending transaction is the next action of its stage. -/
structure FlightOk (world : JitoWorld) (state : JournalState) : Prop where
  sent : ∀ position, state.position = some position → ∀ sent ∈ world.broadcasts,
    sent.positionId = some position.id →
      kindOrder sent.transaction.kind < stageOrder position.stage ∨
        ∃ pending, state.pending = some pending ∧ pending.kind = sent.transaction.kind ∧
          pending.signature = sent.transaction.signature
  next : ∀ pending, state.pending = some pending → ∃ position, state.position = some position ∧
    kindOrder pending.kind = stageOrder position.stage

structure FlightHolds (world : JitoWorld) : Prop where
  known : ∀ sent ∈ world.broadcasts, ∀ id, sent.positionId = some id → id ∈ knownIds world.journal
  single : ∀ first ∈ world.broadcasts, ∀ second ∈ world.broadcasts,
    first.positionId = second.positionId → first.transaction.kind = second.transaction.kind →
      first.transaction.signature = second.transaction.signature
  flight : ∀ state, world.journal = some state → state.status = .running → FlightOk world state

variable {transaction : PendingTransaction}

section Flights

variable {world : JitoWorld} {state next : JournalState} {position : Position}
variable {observation : Option Observation} {config : JitoBotConfig} {effects : TransactionEffects}

theorem flightOk_of_empty (position : state.position = none) (idle : state.pending = none) :
    FlightOk world state := by
  refine ⟨fun held isHeld => ?_, fun pending isPending => ?_⟩
  · cases position.symm.trans isHeld
  · cases idle.symm.trans isPending

/-- The pending transaction is the same one, whatever its bookkeeping says. -/
theorem FlightOk.same (flight : FlightOk world state)
    (position : next.position = state.position)
    (pending : next.pending.map (fun held => (held.kind, held.signature)) =
      state.pending.map fun held => (held.kind, held.signature)) :
    FlightOk world next := by
  constructor
  · intro held isHeld sent member same
    rcases flight.sent held (position ▸ isHeld) sent member same with
      before | ⟨old, isPending, kind, signature⟩
    · exact .inl before
    · rw [isPending, Option.map_some, Option.map_eq_some_iff] at pending
      obtain ⟨new, newPending, identity⟩ := pending
      rw [Prod.mk.injEq] at identity
      exact .inr ⟨new, newPending, identity.1.trans kind, identity.2.trans signature⟩
  · intro new newPending
    rw [newPending, Option.map_some, eq_comm, Option.map_eq_some_iff] at pending
    obtain ⟨old, isPending, identity⟩ := pending
    rw [Prod.mk.injEq] at identity
    obtain ⟨held, isHeld, order⟩ := flight.next old isPending
    exact ⟨held, position ▸ isHeld, identity.1 ▸ order⟩

/-- A transaction for the next action of a position that has broadcast only what it left behind. -/
theorem flightOk_prepared (next : kindOrder transaction.kind = stageOrder position.stage)
    (unsent : ∀ sent ∈ world.broadcasts, sent.positionId = some position.id →
      kindOrder sent.transaction.kind < stageOrder position.stage) :
    FlightOk world (withPending state config position observation transaction) := by
  constructor
  · intro held isHeld sent member same
    cases isHeld
    exact .inl (unsent sent member same)
  · intro pending isPending
    cases isPending
    exact ⟨position, rfl, next⟩

/-- A journal without a pending transaction has left behind all it has broadcast for its position. -/
theorem FlightOk.unsent (flight : FlightOk world state) (held : state.position = some position)
    (idle : state.pending = none) : ∀ sent ∈ world.broadcasts, sent.positionId = some position.id →
      kindOrder sent.transaction.kind < stageOrder position.stage := by
  intro sent member same
  rcases flight.sent position held sent member same with before | ⟨pending, isPending, -⟩
  · exact before
  · cases idle.symm.trans isPending

/-- Nothing is pending, and the position has left the action behind. -/
structure LeftBehind (kind : ActionKind) (position : Position) (next : JournalState) : Prop where
  idle : next.pending = none
  later : ∀ held, next.position = some held →
    held.id = position.id ∧ kindOrder kind < stageOrder held.stage

/-- Once its action is left behind, all that was broadcast for the position lies behind it. -/
theorem FlightOk.leaves (flight : FlightOk world state) (held : state.position = some position)
    (pending : state.pending = some transaction)
    (left : LeftBehind transaction.kind position next) : FlightOk world next := by
  constructor
  · intro after isAfter sent member same
    obtain ⟨sameId, later⟩ := left.later after isAfter
    obtain ⟨current, isCurrent, order⟩ := flight.next transaction pending
    cases held.symm.trans isCurrent
    rw [sameId] at same
    refine .inl ?_
    rcases flight.sent position held sent member same with before | ⟨other, isOther, kind, -⟩
    · exact Nat.lt_trans before (order ▸ later)
    · cases pending.symm.trans isOther
      exact kind ▸ later
  · intro other isOther
    exact nomatch left.idle.symm.trans isOther

/-- A receipt that does not halt the journal leaves its action behind. -/
theorem leftBehind_settled {recorded : JournalState} {charged : Position} {outcome : ReceiptOutcome}
    {now : Int}
    (receipt : recordReceipt state position transaction outcome effects now = .ok (recorded, charged))
    (settled : Settled config recorded charged transaction effects next)
    (running : next.status = .running) : LeftBehind transaction.kind position next := by
  obtain ⟨_, _, _, _, _, effect⟩ := recordReceipt_eq_ok receipt
  refine ⟨by rw [(settled_sameBooks settled).1.pending, effect.isRecorded], fun held isHeld => ?_⟩
  cases settled with
  | failed reason => cases running
  | stopped reason isApplied => cases running
  | within isApplied inLimits =>
    rcases appliedAs_cases isApplied with ⟨moved, moves, left⟩ | ⟨claimed, profit, now, -, closes⟩
    · obtain ⟨rfl, isOk⟩ := Prod.mk.inj left
      cases isHeld
      exact ⟨moves.id.trans (by rw [effect.isCharged]), moves.later isOk.symm⟩
    · rcases closeCycle_cases recorded (completedPosition charged claimed profit now) profit with
        ⟨fault, thrown⟩ | ⟨loss, closed⟩
      · cases closes.trans thrown
      · cases closes.trans closed
        cases isHeld

end Flights

/-! ## What a call does to the flight -/

/-- The journal is not halted. -/
def Open (world : JitoWorld) : Prop := ∀ state, world.journal = some state → state.status = .running

/-- A halted journal stays as it is, and nothing more is broadcast. -/
def Sealed (before after : JitoWorld) : Prop :=
  ∀ state, before.journal = some state → state.status = .halted →
    after.journal = before.journal ∧ after.broadcasts = before.broadcasts

variable {request : JitoCall}

section Calls

variable {uuids : UuidStream} {setting : JitoSetting} {world : TracedWorld}
variable {state next : JournalState}

theorem open_of_running {world : JitoWorld} (running : state.status = .running)
    (durable : Durable state world) : Open world := by
  intro other stored
  cases durable.symm.trans stored
  exact running

theorem sealed_of_open {before after : JitoWorld} (isOpen : Open before) : Sealed before after := by
  intro state stored halted
  rw [isOpen state stored] at halted
  cases halted

theorem open_of_saves (cause : SaveCause uuids setting world next) : Open world.current := by
  cases cause with
  | opens config absent => exact fun state stored => nomatch absent.symm.trans stored
  | halts reason durable loaded | unavailable durable loaded told
  | ineligible durable loaded told refused | confirms durable loaded idle told eligible
  | prepares durable loaded idle cause member isAsked sameKind
  | attempts now durable loaded pending | unsent error durable loaded pending
  | records durable loaded pending held receipt settled =>
    exact open_of_running loaded.running durable

theorem saveCause_flight (cause : SaveCause uuids setting world next)
    (holds : FlightHolds world.current) (running : next.status = .running) :
    FlightOk world.current next := by
  cases cause with
  | opens config absent => exact flightOk_of_empty rfl rfl
  | halts reason durable loaded => cases running
  | unavailable durable loaded told | ineligible durable loaded told refused
  | confirms durable loaded idle told eligible =>
    exact (holds.flight _ durable loaded.running).same rfl rfl
  | attempts now durable loaded pending =>
    exact (holds.flight _ durable loaded.running).same rfl (by rw [pending]; rfl)
  | unsent error durable loaded pending =>
    exact (holds.flight _ durable loaded.running).same rfl (by rw [pending]; rfl)
  | records durable loaded pending held receipt settled =>
    exact (holds.flight _ durable loaded.running).leaves held pending
      (leftBehind_settled receipt settled running)
  | @prepares config state kind position observation transaction asked durable loaded idle cause
      member isAsked sameKind =>
      cases cause with
      | held isHeld notBuy next =>
        exact flightOk_prepared (sameKind ▸ next)
          ((holds.flight state durable loaded.running).unsent isHeld idle)
      | opened empty drawn fresh =>
        -- Whatever was broadcast carries an id of the journal, and the new id is none of them.
        refine flightOk_prepared (by rw [sameKind]; rfl) fun sent isSent same => ?_
        obtain ⟨other, stored, used⟩ := mem_knownIds.mp (holds.known sent isSent _ same)
        cases durable.symm.trans stored
        exact absurd used fresh

theorem flightHolds_saved (cause : SaveCause uuids setting world next)
    (holds : FlightHolds world.current) :
    FlightHolds { world.current with journal := some (saved next) } := by
  refine ⟨fun sent member id same => ?_, holds.single, fun state stored running => ?_⟩
  · exact (cause.ids id).2 (holds.known sent member id same)
  · cases stored
    have flight := saveCause_flight cause holds running
    exact ⟨flight.sent, flight.next⟩

/-- Broadcasting the pending transaction keeps the flight: whatever was broadcast before for the
same position and action is that transaction. -/
theorem flightHolds_broadcast {world : JitoWorld} (holds : FlightHolds world)
    (durable : Durable state world) (running : state.status = .running)
    (pending : state.pending = some transaction) :
    FlightHolds { world with
      broadcasts := world.broadcasts ++ [⟨positionId world.journal, transaction⟩] } := by
  have flight := holds.flight state durable running
  obtain ⟨position, held, order⟩ := flight.next transaction pending
  have journal : world.journal = some state := durable
  have current : positionId world.journal = some position.id := by simp [positionId, journal, held]
  have agrees : ∀ sent ∈ world.broadcasts, sent.positionId = some position.id →
      sent.transaction.kind = transaction.kind →
      sent.transaction.signature = transaction.signature := by
    intro sent member same kind
    rcases flight.sent position held sent member same with before | ⟨other, isPending, -, signature⟩
    · rw [kind, order] at before
      exact absurd before (Nat.lt_irrefl _)
    · rw [pending] at isPending
      cases isPending
      exact signature.symm
  rw [current]
  constructor
  · intro sent member id same
    rcases List.mem_append.mp member with old | new
    · exact holds.known sent old id same
    · rw [List.mem_singleton.mp new, Option.some.injEq] at same
      rw [mem_knownIds]
      exact ⟨state, durable, by simp [journalIds, held, same]⟩
  · intro first firstMember second secondMember samePosition sameKind
    rcases List.mem_append.mp firstMember with oldFirst | newFirst <;>
      rcases List.mem_append.mp secondMember with oldSecond | newSecond
    · exact holds.single first oldFirst second oldSecond samePosition sameKind
    · rw [List.mem_singleton.mp newSecond] at samePosition sameKind ⊢
      exact agrees first oldFirst samePosition sameKind
    · rw [List.mem_singleton.mp newFirst] at samePosition sameKind ⊢
      exact (agrees second oldSecond samePosition.symm sameKind.symm).symm
    · rw [List.mem_singleton.mp newFirst, List.mem_singleton.mp newSecond]
  · intro other stored _
    cases durable.symm.trans stored
    refine ⟨fun otherPosition otherHeld sent member samePosition => ?_, flight.next⟩
    rcases List.mem_append.mp member with old | new
    · exact flight.sent otherPosition otherHeld sent old samePosition
    · rw [List.mem_singleton.mp new]
      exact .inr ⟨transaction, pending, rfl, rfl⟩

theorem performTraced_flight {choice : JitoChoice} (cause : CallCause uuids setting request world)
    (holds : FlightHolds world.current) :
    FlightHolds (performTraced uuids choice request world).2.current := by
  cases request with
  | save next =>
    obtain ⟨state, rfl, -, saves⟩ := cause
    change FlightHolds (storeJournal choice.saved (saved state) world.current).2
    rcases storeJournal_cases choice.saved (saved state) world.current with same | stored
    · rw [same]
      exact holds
    · rw [stored]
      exact flightHolds_saved saves holds
  | broadcast transaction =>
    obtain ⟨state, durable, running, pending, -⟩ := cause
    exact flightHolds_broadcast holds durable running pending
  | randomUUID => exact ⟨holds.known, holds.single, fun state stored running =>
    ⟨(holds.flight state stored running).sent, (holds.flight state stored running).next⟩⟩
  | load | stopped | now | observe config | prepare request | poll transaction
  | canClaim position => exact holds

/-- Calls that make, send or record something. -/
def Acts : JitoCall → Prop
  | .save _ | .prepare _ | .broadcast _ => True
  | _ => False

/-- Whatever acts needs a journal that is not halted. -/
theorem open_of_acts {request : JitoCall} (acts : Acts request)
    (cause : CallCause uuids setting request world) : Open world.current := by
  cases request with
  | save next =>
    obtain ⟨state, -, -, saves⟩ := cause
    exact open_of_saves saves
  | prepare request =>
    obtain ⟨state, durable, running, -⟩ := cause
    exact open_of_running running durable
  | broadcast transaction =>
    obtain ⟨state, durable, running, -⟩ := cause
    exact open_of_running running durable
  | _ => exact acts.elim

theorem performTraced_sealed {choice : JitoChoice} (cause : CallCause uuids setting request world) :
    Sealed world.current (performTraced uuids choice request world).2.current := by
  cases request with
  | save next => exact sealed_of_open (@open_of_acts uuids setting world (.save next) trivial cause)
  | prepare request => exact sealed_of_open (@open_of_acts uuids setting world (.prepare request) trivial cause)
  | broadcast transaction => exact sealed_of_open (@open_of_acts uuids setting world (.broadcast transaction) trivial cause)
  | _ => exact fun _ _ _ => ⟨rfl, rfl⟩

end Calls

/-! ## Every run -/

section Run

variable {uuids : UuidStream} {setting : JitoSetting}
variable {events : List (Event (jitoEnvironment uuids) JitoBotConfig)}

/-- The same event of the runs that keep their calls. -/
def traced : Event (jitoEnvironment uuids) JitoBotConfig → Event (tracedEnvironment uuids) JitoBotConfig
  | .launch process config => .launch process config
  | .advance process choice => .advance process choice
  | .change change => nomatch change

/-- A run that keeps its calls, with the calls forgotten. -/
def forget (reached : State (tracedEnvironment uuids) TickResult) :
    State (jitoEnvironment uuids) TickResult :=
  ⟨reached.world.current, reached.programs⟩

theorem forget_step (reached : State (tracedEnvironment uuids) TickResult)
    (event : Event (jitoEnvironment uuids) JitoBotConfig) :
    forget (step (fun _ => tick setting) reached (traced event)) =
      step (fun _ => tick setting) (forget reached) event := by
  cases event with
  | launch process config => rfl
  | change change => cases change
  | advance process choice =>
    simp only [traced, step, forget]
    split <;> rfl

theorem forget_run (events : List (Event (jitoEnvironment uuids) JitoBotConfig)) :
    forget (tracedRun uuids setting (events.map traced)) = jitoRun uuids setting events := by
  have runs : ∀ reached, forget (run (fun _ => tick setting) reached (events.map traced)) =
      run (fun _ => tick setting) (forget reached) events := by
    induction events with
    | nil => exact fun _ => rfl
    | cons event events ih =>
      intro reached
      change forget (run _ (step _ reached (traced event)) (events.map traced)) = _
      rw [ih, forget_step]
      rfl
  exact runs _

/-- Every call a tick is about to make has its cause in the run that keeps its calls. -/
theorem jitoRun_cause {resume : Except String request.Answer → Engine TickResult}
    (waiting : (jitoRun uuids setting events).programs () = some (.await request resume)) :
    CallCause uuids setting request (tracedRun uuids setting (events.map traced)).world := by
  rw [← forget_run] at waiting
  exact tracedRun_cause waiting

theorem jitoRun_world (events : List (Event (jitoEnvironment uuids) JitoBotConfig)) :
    (jitoRun uuids setting events).world =
      (tracedRun uuids setting (events.map traced)).world.current := by
  rw [← forget_run]
  rfl

theorem flightHolds_run : FlightHolds (jitoRun uuids setting events).world := by
  have initial : FlightHolds ⟨none, [], 0⟩ := by
    refine ⟨fun sent member => ?_, fun first member => ?_, fun state stored => ?_⟩
    · cases member
    · cases member
    · cases stored
  rw [jitoRun_world]
  exact @tracedRun_invariant uuids setting (fun world => FlightHolds world.current) initial
    (fun _ _ _ => performTraced_flight) _

/-- A transaction about to be broadcast is the one the journal durably holds as pending. -/
def SendsDurable (reached : State (jitoEnvironment uuids) TickResult) : Prop :=
  ∀ transaction resume, reached.programs () = some (.await (.broadcast transaction) resume) →
    ∃ state, reached.world.journal = some state ∧ state.pending = some transaction

/-- A transaction is about to be prepared only while the journal holds no pending one. -/
def PreparesIdle (reached : State (jitoEnvironment uuids) TickResult) : Prop :=
  ∀ request resume, reached.programs () = some (.await (.prepare request) resume) →
    ∃ state, reached.world.journal = some state ∧ state.pending = none

/-- The broadcasts made so far for one position and one kind of action carry one signature. -/
def OneSignature (reached : State (jitoEnvironment uuids) TickResult) : Prop :=
  ∀ first ∈ reached.world.broadcasts, ∀ second ∈ reached.world.broadcasts,
    first.positionId = second.positionId → first.transaction.kind = second.transaction.kind →
      first.transaction.signature = second.transaction.signature

/-- If the journal is halted, then after any further ticks it is the same, nothing more has been
broadcast, and no tick is about to prepare, broadcast or save. -/
def HaltsForGood (setting : JitoSetting)
    (events : List (Event (jitoEnvironment uuids) JitoBotConfig)) : Prop :=
  ∀ state, (jitoRun uuids setting events).world.journal = some state → state.status = .halted →
    ∀ later,
      (jitoRun uuids setting (events ++ later)).world.journal = some state ∧
      (jitoRun uuids setting (events ++ later)).world.broadcasts =
        (jitoRun uuids setting events).world.broadcasts ∧
      ∀ request resume, Acts request →
        (jitoRun uuids setting (events ++ later)).programs () ≠ some (.await request resume)

theorem sendsDurable_run : SendsDurable (jitoRun uuids setting events) := by
  intro transaction resume waiting
  obtain ⟨state, durable, -, pending, -⟩ := jitoRun_cause waiting
  rw [jitoRun_world]
  exact ⟨state, durable, pending⟩

theorem preparesIdle_run : PreparesIdle (jitoRun uuids setting events) := by
  intro request resume waiting
  obtain ⟨state, durable, -, idle, -⟩ := jitoRun_cause waiting
  rw [jitoRun_world]
  exact ⟨state, durable, idle⟩

theorem haltsForGood_run : HaltsForGood setting events := by
  intro state stored halted later
  rw [jitoRun_world] at stored
  have kept := @tracedRun_keeps uuids setting (fun world => world.current.journal = some state ∧
      world.current.broadcasts = (tracedRun uuids setting (events.map traced)).world.current.broadcasts)
    (fun choice request world cause known => by
      obtain ⟨sameJournal, sameBroadcasts⟩ := performTraced_sealed cause state known.1 halted
      exact ⟨sameJournal.trans known.1, sameBroadcasts.trans known.2⟩)
    (events.map traced) (later.map traced) ⟨stored, rfl⟩
  rw [← List.map_append, ← jitoRun_world, ← jitoRun_world] at kept
  refine ⟨kept.1, kept.2, fun request resume acts waiting => ?_⟩
  have isOpen := open_of_acts acts (jitoRun_cause waiting)
  rw [← jitoRun_world] at isOpen
  cases halted.symm.trans (isOpen state kept.1)

/-- In every sequence of ticks, with any answers and a crash at any call: a broadcast sends the
durable pending transaction, nothing is prepared while one is pending, a position broadcasts one
signature for each kind of action, and a halted journal is final. -/
theorem jito_singleFlight (uuids : UuidStream) (setting : JitoSetting)
    (events : List (Event (jitoEnvironment uuids) JitoBotConfig)) :
    SendsDurable (jitoRun uuids setting events) ∧ PreparesIdle (jitoRun uuids setting events) ∧
      OneSignature (jitoRun uuids setting events) ∧ HaltsForGood setting events :=
  ⟨sendsDurable_run, preparesIdle_run, flightHolds_run.single, haltsForGood_run⟩

end Run

end SolTokenListener.Guarantees.JitoSingleFlight
