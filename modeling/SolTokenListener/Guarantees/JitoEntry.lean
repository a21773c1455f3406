import SolTokenListener.Guarantees.JitoSteps

/-!
# Two observations before a buy

For every schedule of ticks, with a crash at any call and any answers of the gateway, the clock, the
stop file and the store: a buy is prepared only on two eligible observations of different ticks, and
broadcast only in time. A refusal counts as saved once the journal durably holds it; a refusal whose
save failed leaves the earlier confirmation in place.
-/

namespace SolTokenListener.Guarantees.JitoEntry

open Lib.AsyncProgram Lib.Interleaving
open Source.JitoConfig Source.JitoJournal
open Source.JitoEngine
open Guarantees.JitoRuns
open Guarantees.JitoSteps

/-! ## Observations in a trace -/

/-- The newest call durably saved that no eligible observation was to be had. -/
def SavesRefusal (trace : List Happening) : Prop :=
  ∃ next answer config journal older,
    (∃ message, trace = ⟨.save next, answer, some next⟩ ::
      ⟨.observe config, .error message, journal⟩ :: older) ∨
    ∃ observation now, trace = ⟨.save next, answer, some next⟩ :: ⟨.now, .ok now, journal⟩ ::
        ⟨.observe config, .ok observation, journal⟩ :: older ∧
      (evaluateObservation observation config now).eligible = false

def NoRefusalSince (newer older : List Happening) : Prop :=
  ∀ front back, newer = front ++ back → back ≠ [] → ¬ SavesRefusal (back ++ older)

def confirmationOf (observation : Observation) : Confirmation :=
  ⟨observation.quote.id, observation.observedAtMs, observation.quote.contextSlot⟩

/-- The calls of a tick that durably recorded an eligible observation, newest first. -/
def confirmingTick (state : JournalState) (config : JitoBotConfig) (observation : Observation)
    (now : Int) (answer : Except String Unit) (journal : Option JournalState) : List Happening :=
  [⟨.save state, answer, some state⟩, ⟨.now, .ok now, journal⟩,
    ⟨.observe config, .ok observation, journal⟩]

/-- The observation was eligible and durably recorded in this trace, and no refusal was saved since. -/
def RecordedIn (trace : List Happening) (observation : Observation) : Prop :=
  ∃ newer older state config now answer journal,
    trace = newer ++ (confirmingTick state config observation now answer journal ++ older) ∧
    (evaluateObservation observation config now).eligible = true ∧
    state.confirmation = some (confirmationOf observation) ∧
    NoRefusalSince newer (confirmingTick state config observation now answer journal ++ older)

/-- A buy on two observations: the eligible one of this tick, and one that an earlier tick recorded. -/
def OnTwoObservations (trace : List Happening) (request : PrepareRequest) : Prop :=
  ∃ observation first state now id earlier,
    request.observation = some observation ∧
    trace = entryTick state request.config observation now id ++ earlier ∧
    (evaluateObservation observation request.config now).eligible = true ∧
    RecordedIn earlier first ∧
    first.quote.id ≠ observation.quote.id ∧ first.quote.contextSlot < observation.quote.contextSlot ∧
    request.config.confirmationDelayMs ≤ observation.observedAtMs - first.observedAtMs ∧
    observation.observedAtMs - first.observedAtMs ≤ request.config.maxConfirmationGapMs

/-- The deadline is that of the observation this transaction was prepared on. -/
def DeadlineOf (trace : List Happening) (transaction : PendingTransaction) (deadline : Int) : Prop :=
  ∃ config position observation signed journal,
    (⟨.prepare ⟨.buy, config, position, some observation⟩, .ok signed, journal⟩ : Happening) ∈ trace ∧
    signed.signature = transaction.signature ∧ deadline = quoteDeadline config observation

/-! ## The invariant -/

structure EntryHolds (world : TracedWorld) : Prop where
  confirmed : ∀ state confirmation, world.current.journal = some state →
    state.confirmation = some confirmation →
    ∃ observation, confirmation = confirmationOf observation ∧ RecordedIn world.trace observation
  exclusive : ∀ state transaction, world.current.journal = some state →
    state.pending = some transaction → state.confirmation = none
  deadline : ∀ state transaction, world.current.journal = some state →
    state.pending = some transaction → transaction.kind = .buy →
    ∃ deadline, transaction.quoteExpiresAtMs = some deadline ∧
      DeadlineOf world.trace transaction deadline

def isSave : JitoCall → Bool
  | .save _ => true
  | _ => false

variable {answer : Except String Unit}
variable {world : TracedWorld} {observation : Observation} {next : JournalState}

section Growth

variable {happening : Happening} {trace : List Happening}

/-- A call that saves no refusal leaves what was recorded. -/
theorem RecordedIn.grow (recorded : RecordedIn trace observation)
    (noRefusal : ¬ SavesRefusal (happening :: trace)) : RecordedIn (happening :: trace) observation := by
  obtain ⟨newer, older, state, config, now, answer, journal, split, eligible, holds, since⟩ := recorded
  refine ⟨happening :: newer, older, state, config, now, answer, journal, by rw [split]; rfl, eligible,
    holds, ?_⟩
  intro front back same nonempty
  cases front with
  | nil =>
    rw [List.nil_append] at same
    rw [← same, List.cons_append, ← split]
    exact noRefusal
  | cons first rest => exact since rest back (List.cons.inj same).2 nonempty

theorem not_savesRefusal_of_call (notSave : isSave happening.call = false) :
    ¬ SavesRefusal (happening :: trace) := by
  rintro ⟨next, answer, config, journal, older, ⟨message, same⟩ | ⟨_, _, same, -⟩⟩
  · rw [(List.cons.inj same).1] at notSave
    cases notSave
  · rw [(List.cons.inj same).1] at notSave
    cases notSave

/-- A save that was not applied saves nothing. -/
theorem not_savesRefusal_of_journal {journal : Option JournalState} (other : journal ≠ some next) :
    ¬ SavesRefusal (⟨.save next, answer, journal⟩ :: trace) := by
  rintro ⟨next', answer', config, before, older, ⟨message, same⟩ | ⟨_, _, same, -⟩⟩
  · obtain ⟨rfl, rfl⟩ : next = next' ∧ journal = some next' := by
      have head := (List.cons.inj same).1
      injection head with call _ after
      injection call with isNext
      exact ⟨isNext, after⟩
    exact other rfl
  · obtain ⟨rfl, rfl⟩ : next = next' ∧ journal = some next' := by
      have head := (List.cons.inj same).1
      injection head with call _ after
      injection call with isNext
      exact ⟨isNext, after⟩
    exact other rfl

theorem DeadlineOf.grow {transaction : PendingTransaction} {deadline : Int}
    (isDeadline : DeadlineOf trace transaction deadline) :
    DeadlineOf (happening :: trace) transaction deadline := by
  obtain ⟨config, position, observation, signed, journal, member, signature, same⟩ := isDeadline
  exact ⟨config, position, observation, signed, journal, List.mem_cons_of_mem _ member, signature, same⟩

/-- Growth of the trace under an unchanged journal. -/
theorem EntryHolds.grow {current : JitoWorld} (holds : EntryHolds world)
    (same : current.journal = world.current.journal)
    (noRefusal : ¬ SavesRefusal (happening :: world.trace)) :
    EntryHolds ⟨current, happening :: world.trace⟩ := by
  constructor
  · intro state confirmation stored confirmed
    obtain ⟨observation, isOf, recorded⟩ := holds.confirmed state confirmation (same ▸ stored) confirmed
    exact ⟨observation, isOf, recorded.grow noRefusal⟩
  · intro state transaction stored pending
    exact holds.exclusive state transaction (same ▸ stored) pending
  · intro state transaction stored pending isBuy
    obtain ⟨deadline, expires, isDeadline⟩ := holds.deadline state transaction (same ▸ stored) pending isBuy
    exact ⟨deadline, expires, isDeadline.grow⟩

end Growth

/-! ## What a save does -/

variable {setting : JitoSetting}

section Saves

variable {uuids : UuidStream} {transaction : PendingTransaction}

section Saved

variable (cause : SaveCause uuids setting world next)

include cause

/-- A confirmation is saved only for an eligible observation, with nothing pending. -/
theorem saveCause_confirmation (holds : EntryHolds world) :
    next.confirmation = none ∨ next.pending = none ∧ ∃ observation now config journal older,
      world.trace = ⟨.now, .ok now, journal⟩ :: ⟨.observe config, .ok observation, journal⟩ :: older ∧
      (evaluateObservation observation config now).eligible = true ∧
      next.confirmation = some (confirmationOf observation) := by
  cases cause with
  | opens config absent | halts reason durable loaded | unavailable durable loaded told
  | ineligible durable loaded told refused => exact .inl rfl
  | confirms durable loaded idle told eligible =>
    exact .inr ⟨idle, _, _, _, _, _, told, eligible, rfl⟩
  | prepares durable loaded idle cause member isAsked sameKind => exact .inl rfl
  | attempts now durable loaded pending =>
    have unconfirmed := holds.exclusive _ _ durable pending
    exact .inl unconfirmed
  | unsent error durable loaded pending =>
    have unconfirmed := holds.exclusive _ _ durable pending
    exact .inl unconfirmed
  | records durable loaded pending held receipt settled =>
    obtain ⟨_, _, _, _, _, effect⟩ := recordReceipt_eq_ok receipt
    have unconfirmed := holds.exclusive _ _ durable pending
    rcases (settled_sameBooks settled).2 with none | same
    · exact .inl none
    · rw [same, effect.isRecorded]
      exact .inl unconfirmed

/-- A pending buy keeps the deadline it was prepared with. -/
theorem saveCause_deadline (holds : EntryHolds world)
    (pending : next.pending = some transaction) (isBuy : transaction.kind = .buy) :
    ∃ deadline, transaction.quoteExpiresAtMs = some deadline ∧
      DeadlineOf world.trace transaction deadline := by
  cases cause with
  | opens config absent => cases pending
  | halts reason durable loaded | unavailable durable loaded told
  | ineligible durable loaded told refused | confirms durable loaded idle told eligible =>
    exact holds.deadline _ _ durable pending isBuy
  | attempts now durable loaded wasPending =>
    cases pending
    obtain ⟨deadline, expires, isDeadline⟩ := holds.deadline _ _ durable wasPending isBuy
    exact ⟨deadline, expires, isDeadline⟩
  | unsent error durable loaded wasPending =>
    cases pending
    obtain ⟨deadline, expires, isDeadline⟩ := holds.deadline _ _ durable wasPending isBuy
    exact ⟨deadline, expires, isDeadline⟩
  | @prepares config state kind position observation signed asked durable loaded idle cause member
      isAsked sameKind =>
      cases pending
      rw [isAsked] at member
      cases cause with
      | held isHeld notBuy => exact absurd (sameKind.symm.trans isBuy) notBuy
      | @opened id now observed empty drawn fresh =>
        exact ⟨_, rfl, config, _, observed, signed, _, member, rfl, rfl⟩
  | records durable loaded wasPending held receipt settled =>
    obtain ⟨_, _, _, _, _, effect⟩ := recordReceipt_eq_ok receipt
    rw [(settled_sameBooks settled).1.pending, effect.isRecorded] at pending
    cases pending

/-- The sequence number tells the saved journal from the one it replaces. -/
theorem saveCause_sequence : world.current.journal ≠ some (saved next) := by
  have step : ∀ state, Durable state world.current → next.sequence = state.sequence →
      world.current.journal ≠ some (saved next) := by
    intro state durable same stored
    have isSaved : state = saved next := Option.some.inj (durable.symm.trans stored)
    have : state.sequence = next.sequence + 1 := by rw [isSaved]; rfl
    omega
  cases cause with
  | opens config absent => rw [absent]; nofun
  | halts reason durable loaded | unavailable durable loaded told
  | ineligible durable loaded told refused | confirms durable loaded idle told eligible
  | attempts now durable loaded pending | unsent error durable loaded pending
  | prepares durable loaded idle cause member isAsked sameKind => exact step _ durable rfl
  | records durable loaded pending held receipt settled =>
    obtain ⟨_, _, _, _, _, effect⟩ := recordReceipt_eq_ok receipt
    refine step _ durable ?_
    rw [(settled_sameBooks settled).1.sequence, effect.isRecorded]

theorem entryHolds_saved (holds : EntryHolds world) :
    EntryHolds ⟨{ world.current with journal := some (saved next) },
      ⟨.save (saved next), answer, some (saved next)⟩ :: world.trace⟩ := by
  constructor
  · intro state confirmation stored isConfirmed
    cases stored
    rcases saveCause_confirmation cause holds with none |
      ⟨-, observation, now, config, journal, older, trace, eligible, isOf⟩
    · cases none.symm.trans isConfirmed
    · cases isOf.symm.trans isConfirmed
      refine ⟨observation, rfl, [], older, saved next, config, now, answer, journal, by rw [trace]; rfl,
        eligible, isOf, ?_⟩
      intro front back same nonempty
      exact absurd (List.append_eq_nil_iff.mp same.symm).2 nonempty
  · intro state transaction stored pending
    cases stored
    rcases saveCause_confirmation cause holds with none | ⟨idle, -⟩
    · exact none
    · cases idle.symm.trans pending
  · intro state transaction stored pending isBuy
    cases stored
    obtain ⟨deadline, expires, isDeadline⟩ := saveCause_deadline cause holds pending isBuy
    exact ⟨deadline, expires, isDeadline.grow⟩

end Saved

theorem performTraced_entry {choice : JitoChoice} {request : JitoCall}
    (cause : CallCause uuids setting request world) (holds : EntryHolds world) :
    EntryHolds (performTraced uuids choice request world).2 := by
  cases request with
  | save next =>
    obtain ⟨state, rfl, -, saves⟩ := cause
    change EntryHolds ⟨(storeJournal choice.saved (saved state) world.current).2,
      ⟨.save (saved state), (storeJournal choice.saved (saved state) world.current).1,
        (storeJournal choice.saved (saved state) world.current).2.journal⟩ :: world.trace⟩
    rcases storeJournal_cases choice.saved (saved state) world.current with same | stored
    · rw [same]
      exact holds.grow rfl (not_savesRefusal_of_journal (saveCause_sequence saves))
    · rw [stored]
      exact entryHolds_saved saves holds
  | randomUUID | load | stopped | now | observe config | prepare request | broadcast transaction
  | poll transaction | canClaim position => exact holds.grow rfl (not_savesRefusal_of_call rfl)

end Saves

/-! ## Every run -/

section Run

variable {uuids : UuidStream}

theorem entryHolds_run (events : List (Event (tracedEnvironment uuids) JitoBotConfig)) :
    EntryHolds (tracedRun uuids setting events).world := by
  refine tracedRun_invariant ⟨?_, ?_, ?_⟩ (fun _ _ _ => performTraced_entry) events
  · intro state confirmation stored
    cases stored
  · intro state transaction stored
    cases stored
  · intro state transaction stored
    cases stored

/-- The calls of the current tick save nothing, so what was recorded was recorded before it. -/
theorem recordedIn_before {state : JournalState} {config : JitoBotConfig} {observed : Observation}
    {now : Int} {id : String} {earlier : List Happening}
    (recorded : RecordedIn (entryTick state config observed now id ++ earlier) observation) :
    RecordedIn earlier observation := by
  have drop : ∀ (happening : Happening) (rest : List Happening),
      isSave happening.call = false → RecordedIn (happening :: rest) observation →
      RecordedIn rest observation := by
    intro happening rest notSave recorded
    obtain ⟨newer, older, state, config, now, answer, journal, split, eligible, holds, since⟩ := recorded
    cases newer with
    | nil =>
      rw [(List.cons.inj split).1] at notSave
      cases notSave
    | cons first newer =>
      refine ⟨newer, older, state, config, now, answer, journal, (List.cons.inj split).2, eligible,
        holds, fun front back same nonempty => since (first :: front) back ?_ nonempty⟩
      rw [same]
      rfl
  exact drop _ _ rfl (drop _ _ rfl (drop _ _ rfl (drop _ _ rfl (drop _ _ rfl (drop _ _ rfl recorded)))))

/-- A buy is about to be prepared only on two observations. -/
def PreparesOnTwo (reached : State (tracedEnvironment uuids) TickResult) : Prop :=
  ∀ request resume, reached.programs () = some (.await (.prepare request) resume) →
    request.kind = .buy → OnTwoObservations reached.world.trace request

/-- A buy is about to be broadcast only right after the stop file was found absent and the clock did
not exceed the deadline of the observation it was prepared on. -/
def BroadcastsInTime (reached : State (tracedEnvironment uuids) TickResult) : Prop :=
  ∀ transaction resume, reached.programs () = some (.await (.broadcast transaction) resume) →
    transaction.kind = .buy → ∃ deadline now journal older,
      transaction.quoteExpiresAtMs = some deadline ∧
      DeadlineOf reached.world.trace transaction deadline ∧ now ≤ deadline ∧
      reached.world.trace = ⟨.now, .ok now, journal⟩ :: ⟨.stopped, .ok false, journal⟩ :: older

/-- In every run, a buy is prepared only on two eligible observations in sequence, and it is broadcast only
while the deadline of its quote has not passed. -/
theorem jito_twoObservations (uuids : UuidStream) (setting : JitoSetting)
    (events : List (Event (tracedEnvironment uuids) JitoBotConfig)) :
    PreparesOnTwo (tracedRun uuids setting events) ∧
      BroadcastsInTime (tracedRun uuids setting events) := by
  have holds : EntryHolds (tracedRun uuids setting events).world := entryHolds_run events
  constructor
  · intro request resume waiting isBuy
    obtain ⟨state, durable, -, -, cause⟩ := tracedRun_cause waiting
    obtain ⟨observation, confirmation, now, id, older, isObserved, isConfirmed, trace, eligible, inGap,
      delayed, otherQuote, newerSlot⟩ := cause isBuy
    obtain ⟨first, rfl, recorded⟩ := holds.confirmed state confirmation durable isConfirmed
    rw [trace] at recorded
    exact ⟨observation, first, state, now, id, older, isObserved, trace, eligible,
      recordedIn_before recorded, fun same => otherQuote same.symm, newerSlot, delayed, inGap⟩
  · intro transaction resume waiting isBuy
    obtain ⟨state, durable, -, pending, cause⟩ := tracedRun_cause waiting
    obtain ⟨deadline, now, older, expires, inTime, trace⟩ := cause isBuy
    obtain ⟨known, isKnown, isDeadline⟩ := holds.deadline state transaction durable pending isBuy
    cases expires.symm.trans isKnown
    exact ⟨deadline, now, some state, older, expires, isDeadline, inTime, trace⟩

end Run

end SolTokenListener.Guarantees.JitoEntry
