import SolTokenListener.Guarantees.JitoRuns

/-!
# What a tick of the JitoSOL bot can do

The runs of the bot, with every call, its answer and the journal it left kept as a trace,
newest first. One relation says why a tick saves, prepares or broadcasts: what it saves is one of the
listed changes of the durable journal, with the calls of the tick that led to it. Every invariant of
the journal is then an invariant of these changes.
-/

namespace SolTokenListener.Guarantees.JitoSteps

open Lib.Checked Lib.AsyncProgram
open Lib.Interleaving Lib.Interleaving.Discipline
open Source.Chain Source.JitoConfig Source.JitoJournal
open Source.JitoEngine
open Guarantees.JitoRuns

variable {effects : TransactionEffects} {charged : Position} {request : JitoCall}
variable {outcome : JournalState × Checked Unit} {calls : List Happening}

/-! ## Runs with their calls -/

/-- One call of a run, what it answered, and the journal it left. -/
structure Happening where
  call : JitoCall
  answer : Except String call.Answer
  journal : Option JournalState

structure TracedWorld where
  current : JitoWorld
  trace : List Happening

def performTraced (uuids : UuidStream) (choice : JitoChoice) (request : JitoCall) (world : TracedWorld) :
    Except String request.Answer × TracedWorld :=
  let performed := performJito uuids choice request world.current
  (performed.1, ⟨performed.2, ⟨request, performed.1, performed.2.journal⟩ :: world.trace⟩)

/-- One process, and nothing else writes the journal. -/
abbrev tracedEnvironment (uuids : UuidStream) : Environment jitoInterface where
  World := TracedWorld
  Process := Unit
  Choice := JitoChoice
  Change := Empty
  perform := fun _ => performTraced uuids
  evolve := fun change => nomatch change

/-- The state after a schedule of ticks, from no journal at all. -/
def tracedRun (uuids : UuidStream) (setting : JitoSetting)
    (events : List (Event (tracedEnvironment uuids) JitoBotConfig)) :
    State (tracedEnvironment uuids) TickResult :=
  run (fun _ => tick setting) (start ⟨⟨none, [], 0⟩, []⟩) events

/-! ## Causes -/

variable {uuids : UuidStream} {setting : JitoSetting}

/-- A running journal that this configuration accepts. -/
structure Loaded (setting : JitoSetting) (config : JitoBotConfig) (state : JournalState) : Prop where
  valid : validateJournalState setting.codecs state = .ok ()
  fingerprint : state.configFingerprint = setting.configFingerprint config
  running : state.status = .running

def haltedBy (state : JournalState) (reason : String) : JournalState :=
  { state with status := .halted, haltReason := some reason, confirmation := none }

/-- What applying a receipt to the charged position can leave. -/
def AppliedAs (recorded : JournalState) (charged : Position) (transaction : PendingTransaction)
    (effects : TransactionEffects) (outcome : JournalState × Checked Unit) : Prop :=
  match transaction.kind with
  | .buy => outcome = ({ recorded with position := some (applyBuy charged transaction effects).1 },
      (applyBuy charged transaction effects).2)
  | .withdraw => outcome =
      ({ recorded with position := some (applyWithdraw charged transaction effects).1 },
        (applyWithdraw charged transaction effects).2)
  | .deactivate => outcome = ({ recorded with position := some (applyDeactivate charged effects).1 },
      (applyDeactivate charged effects).2)
  | .claim =>
    match claimProfit charged effects with
    | .error fault => outcome = ({ recorded with position := some charged }, .error fault)
    | .ok (claimed, profit) => ∃ now,
        outcome = closeCycle recorded (completedPosition charged claimed profit now) profit

/-- The journal a recorded receipt ends in. -/
inductive Settled (config : JitoBotConfig) (recorded : JournalState) (charged : Position)
    (transaction : PendingTransaction) (effects : TransactionEffects) : JournalState → Prop
  | failed (reason : String) : Settled config recorded charged transaction effects (haltedBy recorded reason)
  | stopped {applied : JournalState} {outcome : Checked Unit} (reason : String)
      (isApplied : AppliedAs recorded charged transaction effects (applied, outcome)) :
      Settled config recorded charged transaction effects (haltedBy applied reason)
  | within {applied : JournalState}
      (isApplied : AppliedAs recorded charged transaction effects (applied, .ok ()))
      (inLimits : exceededLimit applied config charged.feesLamports = .ok none) :
      Settled config recorded charged transaction effects applied

/-- The ids a journal uses for positions. -/
def journalIds (state : JournalState) : List String :=
  (state.position.toList ++ state.completedPositions).map (·.id) ++
    state.transactions.map (·.positionId)

/-- The ids of the journal, if there is one. -/
def knownIds (journal : Option JournalState) : List String := journal.elim [] journalIds

theorem mem_knownIds {journal : Option JournalState} {id : String} :
    id ∈ knownIds journal ↔ ∃ state, journal = some state ∧ id ∈ journalIds state := by
  cases journal <;> simp [knownIds]

def Drawn (uuids : UuidStream) (count : Nat) (id : String) : Prop := ∃ n < count, id = uuids.draw n

/-- The position a transaction is prepared for: the one held, or a new one with an id never used. -/
inductive PositionCause (uuids : UuidStream) (count : Nat) (state : JournalState) :
    ActionKind → Position → Option Observation → Prop
  | held {kind : ActionKind} {position : Position} (isHeld : state.position = some position)
      (notBuy : kind ≠ .buy) (next : kindOrder kind = stageOrder position.stage) :
      PositionCause uuids count state kind position none
  | opened {id : String} {now : Int} {observation : Observation} (empty : state.position = none)
      (drawn : Drawn uuids count id) (fresh : id ∉ journalIds state) :
      PositionCause uuids count state .buy (entryPosition id now) (some observation)

def attemptedAt (transaction : PendingTransaction) (now : Int) : PendingTransaction :=
  { transaction with
    broadcastAttempts := some (transaction.broadcastAttempts.getD 0 + 1)
    lastBroadcastAtMs := some now
    lastBroadcastError := none }

/-- What is saved, but for its sequence number, and why. -/
inductive SaveCause (uuids : UuidStream) (setting : JitoSetting) (world : TracedWorld) :
    JournalState → Prop
  | opens (config : JitoBotConfig) (absent : world.current.journal = none) :
      SaveCause uuids setting world (freshJournal setting config)
  | halts {config : JitoBotConfig} {state : JournalState} (reason : String)
      (durable : Durable state world.current) (loaded : Loaded setting config state) :
      SaveCause uuids setting world (haltedBy state reason)
  | unavailable {config : JitoBotConfig} {state : JournalState} {message : String}
      {older : List Happening} (durable : Durable state world.current)
      (loaded : Loaded setting config state)
      (told : world.trace = ⟨.observe config, .error message, some state⟩ :: older) :
      SaveCause uuids setting world { state with confirmation := none }
  | ineligible {config : JitoBotConfig} {state : JournalState} {observation : Observation} {now : Int}
      {older : List Happening} (durable : Durable state world.current)
      (loaded : Loaded setting config state)
      (told : world.trace = ⟨.now, .ok now, some state⟩ ::
        ⟨.observe config, .ok observation, some state⟩ :: older)
      (refused : (evaluateObservation observation config now).eligible = false) :
      SaveCause uuids setting world { state with confirmation := none }
  | confirms {config : JitoBotConfig} {state : JournalState} {observation : Observation} {now : Int}
      {older : List Happening} (durable : Durable state world.current)
      (loaded : Loaded setting config state) (idle : state.pending = none)
      (told : world.trace = ⟨.now, .ok now, some state⟩ ::
        ⟨.observe config, .ok observation, some state⟩ :: older)
      (eligible : (evaluateObservation observation config now).eligible = true) :
      SaveCause uuids setting world { state with
        confirmation := some ⟨observation.quote.id, observation.observedAtMs,
          observation.quote.contextSlot⟩ }
  | prepares {config : JitoBotConfig} {state : JournalState} {kind : ActionKind} {position : Position}
      {observation : Option Observation} {transaction : PendingTransaction} {asked : Happening}
      (durable : Durable state world.current) (loaded : Loaded setting config state)
      (idle : state.pending = none)
      (cause : PositionCause uuids world.current.drawn state kind position observation)
      (member : asked ∈ world.trace)
      (isAsked : asked = ⟨.prepare ⟨kind, config, position, observation⟩, .ok transaction, some state⟩)
      (sameKind : transaction.kind = kind) :
      SaveCause uuids setting world (withPending state config position observation transaction)
  | attempts {config : JitoBotConfig} {state : JournalState} {transaction : PendingTransaction}
      (now : Int) (durable : Durable state world.current) (loaded : Loaded setting config state)
      (pending : state.pending = some transaction) :
      SaveCause uuids setting world { state with pending := some (attemptedAt transaction now) }
  | unsent {config : JitoBotConfig} {state : JournalState} {transaction : PendingTransaction}
      (error : String) (durable : Durable state world.current) (loaded : Loaded setting config state)
      (pending : state.pending = some transaction) :
      SaveCause uuids setting world { state with
        pending := some { transaction with lastBroadcastError := some error } }
  | records {config : JitoBotConfig} {state recorded next : JournalState}
      {position charged : Position} {transaction : PendingTransaction} {outcome : ReceiptOutcome}
      {effects : TransactionEffects} {now : Int} (durable : Durable state world.current)
      (loaded : Loaded setting config state) (pending : state.pending = some transaction)
      (held : state.position = some position)
      (receipt : recordReceipt state position transaction outcome effects now = .ok (recorded, charged))
      (settled : Settled config recorded charged transaction effects next) :
      SaveCause uuids setting world next

/-- The calls of a tick up to the preparation of a buy, newest first. -/
def entryTick (state : JournalState) (config : JitoBotConfig) (observation : Observation) (now : Int)
    (id : String) : List Happening :=
  [⟨.stopped, .ok false, some state⟩, ⟨.randomUUID, .ok id, some state⟩, ⟨.now, .ok now, some state⟩,
    ⟨.observe config, .ok observation, some state⟩, ⟨.stopped, .ok false, some state⟩,
    ⟨.load, .ok (some state), some state⟩]

/-- A buy is prepared right after its observation, on a confirmation that allows it. -/
def EntryCause (trace : List Happening) (state : JournalState) (request : PrepareRequest) : Prop :=
  ∃ observation first now id older,
    request.observation = some observation ∧ state.confirmation = some first ∧
    trace = entryTick state request.config observation now id ++ older ∧
    (evaluateObservation observation request.config now).eligible = true ∧
    observation.observedAtMs - first.observedAtMs ≤ request.config.maxConfirmationGapMs ∧
    request.config.confirmationDelayMs ≤ observation.observedAtMs - first.observedAtMs ∧
    observation.quote.id ≠ first.quoteId ∧ first.contextSlot < observation.quote.contextSlot

/-- A buy is sent right after a stop check and a clock reading that allow it. -/
def SendCause (trace : List Happening) (state : JournalState) (transaction : PendingTransaction) : Prop :=
  ∃ deadline now older, transaction.quoteExpiresAtMs = some deadline ∧ now ≤ deadline ∧
    trace = ⟨.now, .ok now, some state⟩ :: ⟨.stopped, .ok false, some state⟩ :: older

def CallCause (uuids : UuidStream) (setting : JitoSetting) : JitoCall → TracedWorld → Prop
  | .save next, world => ∃ state, next = saved state ∧
      validateJournalState setting.codecs next = .ok () ∧ SaveCause uuids setting world state
  | .prepare request, world => ∃ state, Durable state world.current ∧
      state.status = .running ∧ state.pending = none ∧
      (request.kind = .buy → EntryCause world.trace state request)
  | .broadcast transaction, world => ∃ state, Durable state world.current ∧
      state.status = .running ∧ state.pending = some transaction ∧
      (transaction.kind = .buy → SendCause world.trace state transaction)
  | _, _ => True

/-! ## The ids of a journal were drawn -/

/-- Every id in the journal was drawn before. -/
def IdsDrawn (uuids : UuidStream) (world : TracedWorld) : Prop :=
  ∀ state, world.current.journal = some state → ∀ id ∈ journalIds state,
    Drawn uuids world.current.drawn id

variable {transaction : PendingTransaction} {position : Position} {config : JitoBotConfig}
variable {world : TracedWorld} {state next : JournalState} {choice : JitoChoice}

section Ids

variable {recorded applied : JournalState}

/-- The position stays in the journal, or its cycle is closed. -/
theorem appliedAs_cases (isApplied : AppliedAs recorded charged transaction effects outcome) :
    (∃ moved, Moves charged effects transaction.kind moved ∧
      outcome = ({ recorded with position := some moved.1 }, moved.2)) ∨
    ∃ claimed profit now, claimProfit charged effects = .ok (claimed, profit) ∧
      outcome = closeCycle recorded (completedPosition charged claimed profit now) profit := by
  unfold AppliedAs at isApplied
  split at isApplied
  · next isBuy => exact .inl ⟨_, isBuy ▸ applyBuy_moves, isApplied⟩
  · next isWithdraw => exact .inl ⟨_, isWithdraw ▸ applyWithdraw_moves, isApplied⟩
  · next isDeactivate => exact .inl ⟨_, isDeactivate ▸ applyDeactivate_moves, isApplied⟩
  · split at isApplied
    · next fault _ => exact .inl ⟨_, .refused fault, isApplied⟩
    · next realizes =>
        obtain ⟨now, isClosed⟩ := isApplied
        exact .inr ⟨_, _, now, realizes, isClosed⟩

/-- A closed cycle keeps the id among the completed positions. -/
theorem appliedAs_ids (held : recorded.position = some charged)
    (isApplied : AppliedAs recorded charged transaction effects outcome) :
    ∀ id, id ∈ journalIds outcome.1 ↔ id ∈ journalIds recorded := by
  intro id
  rcases appliedAs_cases isApplied with ⟨moved, moves, rfl⟩ | ⟨claimed, profit, now, -, rfl⟩
  · simp [journalIds, held, moves.id]
  · have same : (completedPosition charged claimed profit now).id = charged.id := rfl
    rcases closeCycle_cases recorded (completedPosition charged claimed profit now) profit with
      ⟨fault, thrown⟩ | ⟨loss, closed⟩
    · rw [thrown]
      simp [journalIds, held, same]
    · rw [closed]
      simp [journalIds, held, same, or_left_comm]

/-- What recording a receipt does to the journal. -/
structure ReceiptRecorded (state : JournalState) (position : Position) (transaction : PendingTransaction)
    (outcome : ReceiptOutcome) (effects : TransactionEffects) (now : Int) (recorded : JournalState)
    (charged : Position) (totalFees fee positionFees positionCosts costs : Nat) : Prop where
  readTotalFees : amount state.totalFeesLamports = .ok totalFees
  readFee : amount effects.feeLamports = .ok fee
  readPositionFees : amount position.feesLamports = .ok positionFees
  readPositionCosts : amount position.nonRefundableCostLamports = .ok positionCosts
  readCosts : amount (effects.nonRefundableCostLamports.getD "0") = .ok costs
  isCharged : charged = { position with
    feesLamports := toString (positionFees + fee)
    nonRefundableCostLamports := toString (positionCosts + costs) }
  isRecorded : recorded = { state with
    totalFeesLamports := toString (totalFees + fee)
    position := some charged
    transactions := state.transactions ++ [⟨position.id, transaction, outcome, effects, now⟩]
    pending := none }

theorem recordReceipt_eq_ok {outcome : ReceiptOutcome} {now : Int}
    (receipt : recordReceipt state position transaction outcome effects now = .ok (recorded, charged)) :
    ∃ totalFees fee positionFees positionCosts costs,
      ReceiptRecorded state position transaction outcome effects now recorded charged totalFees fee
        positionFees positionCosts costs := by
  simp only [recordReceipt, bind_eq_ok, pure_eq_ok, Prod.mk.injEq] at receipt
  obtain ⟨totalFees, readTotal, fee, readFee, positionFees, readFees, positionCosts, readPositionCosts,
    costs, readCosts, isRecorded, isCharged⟩ := receipt
  exact ⟨totalFees, fee, positionFees, positionCosts, costs, readTotal, readFee, readFees,
    readPositionCosts, readCosts, isCharged.symm, by rw [← isRecorded, isCharged]⟩

/-- What applying a receipt leaves as it was recorded. -/
structure SameBooks (recorded after : JournalState) : Prop where
  configFingerprint : after.configFingerprint = recorded.configFingerprint
  sequence : after.sequence = recorded.sequence
  totalFeesLamports : after.totalFeesLamports = recorded.totalFeesLamports
  pending : after.pending = recorded.pending
  transactions : after.transactions = recorded.transactions

theorem appliedAs_sameBooks (isApplied : AppliedAs recorded charged transaction effects outcome) :
    SameBooks recorded outcome.1 ∧ outcome.1.status = recorded.status ∧
      outcome.1.confirmation = recorded.confirmation := by
  rcases appliedAs_cases isApplied with ⟨moved, -, rfl⟩ | ⟨claimed, profit, now, -, rfl⟩
  · exact ⟨⟨rfl, rfl, rfl, rfl, rfl⟩, rfl, rfl⟩
  · rcases closeCycle_cases recorded (completedPosition charged claimed profit now) profit with
      ⟨fault, thrown⟩ | ⟨loss, closed⟩
    · rw [thrown]
      exact ⟨⟨rfl, rfl, rfl, rfl, rfl⟩, rfl, rfl⟩
    · rw [closed]
      exact ⟨⟨rfl, rfl, rfl, rfl, rfl⟩, rfl, rfl⟩

/-- The books are those of the recorded receipt, and no confirmation appears. -/
theorem settled_sameBooks (settled : Settled config recorded charged transaction effects next) :
    SameBooks recorded next ∧
      (next.confirmation = none ∨ next.confirmation = recorded.confirmation) := by
  cases settled with
  | failed reason => exact ⟨⟨rfl, rfl, rfl, rfl, rfl⟩, .inl rfl⟩
  | stopped reason isApplied =>
    have same := (appliedAs_sameBooks isApplied).1
    exact ⟨⟨same.1, same.2, same.3, same.4, same.5⟩, .inl rfl⟩
  | within isApplied inLimits =>
    exact ⟨(appliedAs_sameBooks isApplied).1, .inr (appliedAs_sameBooks isApplied).2.2⟩

theorem settled_ids (held : recorded.position = some charged)
    (settled : Settled config recorded charged transaction effects next) :
    ∀ id, id ∈ journalIds next ↔ id ∈ journalIds recorded := by
  intro id
  cases settled with
  | failed reason => rfl
  | stopped reason isApplied => exact appliedAs_ids held isApplied id
  | within isApplied inLimits => exact appliedAs_ids held isApplied id

/-- Recording a receipt for the position held uses no other id. -/
theorem recorded_ids {outcome : ReceiptOutcome} {now : Int} (held : state.position = some position)
    (receipt : recordReceipt state position transaction outcome effects now = .ok (recorded, charged)) :
    ∀ id, id ∈ journalIds recorded ↔ id ∈ journalIds state := by
  obtain ⟨_, _, _, _, _, effect⟩ := recordReceipt_eq_ok receipt
  intro id
  rw [effect.isRecorded, effect.isCharged]
  simp only [journalIds, held, Option.toList_some, List.cons_append, List.nil_append, List.map_cons,
    List.map_append, List.map_nil, List.mem_cons, List.mem_append, List.not_mem_nil, or_false]
  tauto

/-- A save keeps the ids of the durable journal and uses no other but the one drawn for it. -/
theorem SaveCause.ids (cause : SaveCause uuids setting world next) :
    ∀ id, (id ∈ journalIds next →
      id ∈ knownIds world.current.journal ∨ Drawn uuids world.current.drawn id) ∧
      (id ∈ knownIds world.current.journal → id ∈ journalIds next) := by
  intro id
  have same : ∀ state, Durable state world.current → (id ∈ journalIds next ↔ id ∈ journalIds state) →
      (id ∈ journalIds next → id ∈ knownIds world.current.journal ∨
        Drawn uuids world.current.drawn id) ∧
      (id ∈ knownIds world.current.journal → id ∈ journalIds next) := by
    intro state durable ids
    rw [show world.current.journal = some state from durable]
    exact ⟨fun member => .inl (ids.mp member), ids.mpr⟩
  cases cause with
  | opens config absent => simp [absent, knownIds, journalIds, freshJournal]
  | halts reason durable loaded | unavailable durable loaded told
  | ineligible durable loaded told refused | confirms durable loaded idle told eligible
  | attempts now durable loaded pending | unsent error durable loaded pending =>
    exact same _ durable Iff.rfl
  | @prepares config state kind position observation transaction asked durable loaded idle cause =>
    cases cause with
    | held isHeld notBuy next => exact same state durable (by simp [journalIds, withPending, isHeld])
    | @opened newId now observation empty isDrawn fresh =>
      rw [show world.current.journal = some state from durable]
      have newOrOld : id ∈ journalIds (withPending state config (entryPosition newId now)
          (some observation) transaction) ↔ id = newId ∨ id ∈ journalIds state := by
        simp [journalIds, withPending, empty, entryPosition]
      rw [newOrOld]
      refine ⟨?_, .inr⟩
      rintro (rfl | old)
      · exact .inr isDrawn
      · exact .inl old
  | records durable loaded pending held receipt settled =>
    refine same _ durable ((settled_ids ?_ settled id).trans (recorded_ids held receipt id))
    obtain ⟨_, _, _, _, _, effect⟩ := recordReceipt_eq_ok receipt
    rw [effect.isRecorded]

theorem performTraced_ids (drawn : IdsDrawn uuids world)
    (cause : CallCause uuids setting request world) :
    IdsDrawn uuids (performTraced uuids choice request world).2 := by
  cases request with
  | save next =>
    obtain ⟨state, rfl, -, saves⟩ := cause
    change IdsDrawn uuids ⟨(storeJournal choice.saved (saved state) world.current).2, _⟩
    rcases storeJournal_cases choice.saved (saved state) world.current with same | stored
    · rw [same]
      exact drawn
    · rw [stored]
      intro after isAfter id member
      cases isAfter
      rcases (saves.ids id).1 member with old | isDrawn
      · rw [mem_knownIds] at old
        obtain ⟨state, durable, isOld⟩ := old
        exact drawn state durable id isOld
      · exact isDrawn
  | randomUUID =>
    intro state stored id member
    obtain ⟨n, below, same⟩ := drawn state stored id member
    exact ⟨n, Nat.lt_succ_of_lt below, same⟩
  | load | stopped | now | observe config | prepare request | broadcast transaction
  | poll transaction | canClaim position => exact drawn

end Ids

/-! ## The discipline -/

def callDiscipline (uuids : UuidStream) (setting : JitoSetting) : Discipline (tracedEnvironment uuids) where
  Holds := IdsDrawn uuids
  Permits := fun _ => CallCause uuids setting
  Effect := fun actor before after =>
    (actor = none → after = before) ∧ (actor ≠ none → ∃ choice request,
      CallCause uuids setting request before ∧ after = (performTraced uuids choice request before).2)
  perform_holds := performTraced_ids
  perform_effect := fun _ cause => ⟨nofun, fun _ => ⟨_, _, cause, rfl⟩⟩
  evolve_holds := fun {change} => nomatch change
  evolve_effect := fun {change} => nomatch change

/-- There is no other process: whatever the engine knows stays true until its next call. -/
theorem stable_any (knows : TracedWorld → Prop) : (callDiscipline uuids setting).Stable () knows := by
  intro actor other before after _ effect known
  cases actor with
  | none => exact effect.1 rfl ▸ known
  | some process => exact absurd rfl other

/-- From what it knows, the program makes calls for their causes only, and returns as said. -/
abbrev Makes {α : Type} (uuids : UuidStream) (setting : JitoSetting) (returns : α → TracedWorld → Prop)
    (program : Engine α) (knows : TracedWorld → Prop) : Prop :=
  (callDiscipline uuids setting).Safe () returns (fun _ _ => True) program knows

variable {knows : TracedWorld → Prop}

section Rules

variable {α β : Type} {returns : β → TracedWorld → Prop} {program : Engine α} {rest : α → Engine β}

/-- The world right after a call that changes nothing. -/
def After (knows : TracedWorld → Prop) (request : JitoCall) (answer : Except String request.Answer)
    (world : TracedWorld) : Prop :=
  ∃ before, knows before ∧
    world = ⟨before.current, ⟨request, answer, before.current.journal⟩ :: before.trace⟩

/-- Knowledge that further calls do not touch. -/
def Growing (knows : TracedWorld → Prop) : Prop :=
  ∀ current trace happening, knows ⟨current, trace⟩ → knows ⟨current, happening :: trace⟩

/-- The program leaves the world alone: what further calls do not touch is known afterwards. -/
def Quiet (uuids : UuidStream) (setting : JitoSetting) (program : Engine α) : Prop :=
  ∀ knows, Growing knows →
    (callDiscipline uuids setting).Safe () (fun _ => knows) (fun _ => knows) program knows

theorem growing_durable (state : JournalState) : Growing fun world => Durable state world.current :=
  fun _ _ _ durable => durable

theorem performTraced_reads (reads : Reads request) (world : TracedWorld) :
    performTraced uuids choice request world =
      ((performJito uuids choice request world.current).1,
        ⟨world.current, ⟨request, (performJito uuids choice request world.current).1,
          world.current.journal⟩ :: world.trace⟩) := by
  cases request <;> first | rfl | exact reads.elim

theorem safe_told (request : JitoCall) (reads : Reads request) :
    (callDiscipline uuids setting).Safe () (fun answer => After knows request (.ok answer))
      (fun error => After knows request (.error error)) (ask request) knows := by
  refine Safe.call (fun world _ _ => ?_) (fun _ => stable_any _) (fun _ => stable_any _)
    fun world choice _ known => ?_
  · cases request <;> first | exact trivial | exact reads.elim
  · have performed : (tracedEnvironment uuids).perform () choice request world =
        ((performJito uuids choice request world.current).1,
          ⟨world.current, ⟨request, (performJito uuids choice request world.current).1,
            world.current.journal⟩ :: world.trace⟩) := performTraced_reads reads world
    rw [performed]
    cases told : (performJito uuids choice request world.current).1 with
    | ok answer => exact ⟨world, known, rfl⟩
    | error error => exact ⟨world, known, rfl⟩

theorem quiet_ask (request : JitoCall) (reads : Reads request) :
    Quiet uuids setting (ask request) := by
  intro knows growing
  refine (safe_told request reads).consequence ?_ ?_
  · rintro answer world - ⟨before, known, rfl⟩
    exact growing _ _ _ known
  · rintro error world - ⟨before, known, rfl⟩
    exact growing _ _ _ known

theorem quiet_lift (result : Checked α) : Quiet uuids setting (lift result : Engine α) :=
  fun _ _ => Safe.lift (fun _ _ _ _ known => known) fun _ _ _ _ known => known

theorem Quiet.bind {rest : α → Engine β} (quiet : Quiet uuids setting program)
    (continues : ∀ value, Quiet uuids setting (rest value)) : Quiet uuids setting (program >>= rest) :=
  fun knows growing => (quiet knows growing).bind fun value => continues value knows growing

theorem Quiet.attempt (quiet : Quiet uuids setting program) : Quiet uuids setting (attempt program) :=
  fun knows growing => (quiet knows growing).attempt.consequence
    (fun result _ _ known => by cases result <;> exact known) fun _ _ _ known => known

theorem Quiet.then (quiet : Quiet uuids setting program) (growing : Growing knows)
    (continues : ∀ value, Makes uuids setting returns (rest value) knows) :
    Makes uuids setting returns (program >>= rest) knows :=
  ((quiet knows growing).consequence (fun _ _ _ known => known) fun _ _ _ _ => trivial).bind continues

/-- A call that reads, with its answer kept as knowledge. -/
theorem told_makes {rest : request.Answer → Engine β} (reads : Reads request)
    (continues : ∀ answer, Makes uuids setting returns (rest answer) (After knows request (.ok answer))) :
    Makes uuids setting returns (ask request >>= rest) knows :=
  ((safe_told request reads).consequence (fun _ _ _ known => known) fun _ _ _ _ => trivial).bind continues

theorem makes_lift {result : Checked α}
    (continues : ∀ value, result = .ok value → Makes uuids setting returns (rest value) knows) :
    Makes uuids setting returns (lift result >>= rest) knows := by
  cases result with
  | ok value => exact continues value rfl
  | error error => exact fun _ _ _ => trivial

theorem makes_throw {message : String} : Makes uuids setting returns (throw message : Engine β) knows :=
  Safe.throw fun _ _ _ => trivial

theorem makes_pure {value : β} : Makes uuids setting (fun _ _ => True) (pure value : Engine β) knows :=
  Safe.pure fun _ _ _ => trivial

end Rules

/-! ## Saving -/

section Saving

variable {β : Type} {returns : β → TracedWorld → Prop} {rest : JournalState → Engine β}

theorem safe_save (cause : ∀ world, IdsDrawn uuids world → knows world →
      SaveCause uuids setting world next) :
    Makes uuids setting (fun stored world => (stored = saved next ∧
        validateJournalState setting.codecs (saved next) = .ok ()) ∧ Durable (saved next) world.current)
      (save setting next) knows := by
  refine makes_lift fun _ valid => ?_
  have written : Makes uuids setting (fun _ world => Durable (saved next) world.current)
      (ask (.save (saved next))) knows := by
    refine Safe.call (fun world drawn known => ⟨next, rfl, valid, cause world drawn known⟩)
      (fun _ => stable_any _) (fun _ => stable_any _) fun world choice _ _ => ?_
    obtain ⟨-, outcome, -⟩ := choice
    cases outcome with
    | refused message => trivial
    | stored => exact (rfl : some (saved next) = some (saved next))
    | storedThenThrew message => trivial
  exact written.bind fun _ => Safe.pure fun _ _ stored => ⟨⟨rfl, valid⟩, stored⟩

theorem saved_makes (cause : ∀ world, IdsDrawn uuids world → knows world →
      SaveCause uuids setting world next)
    (continues : validateJournalState setting.codecs (saved next) = .ok () →
      Makes uuids setting returns (rest (saved next)) fun world => Durable (saved next) world.current) :
    Makes uuids setting returns (save setting next >>= rest) knows := by
  refine (safe_save cause).bind fun stored => Safe.of_fact fun ⟨same, valid⟩ => ?_
  rw [same]
  exact continues valid

theorem safe_halt {reason : String} (loaded : Loaded setting config state)
    (durable : ∀ world, knows world → Durable state world.current) :
    Makes uuids setting (fun _ _ => True) (halt setting state reason) knows :=
  saved_makes (fun world _ known => .halts reason (durable world known) loaded) fun _ => makes_pure

end Saving

/-! ## The programs of one tick -/

section Tick

/-! ### Broadcasting -/

/-- A buy that has not expired was checked by the clock just now. -/
theorem safe_buyExpired
    (durable : ∀ world, knows world → Durable state world.current) :
    Makes uuids setting (fun expired world => Durable state world.current ∧
        (expired = false → transaction.kind = .buy → ∃ deadline now,
          transaction.quoteExpiresAtMs = some deadline ∧ now ≤ deadline ∧
          After knows .now (.ok now) world))
      (buyExpired transaction) knows := by
  unfold buyExpired
  split
  · exact Safe.pure fun world _ known => ⟨durable world known, nofun⟩
  · next deadline _ expires =>
      refine told_makes trivial fun now => Safe.pure ?_
      rintro world - told
      obtain ⟨before, known, rfl⟩ := told
      refine ⟨durable before known, fun notExpired _ => ⟨deadline, now, expires, ?_, before, known, rfl⟩⟩
      simpa using notExpired
  · next withoutDeadline withDeadline =>
      refine Safe.pure fun world _ known => ⟨durable world known, fun _ isBuy => ?_⟩
      cases expires : transaction.quoteExpiresAtMs with
      | none => exact (withoutDeadline isBuy expires).elim
      | some deadline => exact (withDeadline deadline isBuy expires).elim

/-- Sending the durable pending transaction changes nothing in the journal. -/
theorem safe_send
    (durable : ∀ world, knows world → Durable state world.current)
    (running : state.status = .running) (pending : state.pending = some transaction)
    (cause : ∀ world, knows world → transaction.kind = .buy → SendCause world.trace state transaction) :
    (callDiscipline uuids setting).Safe () (fun _ world => Durable state world.current)
      (fun _ world => Durable state world.current) (ask (.broadcast transaction)) knows := by
  refine Safe.call
    (fun world _ known => ⟨state, durable world known, running, pending, cause world known⟩)
    (fun _ => stable_any _) (fun _ => stable_any _) fun world choice _ known => ?_
  obtain ⟨-, -, -, -, -, -, failure, -, -⟩ := choice
  cases failure with
  | none => exact durable world known
  | some message => exact durable world known

theorem loaded_saved (loaded : Loaded setting config state)
    (valid : validateJournalState setting.codecs (saved next) = .ok ())
    (fingerprint : next.configFingerprint = state.configFingerprint)
    (status : next.status = state.status) : Loaded setting config (saved next) :=
  ⟨valid, fingerprint.trans loaded.fingerprint, status.trans loaded.running⟩

theorem safe_broadcast (loaded : Loaded setting config state) :
    Makes uuids setting (fun _ _ => True) (broadcast setting state)
      fun world => Durable state world.current := by
  unfold broadcast
  split
  · next transaction pending =>
      refine (quiet_ask .stopped trivial).then (growing_durable state) fun stopped => ?_
      split
      · exact makes_pure
      refine (safe_buyExpired fun _ durable => durable).bind fun expired => ?_
      split
      · exact makes_pure
      refine ((quiet_ask .now trivial).then (growing_durable state) fun now => ?_).weaken
        fun _ _ known => known.1
      refine saved_makes (fun world _ durable => .attempts now durable loaded pending) fun valid => ?_
      have again := loaded_saved loaded valid rfl rfl
      refine told_makes trivial fun stoppedAgain => ?_
      split
      · exact makes_pure
      next notStopped =>
      rw [Bool.not_eq_true] at notStopped
      subst notStopped
      have durable : ∀ world, After (fun world => Durable (saved { state with
          pending := some (attemptedAt transaction now) }) world.current) .stopped (.ok false) world →
          Durable (saved { state with pending := some (attemptedAt transaction now) }) world.current := by
        rintro world ⟨before, durable, rfl⟩
        exact durable
      refine (safe_buyExpired durable).bind fun expiredAgain => ?_
      split
      · exact makes_pure
      next notExpired =>
      rw [Bool.not_eq_true] at notExpired
      refine Safe.bind (Safe.attempt (safe_send (fun _ known => known.1) again.running rfl ?_))
        fun sent => ?_
      · rintro world ⟨-, unexpired⟩ isBuy
        obtain ⟨deadline, now', expires, inTime, before, ⟨earlier, durable, rfl⟩, rfl⟩ :=
          unexpired notExpired isBuy
        refine ⟨deadline, now', earlier.trace, expires, inTime, ?_⟩
        have journal : earlier.current.journal = some (saved { state with
          pending := some (attemptedAt transaction now) }) := durable
        rw [journal]
      · cases sent with
        | ok _ => exact makes_pure
        | error message =>
          exact saved_makes (fun world _ durable => .unsent message durable again rfl)
            fun _ => makes_pure
  · exact makes_throw

/-! ### Preparing -/

variable {kind : ActionKind} {observation : Option Observation}

theorem safe_assertPrepared (growing : Growing knows) :
    (callDiscipline uuids setting).Safe () (fun _ world => transaction.kind = kind ∧ knows world)
      (fun _ => knows) (assertPrepared kind config position observation transaction) knows := by
  have identity : (callDiscipline uuids setting).Safe ()
      (fun _ world => transaction.kind = kind ∧ knows world) (fun _ => knows)
      (lift (require (transaction.kind = kind ∧ transaction.signature ≠ "" ∧
        transaction.wireTransactionBase64 ≠ "" ∧ isSafeInteger transaction.lastValidBlockHeight ∧
        0 < transaction.lastValidBlockHeight) "invalid signed transaction identity")) knows :=
    Safe.lift (fun _ accepted _ _ known => ⟨(require_eq_ok.mp accepted).1, known⟩)
      fun _ _ _ _ known => known
  have guarded : Quiet uuids setting (do
      let now ← ask .now
      lift (prepareGuard kind config position observation transaction now) : Engine Unit) :=
    (quiet_ask .now trivial).bind fun now => quiet_lift _
  exact identity.bind fun _ =>
    (guarded _ fun _ _ _ known => ⟨known.1, growing _ _ _ known.2⟩).consequence
      (fun _ _ _ known => known) fun _ _ _ known => known.2

/-- The journal a preparation starts from, and the position it is for. -/
structure Preparing (uuids : UuidStream) (state : JournalState) (kind : ActionKind) (position : Position)
    (observation : Option Observation) (world : TracedWorld) : Prop where
  durable : Durable state world.current
  cause : PositionCause uuids world.current.drawn state kind position observation

theorem growing_preparing : Growing (Preparing uuids state kind position observation) :=
  fun _ _ _ preparing => ⟨preparing.durable, preparing.cause⟩

/-- The gateway was asked and answered with this transaction. -/
def Asked (state : JournalState) (request : PrepareRequest) (transaction : PendingTransaction)
    (world : TracedWorld) : Prop :=
  (⟨.prepare request, .ok transaction, some state⟩ : Happening) ∈ world.trace

theorem safe_prepareChecked (running : state.status = .running)
    (idle : state.pending = none)
    (preparing : ∀ world, knows world → Preparing uuids state kind position observation world)
    (cause : ∀ world, knows world → kind = .buy →
      EntryCause world.trace state ⟨kind, config, position, observation⟩) :
    (callDiscipline uuids setting).Safe ()
      (fun transaction world => transaction.kind = kind ∧
        Preparing uuids state kind position observation world ∧
        Asked state ⟨kind, config, position, observation⟩ transaction world)
      (fun _ => Preparing uuids state kind position observation)
      (prepareChecked state config kind position observation) knows := by
  have signed : (callDiscipline uuids setting).Safe ()
      (fun transaction world => Preparing uuids state kind position observation world ∧
        Asked state ⟨kind, config, position, observation⟩ transaction world)
      (fun _ => Preparing uuids state kind position observation)
      (ask (.prepare ⟨kind, config, position, observation⟩)) knows := by
    refine Safe.call
      (fun world _ known => ⟨state, (preparing world known).durable, running, idle, cause world known⟩)
      (fun _ => stable_any _) (fun _ => stable_any _) fun world choice _ known => ?_
    have ready := preparing world known
    obtain ⟨-, -, -, -, -, prepared, -, -, -⟩ := choice
    cases prepared with
    | error message => exact ⟨ready.durable, ready.cause⟩
    | ok transaction =>
      refine ⟨⟨ready.durable, ready.cause⟩, ?_⟩
      have durable : world.current.journal = some state := ready.durable
      unfold Asked
      rw [← durable]
      exact List.mem_cons_self
  have growing : ∀ transaction, Growing fun world =>
      Preparing uuids state kind position observation world ∧
        Asked state ⟨kind, config, position, observation⟩ transaction world :=
    fun _ _ _ _ known => ⟨⟨known.1.durable, known.1.cause⟩, List.mem_cons_of_mem _ known.2⟩
  refine signed.bind fun transaction => ?_
  refine Safe.bind ((safe_assertPrepared (growing transaction)).consequence
    (fun _ _ _ known => known) fun _ _ _ known => known.1) fun _ => ?_
  refine Safe.bind ((quiet_lift _ _ fun _ _ _ known =>
    ⟨known.1, growing transaction _ _ _ known.2⟩).consequence (fun _ _ _ known => known)
      fun _ _ _ known => known.2.1) fun _ => ?_
  exact Safe.pure fun _ _ known => known

theorem safe_prepare (loaded : Loaded setting config state)
    (idle : state.pending = none)
    (preparing : ∀ world, knows world → Preparing uuids state kind position observation world)
    (cause : ∀ world, After knows .stopped (.ok false) world → kind = .buy →
      EntryCause world.trace state ⟨kind, config, position, observation⟩) :
    Makes uuids setting (fun _ _ => True) (prepare setting state config kind position observation)
      knows := by
  unfold prepare
  refine told_makes trivial fun stopped => ?_
  split
  · exact makes_pure
  next notStopped =>
  rw [Bool.not_eq_true] at notStopped
  subst notStopped
  have ready : ∀ world, After knows .stopped (.ok false) world →
      Preparing uuids state kind position observation world := by
    rintro world ⟨before, known, rfl⟩
    exact growing_preparing _ _ _ (preparing before known)
  refine Safe.bind (Safe.attempt (safe_prepareChecked loaded.running idle ready cause))
    fun prepared => ?_
  cases prepared with
  | error message => exact safe_halt loaded fun _ known => known.durable
  | ok transaction =>
    refine Safe.of_fact fun sameKind => ?_
    refine saved_makes (fun world _ known =>
      .prepares known.1.durable loaded idle known.1.cause known.2 rfl sameKind) fun valid => ?_
    have again := loaded_saved loaded valid rfl rfl
    split
    · exact safe_broadcast again
    · refine (quiet_ask .now trivial).then (growing_durable _) fun now => ?_
      split
      · exact safe_broadcast again
      · exact safe_halt again fun _ durable => durable

/-! ### Receipts -/

theorem safe_applyEffects {recorded : JournalState}
    (growing : Growing knows) :
    Makes uuids setting (fun outcome world => AppliedAs recorded charged transaction effects outcome ∧
      knows world) (applyEffects recorded charged transaction effects) knows := by
  unfold applyEffects AppliedAs
  dsimp only
  cases transaction.kind with
  | buy | withdraw | deactivate => exact Safe.pure fun _ _ known => ⟨rfl, known⟩
  | claim =>
    dsimp only
    cases claimProfit charged effects with
    | error fault => exact Safe.pure fun _ _ known => ⟨rfl, known⟩
    | ok realized =>
      exact (quiet_ask .now trivial).then growing fun now =>
        Safe.pure fun _ _ known => ⟨⟨now, rfl⟩, known⟩

theorem safe_finalized {outcome : ReceiptOutcome} {error : String}
    (loaded : Loaded setting config state) (pending : state.pending = some transaction) :
    Makes uuids setting (fun _ _ => True)
      (finalized setting state config transaction outcome effects error)
      fun world => Durable state world.current := by
  have halts : ∀ reason, Makes uuids setting (fun _ _ => True) (halt setting state reason)
      fun world => Durable state world.current := fun reason => safe_halt loaded fun _ durable => durable
  unfold finalized
  split
  · exact halts _
  split
  · exact halts _
  next position held =>
  refine (quiet_ask .now trivial).then (growing_durable state) fun now => makes_lift fun receipt accepted => ?_
  obtain ⟨recorded, charged⟩ := receipt
  have records : ∀ {next : JournalState} {knows : TracedWorld → Prop},
      (∀ world, knows world → Durable state world.current) →
      Settled config recorded charged transaction effects next →
      ∀ world, IdsDrawn uuids world → knows world → SaveCause uuids setting world next :=
    fun durable settled world _ known =>
      .records (durable world known) loaded pending held accepted settled
  cases outcome with
  | failed =>
    exact saved_makes (records (fun _ durable => durable) (.failed _)) fun _ => makes_pure
  | finalized =>
    refine Safe.bind (safe_applyEffects (growing_durable state)) fun outcome =>
      Safe.of_fact fun isApplied => ?_
    obtain ⟨applied, thrown⟩ := outcome
    dsimp only
    split
    · exact saved_makes (records (fun _ durable => durable) (.stopped _ isApplied))
        fun _ => makes_pure
    refine makes_lift fun limit inLimits => ?_
    split
    · exact saved_makes (records (fun _ durable => durable) (.stopped _ isApplied))
        fun _ => makes_pure
    · refine saved_makes (records (fun _ durable => durable) (.within isApplied inLimits))
        fun _ => ?_
      split <;> exact makes_pure

theorem safe_pending (loaded : Loaded setting config state) :
    Makes uuids setting (fun _ _ => True) (Source.JitoEngine.pending setting state config)
      fun world => Durable state world.current := by
  unfold Source.JitoEngine.pending
  split
  · next transaction isPending =>
      refine (quiet_ask (.poll transaction) trivial).attempt.then (growing_durable state) fun polled => ?_
      split
      · exact makes_pure
      · exact safe_broadcast loaded
      · exact safe_halt loaded fun _ durable => durable
      · exact safe_halt loaded fun _ durable => durable
      · exact safe_finalized loaded isPending
      · exact safe_finalized loaded isPending
  · exact makes_throw

/-! ### Entry and advance -/

/-- The tick has made these calls since it loaded the journal. A journal without a confirmation may
have been opened by the tick itself. -/
def SinceLoad (state : JournalState) (calls : List Happening) (world : TracedWorld) : Prop :=
  Durable state world.current ∧ ∃ older, world.trace = calls ++ older ∧
    (state.confirmation = none ∨ ∃ before, older = ⟨.load, .ok (some state), some state⟩ :: before)

/-- One more call that changes nothing. -/
theorem SinceLoad.after {answer : Except String request.Answer}
    (told : After (SinceLoad state calls) request answer world) :
    SinceLoad state (⟨request, answer, some state⟩ :: calls) world := by
  obtain ⟨before, ⟨durable, older, trace, opened⟩, rfl⟩ := told
  have journal : before.current.journal = some state := durable
  exact ⟨durable, older, by simp only [journal, trace, List.cons_append], opened⟩

theorem sinceLoad_makes {β : Type} {returns : β → TracedWorld → Prop}
    {rest : request.Answer → Engine β} (reads : Reads request)
    (continues : ∀ answer, Makes uuids setting returns (rest answer)
      (SinceLoad state (⟨request, .ok answer, some state⟩ :: calls))) :
    Makes uuids setting returns (ask request >>= rest) (SinceLoad state calls) :=
  told_makes reads fun answer => (continues answer).weaken fun _ _ told => SinceLoad.after told

/-- A newly drawn id is not in the journal. -/
theorem safe_randomUUID (now : Int) (observed : Observation) :
    Makes uuids setting (fun id world =>
        Preparing uuids state .buy (entryPosition id now) (some observed) world ∧
          SinceLoad state (⟨.randomUUID, .ok id, some state⟩ :: calls) world)
      (ask .randomUUID) fun world => state.position = none ∧ SinceLoad state calls world := by
  refine Safe.call (fun _ _ _ => trivial) (fun _ => stable_any _) (fun _ => stable_any _)
    fun world _ drawn known => ?_
  obtain ⟨empty, durable, older, trace, opened⟩ := known
  have journal : world.current.journal = some state := durable
  refine ⟨⟨durable, .opened empty ⟨world.current.drawn, Nat.lt_succ_self _, rfl⟩ fun used => ?_⟩,
    durable, older, ?_, opened⟩
  · obtain ⟨n, below, same⟩ := drawn state durable _ used
    exact absurd (uuids.distinct same) (Nat.ne_of_gt below)
  · change (⟨.randomUUID, .ok (uuids.draw world.current.drawn), world.current.journal⟩ : Happening) ::
      world.trace = _
    rw [journal, trace]
    rfl

theorem safe_entry (loaded : Loaded setting config state) (idle : state.pending = none)
    (empty : state.position = none) :
    Makes uuids setting (fun _ _ => True) (entry setting state config)
      (SinceLoad state [⟨.stopped, .ok false, some state⟩]) := by
  unfold entry
  refine Safe.bind (Safe.attempt (safe_told (.observe config) trivial))
    fun observed => ?_
  cases observed with
  | error message =>
    refine saved_makes (fun world _ told => ?_) fun _ => makes_pure
    obtain ⟨durable, older, trace, -⟩ := SinceLoad.after told
    exact .unavailable durable loaded trace
  | ok observation =>
    refine Safe.weaken ?_ fun _ _ told => SinceLoad.after told
    refine sinceLoad_makes trivial fun now => ?_
    dsimp only
    split
    · next refused =>
        refine saved_makes (fun world _ known => ?_) fun _ => makes_pure
        obtain ⟨durable, older, trace, -⟩ := known
        exact .ineligible durable loaded trace refused
    next eligible =>
    rw [Bool.not_eq_false] at eligible
    split
    · refine saved_makes (fun world _ known => ?_) fun _ => makes_pure
      obtain ⟨durable, older, trace, -⟩ := known
      exact .confirms durable loaded idle trace eligible
    next first confirmed =>
    split
    · exact makes_pure
    next late =>
    split
    · exact makes_pure
    next newer =>
    rw [Option.filter_eq_some_iff, decide_eq_true_eq] at confirmed
    obtain ⟨isFirst, inGap, -⟩ := confirmed
    obtain ⟨otherQuote, newerSlot⟩ := not_or.mp newer
    refine Safe.bind ((safe_randomUUID now observation).weaken
      fun _ _ known => ⟨empty, known⟩) fun id => ?_
    refine safe_prepare loaded idle (fun _ known => known.1) fun world told _ => ?_
    obtain ⟨before, ⟨preparing, since⟩, rfl⟩ := told
    obtain ⟨-, older, trace, opened⟩ := SinceLoad.after (⟨before, since, rfl⟩ :
      After _ .stopped (.ok false) _)
    rcases opened with unconfirmed | ⟨earlier, rfl⟩
    · cases isFirst.symm.trans unconfirmed
    · exact ⟨observation, first, now, id, earlier, rfl, isFirst, trace, eligible, inGap,
        Int.not_lt.mp late, otherQuote, Int.not_le.mp newerSlot⟩

theorem safe_prepareHeld (loaded : Loaded setting config state) (idle : state.pending = none)
    (held : state.position = some position) (notBuy : kind ≠ .buy)
    (next : kindOrder kind = stageOrder position.stage) :
    Makes uuids setting (fun _ _ => True) (prepare setting state config kind position none)
      fun world => Durable state world.current :=
  safe_prepare loaded idle (fun _ durable => ⟨durable, .held held notBuy next⟩)
    fun _ _ isBuy => absurd isBuy notBuy

theorem safe_claimWhenInactive (loaded : Loaded setting config state) (idle : state.pending = none)
    (held : state.position = some position) (stage : position.stage = .deactivated) :
    Makes uuids setting (fun _ _ => True) (claimWhenInactive setting state config position)
      fun world => Durable state world.current := by
  unfold claimWhenInactive
  refine (quiet_ask (.canClaim position) trivial).attempt.then (growing_durable state) fun ready => ?_
  split
  · exact makes_pure
  refine (quiet_ask .now trivial).then (growing_durable state) fun now => ?_
  split
  · exact makes_pure
  split
  · exact makes_pure
  refine makes_lift fun claimable _ => makes_lift fun stakeRent _ => ?_
  split
  · exact safe_halt loaded fun _ durable => durable
  · exact safe_prepareHeld loaded idle held nofun (by rw [stage]; rfl)

theorem safe_advance (loaded : Loaded setting config state) (idle : state.pending = none) :
    Makes uuids setting (fun _ _ => True) (advance setting state config) (SinceLoad state []) := by
  unfold advance
  split
  · exact makes_pure
  refine makes_lift fun loss _ => ?_
  split
  · exact safe_halt loaded fun _ known => known.1
  refine sinceLoad_makes trivial fun stopped => ?_
  split
  · exact makes_pure
  next notStopped =>
  rw [Bool.not_eq_true] at notStopped
  subst notStopped
  split
  · next position held =>
      refine Safe.weaken ?_ fun _ _ known => known.1
      unfold advancePosition
      split
      · next stage => exact safe_prepareHeld loaded idle held nofun (by rw [stage]; rfl)
      · next stage => exact safe_prepareHeld loaded idle held nofun (by rw [stage]; rfl)
      · next stage => exact safe_claimWhenInactive loaded idle held stage
      · exact safe_halt loaded fun _ durable => durable
      · exact safe_halt loaded fun _ durable => durable
  · next empty =>
      refine makes_lift fun totalFees _ => ?_
      split
      · exact safe_halt loaded fun _ known => known.1
      · exact safe_entry loaded idle empty

/-! ### Tick -/

theorem safe_loadJournal :
    Makes uuids setting (fun state world =>
        (validateJournalState setting.codecs state = .ok () ∧
          state.configFingerprint = setting.configFingerprint config) ∧ SinceLoad state [] world)
      (loadJournal setting config) fun _ => True := by
  have loaded : Makes uuids setting (fun journal world => world.current.journal = journal ∧
      ∃ older, world.trace = ⟨.load, .ok journal, journal⟩ :: older) (ask .load) fun _ => True := by
    refine Safe.call (fun _ _ _ => trivial) (fun _ => stable_any _) (fun _ => stable_any _)
      fun world choice _ _ => ?_
    obtain ⟨failure, -⟩ := choice
    cases failure with
    | none => exact ⟨rfl, world.trace, rfl⟩
    | some message => trivial
  refine loaded.bind fun journal => ?_
  cases journal with
  | some state =>
    refine makes_lift fun _ valid => makes_lift fun _ fingerprint => makes_lift fun _ _ =>
      Safe.pure fun _ _ known => ⟨⟨valid, require_eq_ok.mp fingerprint⟩, known.1, ?_⟩
    obtain ⟨-, older, trace⟩ := known
    exact ⟨_, trace, .inr ⟨older, rfl⟩⟩
  | none =>
    refine (safe_save fun _ _ known => .opens config known.1).consequence
      (fun _ _ _ stored => ?_) fun _ _ _ _ => trivial
    obtain ⟨⟨rfl, valid⟩, durable⟩ := stored
    exact ⟨⟨valid, rfl⟩, durable, _, rfl, .inl rfl⟩

theorem safe_runTick : Makes uuids setting (fun _ _ => True) (runTick setting config) fun _ => True := by
  refine Safe.bind safe_loadJournal fun state => Safe.of_fact fun accepted => ?_
  split
  · exact makes_pure
  · next running _ =>
      exact (safe_pending ⟨accepted.1, accepted.2, running⟩).weaken fun _ _ known => known.1
  · next running idle => exact safe_advance ⟨accepted.1, accepted.2, running⟩ idle

theorem safe_tick (config : JitoBotConfig) :
    Makes uuids setting (fun _ _ => True) (tick setting config) fun _ => True := by
  unfold tick
  split
  · exact safe_runTick
  · exact makes_pure

end Tick

/-! ## Every run -/

section Run

variable {events : List (Event (tracedEnvironment uuids) JitoBotConfig)}

theorem tick_safeBody (uuids : UuidStream) (setting : JitoSetting) :
    (callDiscipline uuids setting).SafeBody fun _ => tick setting :=
  fun _ => safe_tick

theorem tracedRun_sound (events : List (Event (tracedEnvironment uuids) JitoBotConfig)) :
    (callDiscipline uuids setting).Sound (tracedRun uuids setting events) := by
  refine sound_run (tick_safeBody uuids setting) (sound_start ?_) events
  exact fun state stored => nomatch stored

/-- Every call a tick is about to make has its cause. -/
theorem tracedRun_cause {resume : Except String request.Answer → Engine TickResult}
    (waiting : (tracedRun uuids setting events).programs () = some (.await request resume)) :
    CallCause uuids setting request (tracedRun uuids setting events).world :=
  (tracedRun_sound events).permits waiting

/-- What every call that has its cause keeps holds in every later run. -/
theorem tracedRun_keeps {invariant : TracedWorld → Prop}
    (kept : ∀ choice request world, CallCause uuids setting request world → invariant world →
      invariant (performTraced uuids choice request world).2)
    (events later : List (Event (tracedEnvironment uuids) JitoBotConfig))
    (holds : invariant (tracedRun uuids setting events).world) :
    invariant (tracedRun uuids setting (events ++ later)).world := by
  have append : tracedRun uuids setting (events ++ later) =
      run (fun _ => tick setting) (tracedRun uuids setting events) later := List.foldl_append ..
  rw [append]
  refine persistent_run (tick_safeBody uuids setting) (tracedRun_sound events) ?_ holds later
  intro actor before after _ effect known
  cases actor with
  | none => exact effect.1 rfl ▸ known
  | some process =>
    obtain ⟨choice, request, cause, rfl⟩ := effect.2 nofun
    exact kept choice request before cause known

/-- What holds of no journal and is kept by every call that has its cause holds in every run. -/
theorem tracedRun_invariant {invariant : TracedWorld → Prop} (initial : invariant ⟨⟨none, [], 0⟩, []⟩)
    (kept : ∀ choice request world, CallCause uuids setting request world → invariant world →
      invariant (performTraced uuids choice request world).2)
    (events : List (Event (tracedEnvironment uuids) JitoBotConfig)) :
    invariant (tracedRun uuids setting events).world :=
  tracedRun_keeps kept [] events initial

end Run

end SolTokenListener.Guarantees.JitoSteps
