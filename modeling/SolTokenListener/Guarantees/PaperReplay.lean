import SolTokenListener.Guarantees.PaperLedger

/-!
# Replays of paper commands

A command that once succeeded is submitted again, after any other commands. The replay is
compared with the row the first run left: the row keeps the fields the replay is checked
against, so the replay finds it, inserts nothing and changes no fill. Whether it is refused is
decided by the gates the code evaluates again, and by the confirmation status the stored event
has reached since.
-/

namespace SolTokenListener.Guarantees.PaperReplay

open Lib.Checked Lib.KeyedRows Lib.Transaction
open Source.Chain Source.PaperTrading
open Source.PaperLedger Source.PaperCommand
open Source.PaperTradingEngine
open Guarantees.PaperLedger

variable {ledger after before : Ledger} {snapshot command : OpenPaperPositionCommand}
variable {row stored returned : PaperPosition} {hashes : OpenCommandHashes}

/-! ## Rows along a run -/

variable {engine : Engine} {env : Environment} {trades : List PaperTrade} {next : PaperPosition}

section Runs

theorem events_after (write : LedgerWrite engine before after returned) :
    before.events.map (·.id) ⊆ after.events.map (·.id) := by
  cases write with
  | replayed member outcome =>
    cases outcome with
    | observed same => exact same.events
    | retracted terminalAtMs live positions trades events => exact events
  | opened prepared hashed fresh unbought positions trades events => exact events
  | closed prepared current member held unsold positions trades events => exact events

/-- A property of a row that no command can break is still true of its later version, and an
event once stored stays stored. -/
theorem row_persists (stable : PaperPosition → Prop)
    (keeps : ∀ {trades row next}, RowStep engine trades row next → stable row → stable next)
    (commands : List (Environment × PaperCommand)) :
    ∀ {ledger : Ledger}, LedgerInvariant ledger → ∀ row ∈ ledger.positions, stable row →
      (∃ next ∈ (runCommands engine ledger commands).positions, next.id = row.id ∧ stable next) ∧
        ledger.events.map (·.id) ⊆ (runCommands engine ledger commands).events.map (·.id) := by
  induction commands with
  | nil =>
    intro ledger _ row member holds
    exact ⟨⟨row, member, rfl, holds⟩, List.Subset.refl _⟩
  | cons entry rest ih =>
    intro ledger invariant row member holds
    have stepped : (∃ next ∈ (execute engine entry.1 ledger entry.2).2.positions,
        next.id = row.id ∧ stable next) ∧ ledger.events.map (·.id) ⊆
          (execute engine entry.1 ledger entry.2).2.events.map (·.id) := by
      rcases execute_cases entry.2 with ⟨error, run⟩ | ⟨returned, after, run⟩ <;> rw [run]
      · exact ⟨⟨row, member, rfl, holds⟩, List.Subset.refl _⟩
      · have write := execute_writes run
        obtain ⟨next, nextMember, step⟩ := rowStep_after invariant.identities write member
        exact ⟨⟨next, nextMember, step.id_eq, keeps step holds⟩, events_after write⟩
    obtain ⟨⟨next, nextMember, sameId, nextHolds⟩, kept⟩ := stepped
    obtain ⟨⟨last, lastMember, lastId, lastHolds⟩, keptRest⟩ :=
      ih (ledgerInvariant_execute invariant entry.2) next nextMember nextHolds
    exact ⟨⟨last, lastMember, lastId.trans sameId, lastHolds⟩, List.Subset.trans kept keptRest⟩

/-- Rows are hashed in the current shape of the qualification, never in the legacy one. -/
def HashedRow (engine : Engine) (row : PaperPosition) : Prop :=
  ∃ content report, content.qualification = .report report ∧
    row.openCommandHash = hashId engine.digest (.paperOpenCommand content)

theorem hashOpenCommand_ok {digest : HashInput → String}
    (hashed : hashOpenCommand digest snapshot = .ok hashes) :
    hashes.current = hashId digest (.paperOpenCommand (openCommandContent snapshot)) ∧
      hashes.legacy = hashId digest (.paperOpenCommand (legacyOpenCommandContent snapshot)) := by
  simp only [hashOpenCommand, hashValue, bind_eq_ok, pure_eq_ok] at hashed
  obtain ⟨_, ⟨_, _, rfl⟩, _, ⟨_, _, rfl⟩, rfl⟩ := hashed
  exact ⟨rfl, rfl⟩

theorem rowStep_openCommandHash (step : RowStep engine trades row next) :
    next.openCommandHash = row.openCommandHash := by
  cases step <;> rfl

theorem hashedRow_execute (command : PaperCommand)
    (hashed : ∀ row ∈ ledger.positions, HashedRow engine row) :
    ∀ row ∈ (execute engine env ledger command).2.positions, HashedRow engine row := by
  intro row member
  rcases execute_cases command with ⟨error, run⟩ | ⟨returned, after, run⟩ <;> rw [run] at member
  · exact hashed row member
  · rcases row_origin (execute_writes run) member with
      ⟨old, oldMember, step⟩ | ⟨-, prepared, rfl, -, hashes, -⟩
    · obtain ⟨content, report, shape, same⟩ := hashed old oldMember
      exact ⟨content, report, shape, (rowStep_openCommandHash step).trans same⟩
    · exact ⟨_, _, rfl, (hashOpenCommand_ok hashes).1⟩

theorem hashedRow_run (commands : List (Environment × PaperCommand)) :
    ∀ {ledger : Ledger}, (∀ row ∈ ledger.positions, HashedRow engine row) →
      ∀ row ∈ (runCommands engine ledger commands).positions, HashedRow engine row := by
  induction commands with
  | nil => exact fun hashed => hashed
  | cons entry rest ih =>
    intro ledger hashed
    exact ih (hashedRow_execute entry.2 hashed)

end Runs

/-! ## What a replay may change -/

/-- The fill and result fields of a position. -/
structure SameFills (row next : PaperPosition) : Prop where
  id : next.id = row.id
  baseFilledRaw : next.baseFilledRaw = row.baseFilledRaw
  remainingBaseRaw : next.remainingBaseRaw = row.remainingBaseRaw
  quoteCostRaw : next.quoteCostRaw = row.quoteCostRaw
  quoteProceedsRaw : next.quoteProceedsRaw = row.quoteProceedsRaw
  grossPnlQuoteRaw : next.grossPnlQuoteRaw = row.grossPnlQuoteRaw
  netPnlQuoteRaw : next.netPnlQuoteRaw = row.netPnlQuoteRaw
  roundTripLossBps : next.roundTripLossBps = row.roundTripLossBps
  entryTradeId : next.entryTradeId = row.entryTradeId
  exitTradeId : next.exitTradeId = row.exitTradeId

/-- No position and no trade is added, and the rows keep their fills. -/
def NothingAdded (before after : Ledger) : Prop :=
  List.Forall₂ SameFills before.positions after.positions ∧ after.trades = before.trades

theorem SameFills.refl (row : PaperPosition) : SameFills row row :=
  ⟨rfl, rfl, rfl, rfl, rfl, rfl, rfl, rfl, rfl, rfl⟩

theorem NothingAdded.refl (ledger : Ledger) : NothingAdded ledger ledger :=
  ⟨List.forall₂_same.mpr fun row _ => SameFills.refl row, rfl⟩

theorem ReplayOutcome.nothingAdded (distinct : (before.positions.map (·.id)).Nodup)
    (member : row ∈ before.positions) (outcome : ReplayOutcome engine row before after returned) :
    NothingAdded before after := by
  cases outcome with
  | observed same =>
    refine ⟨?_, same.trades⟩
    rw [same.positions]
    exact (NothingAdded.refl before).1
  | retracted terminalAtMs live positions trades events =>
    refine ⟨?_, trades⟩
    rw [positions, replaceWhere, modifyWhere, List.forall₂_map_right_iff, List.forall₂_same]
    intro old oldMember
    by_cases chosen : old.id = row.id
    · have same : old = row := List.inj_on_of_nodup_map distinct oldMember member chosen
      subst same
      simp only [decide_true, ↓reduceIte]
      exact ⟨rfl, rfl, rfl, rfl, rfl, rfl, rfl, rfl, rfl, rfl⟩
    · simp only [chosen, decide_false, Bool.false_eq_true, ↓reduceIte]
      exact SameFills.refl old

/-- A replay returns the stored position, or that position retracted. -/
def ReturnsStored (engine : Engine) (trigger : DomainEvent) (stored returned : PaperPosition) : Prop :=
  returned = stored ∨ (trigger.confirmationStatus = .orphaned ∧
    ∃ terminalAtMs, returned = retractedPosition engine terminalAtMs stored)

variable {trigger : DomainEvent}

theorem ReplayOutcome.returnsStored (outcome : ReplayOutcome engine row before after returned)
    (observed : trigger.confirmationStatus ≠ .orphaned → returned = row) :
    ReturnsStored engine trigger row returned := by
  by_cases orphaned : trigger.confirmationStatus = .orphaned
  · cases outcome with
    | observed same => exact .inl rfl
    | retracted terminalAtMs live positions trades events =>
      exact .inr ⟨orphaned, terminalAtMs, rfl⟩
  · exact .inl (observed orphaned)

/-! ## Gates -/

/-- The stored event can take on the trigger's confirmation status, and the statement that
records it is accepted. -/
structure Confirmable (ledger : Ledger) (eventId : String) (trigger : DomainEvent)
    (observedAtMs : Int) : Prop where
  reconcilable : ∀ event ∈ ledger.events, event.id = eventId →
    ∃ next, reconcileConfirmationStatus event.confirmationStatus trigger.confirmationStatus = .ok next
  dates : trigger.blockchainTimeMs.all fitsDate = true ∧ fitsDate observedAtMs = true

/-- The statement that retracts the stored row is accepted. -/
structure Retractable (engine : Engine) (terminalAtMs : Int) (ledger : Ledger)
    (stored : PaperPosition) : Prop where
  dated : assertValidTimestampMs .occurredAtMs terminalAtMs = .ok ()
  valid : positionRowValid (retractedPosition engine terminalAtMs stored) = true
  free : ∀ row ∈ ledger.positions, row.id ≠ stored.id →
    positionsCollide row (retractedPosition engine terminalAtMs stored) = false

variable {terminalAtMs : Int}

theorem Retractable.of_positions (retractable : Retractable engine terminalAtMs ledger stored)
    (same : after.positions = ledger.positions) : Retractable engine terminalAtMs after stored :=
  ⟨retractable.dated, retractable.valid, fun row member => retractable.free row (same ▸ member)⟩

/-- An orphaned trigger retracts a position that is not retracted yet. -/
def Retracts (trigger : DomainEvent) (stored : PaperPosition) : Prop :=
  trigger.confirmationStatus = .orphaned ∧ stored.status ≠ .PAPER_RETRACTED

instance (trigger : DomainEvent) (stored : PaperPosition) : Decidable (Retracts trigger stored) :=
  inferInstanceAs (Decidable (_ ∧ _))

/-- What a replay past its gates answers. -/
def replayed (engine : Engine) (terminalAtMs : Int) (trigger : DomainEvent) (stored : PaperPosition) :
    PaperPosition :=
  if Retracts trigger stored then retractedPosition engine terminalAtMs stored else stored

/-- Everything `open` evaluates before it looks at the stored row's hash. -/
structure OpenGates (engine : Engine) (env : Environment) (command : OpenPaperPositionCommand)
    (stored : PaperPosition) : Prop where
  checks : ∃ prepared, openChecks engine env command = .ok prepared ∧
    ∀ identity ∈ prepared.snapshot.expectedCurrentQualification, env.isCurrent identity = true
  database : env.queriesLeft = none
  readable : decodePosition stored = .ok stored

/-- Everything `close` evaluates before it looks at the stored row's hash. -/
structure CloseGates (engine : Engine) (env : Environment) (command : ClosePaperPositionCommand)
    (stored : PaperPosition) : Prop where
  checks : ∃ prepared, closeChecks engine env command = .ok prepared
  database : env.queriesLeft = none
  readable : decodePosition stored = .ok stored

def openedEventId (engine : Engine) (stored : PaperPosition) (trigger : DomainEvent) : String :=
  paperEventId engine.digest .PaperPositionOpened stored.id stored.entryTradeId trigger.id

/-- The open command's digest is shared by no other content. -/
def SeparatesOpen (digest : HashInput → String) (content : OpenCommandContent) : Prop :=
  ∀ other, digest (.paperOpenCommand other) = digest (.paperOpenCommand content) → other = content

/-- The close command's digest is shared by no other content. -/
def SeparatesClose (digest : HashInput → String) (content : CloseCommandContent) : Prop :=
  ∀ other, digest (.paperCloseCommand other) = digest (.paperCloseCommand content) → other = content

section Forward

variable {store : Store} {error : PaperError}

theorem exec_require {condition : Prop} [Decidable condition] (holds : condition) :
    exec (check (require condition error) : PaperTx Unit) store = (.ok (), store) := by
  rw [exec_check, require_eq_ok.mpr holds]

theorem exec_require_not {condition : Prop} [Decidable condition] (fails : ¬ condition) :
    exec (check (require condition error) : PaperTx Unit) store = (.error error, store) := by
  rw [exec_check, require_eq_error.mpr ⟨fails, rfl⟩]

theorem query_none (database : store.queriesLeft = none) : exec query store = (.ok (), store) := by
  unfold query
  rw [exec_bind_of_ok (exec_get store), database]
  rfl

theorem writeLedger_returns (write : Ledger → Ledger) (database : store.queriesLeft = none) :
    ∃ after, after.queriesLeft = none ∧ after.ledger = write store.ledger ∧
      exec (writeLedger write) store = (.ok (), after) :=
  ⟨⟨write store.ledger, store.queriesLeft⟩, database, rfl, rfl⟩

theorem findPosition_stored (database : store.queriesLeft = none)
    (distinct : (store.ledger.positions.map (·.id)).Nodup) (member : row ∈ store.ledger.positions)
    (readable : decodePosition row = .ok row) :
    exec (findPosition row.id) store = (.ok (some row), store) := by
  unfold findPosition
  rw [exec_bind_of_ok (query_none database), exec_bind_of_ok (exec_get store),
    find_key_eq_some (·.id) distinct member]
  unfold decodeRow
  have decoded : exec (check (decodePosition row) : PaperTx PaperPosition) store = (.ok row, store) := by
    rw [exec_check, readable]
  rw [exec_bind_of_ok decoded]
  rfl

theorem reconcileEventConfirmation_returns {eventId : String} {observedAtMs : Int}
    (database : store.queriesLeft = none) (recorded : eventId ∈ store.ledger.events.map (·.id))
    (confirmable : Confirmable store.ledger eventId trigger observedAtMs) :
    ∃ after, after.queriesLeft = none ∧ after.ledger.positions = store.ledger.positions ∧
      exec (reconcileEventConfirmation eventId trigger.confirmationStatus trigger.blockchainTimeMs
        observedAtMs) store = (.ok (), after) := by
  obtain ⟨event, member, sameId⟩ := List.mem_map.mp recorded
  have present : (store.ledger.events.find? (·.id = eventId)).isSome := by
    rw [List.find?_isSome]
    exact ⟨event, member, by simpa using sameId⟩
  obtain ⟨found, lookup⟩ := Option.isSome_iff_exists.mp present
  have foundId : found.id = eventId := by simpa using List.find?_some lookup
  obtain ⟨next, reconciled⟩ :=
    confirmable.reconcilable found (List.mem_of_find?_eq_some lookup) foundId
  unfold reconcileEventConfirmation
  rw [exec_bind_of_ok (query_none database), exec_bind_of_ok (exec_get store)]
  simp only [lookup]
  have accepted : exec (check (domainChecked (reconcileConfirmationStatus found.confirmationStatus
      trigger.confirmationStatus)) : PaperTx _) store = (.ok next, store) := by
    rw [exec_check, reconciled]
    rfl
  rw [exec_bind_of_ok accepted, exec_bind_of_ok (query_none database),
    exec_bind_of_ok (exec_require confirmable.dates)]
  obtain ⟨after, afterDatabase, isLedger, written⟩ := writeLedger_returns _ database
  exact ⟨after, afterDatabase, by rw [isLedger], written⟩

theorem retractPosition_returns {position : PaperPosition} (database : store.queriesLeft = none)
    (valid : positionRowValid position = true)
    (free : ∀ row ∈ store.ledger.positions, row.id ≠ position.id → positionsCollide row position = false) :
    ∃ after, after.queriesLeft = none ∧ exec (retractPosition position) store = (.ok (), after) := by
  have accepted : positionRowValid position = true ∧
      (store.ledger.positions.filter fun row => decide (row.id = position.id) = false).any
        (positionsCollide · position) = false := by
    refine ⟨valid, List.any_eq_false.mpr fun row member => ?_⟩
    simp only [List.mem_filter, decide_eq_true_eq, decide_eq_false_iff_not] at member
    rw [free row member.1 member.2]
    exact Bool.false_ne_true
  have updated : ∃ middle, middle.queriesLeft = none ∧
      exec (updatePositions (fun row => row.id = position.id) position) store = (.ok (), middle) := by
    unfold updatePositions
    rw [exec_bind_of_ok (query_none database), exec_bind_of_ok (exec_get store), exec_bind, exec_check,
      (require_eq_ok.mpr fun _ => accepted : require _ _ = .ok ())]
    obtain ⟨middle, middleDatabase, -, written⟩ := writeLedger_returns _ database
    exact ⟨middle, middleDatabase, written⟩
  obtain ⟨middle, middleDatabase, updated⟩ := updated
  unfold retractPosition markPositionEventsTerminal
  rw [exec_bind_of_ok updated, exec_bind_of_ok (query_none middleDatabase)]
  obtain ⟨after, afterDatabase, -, written⟩ := writeLedger_returns _ middleDatabase
  exact ⟨after, afterDatabase, written⟩

theorem retractIfOrphaned_returns (database : store.queriesLeft = none)
    (retractable : Retracts trigger row → Retractable engine terminalAtMs store.ledger row) :
    ∃ after, after.queriesLeft = none ∧ exec (if trigger.confirmationStatus = .orphaned then
      retractCurrent engine terminalAtMs row else return row) store =
        (.ok (replayed engine terminalAtMs trigger row), after) := by
  unfold replayed retractCurrent
  by_cases retracts : Retracts trigger row
  · obtain ⟨dated, valid, free⟩ := retractable retracts
    obtain ⟨after, afterDatabase, retracted⟩ :=
      @retractPosition_returns store (retractedPosition engine terminalAtMs row) database valid free
    refine ⟨after, afterDatabase, ?_⟩
    have checked : exec (check (domainChecked (assertValidTimestampMs .occurredAtMs terminalAtMs)) :
        PaperTx Unit) store = (.ok (), store) := by
      rw [exec_check, dated]
      rfl
    rw [if_pos retracts.1, if_neg retracts.2, if_pos retracts, exec_bind_of_ok checked,
      exec_bind_of_ok retracted]
    rfl
  · refine ⟨store, database, ?_⟩
    rw [if_neg retracts]
    split
    · next orphaned =>
        rw [if_pos (not_not.mp fun live => retracts ⟨orphaned, live⟩)]
        rfl
    · rfl

/-- Past its checks, a replay takes on the trigger's status and retracts an orphaned position. -/
theorem reconcileAndRetract_returns {observedAtMs : Int} {eventId : String}
    (database : store.queriesLeft = none) (recorded : eventId ∈ store.ledger.events.map (·.id))
    (confirmable : Confirmable store.ledger eventId trigger observedAtMs)
    (retractable : Retracts trigger row → Retractable engine terminalAtMs store.ledger row) :
    ∃ after, after.queriesLeft = none ∧ exec (do
      reconcileEventConfirmation eventId trigger.confirmationStatus trigger.blockchainTimeMs
        observedAtMs
      if trigger.confirmationStatus = .orphaned then retractCurrent engine terminalAtMs row
      else return row) store = (.ok (replayed engine terminalAtMs trigger row), after) := by
  obtain ⟨middle, middleDatabase, samePositions, confirmed⟩ :=
    reconcileEventConfirmation_returns database recorded confirmable
  obtain ⟨after, afterDatabase, finished⟩ := @retractIfOrphaned_returns row engine trigger
    terminalAtMs middle middleDatabase fun retracts => (retractable retracts).of_positions samePositions
  rw [exec_bind_of_ok confirmed]
  exact ⟨after, afterDatabase, finished⟩

/-- With a working database, a body that returns makes the command return. -/
theorem runCommand_returns {α : Type} {checks : Checked α} {body : α → PaperTx PaperPosition}
    {prepared : α} {final : Store} (accepted : checks = .ok prepared)
    (run : exec (body prepared) ⟨ledger, env.queriesLeft⟩ = (.ok returned, final))
    (database : final.queriesLeft = none) :
    (runCommand env checks body ledger).1 = .ok returned := by
  have committed : transact (do let value ← body prepared; query; return value)
      ⟨ledger, env.queriesLeft⟩ = (.ok returned, final) := by
    rw [transact_ok, exec_bind_of_ok run, exec_bind_of_ok (query_none database)]
    rfl
  simp only [runCommand, accepted, transactPaper, committed]

theorem runCommand_throws {α : Type} {checks : Checked α} {body : α → PaperTx PaperPosition}
    {prepared : α} {final : Store} (accepted : checks = .ok prepared)
    (run : exec (body prepared) ⟨ledger, env.queriesLeft⟩ = (.error error, final)) :
    (runCommand env checks body ledger).1 = .error error := by
  have rolledBack : transact (do let value ← body prepared; query; return value)
      ⟨ledger, env.queriesLeft⟩ = (.error error, ⟨ledger, env.queriesLeft⟩) := by
    unfold transact
    rw [exec_bind_of_error run]
  simp only [runCommand, accepted, transactPaper, rolledBack]

theorem requireExpectedQualification_returns {expected : Option PaperCurrentQualificationIdentity}
    (database : store.queriesLeft = none)
    (current : ∀ identity ∈ expected, env.isCurrent identity = true) :
    exec (requireExpectedQualification env expected) store = (.ok (), store) := by
  cases expected with
  | none => rfl
  | some identity =>
    have passes := current identity rfl
    unfold requireExpectedQualification requireCurrentQualification
    rw [exec_bind_of_ok (query_none database), exec_require passes]

/-- Past its gates, an open command whose id is stored is decided by the stored row alone. -/
theorem openTransaction_stored {prepared : PreparedOpen} (database : store.queriesLeft = none)
    (distinct : (store.ledger.positions.map (·.id)).Nodup) (member : row ∈ store.ledger.positions)
    (identity : row.id = prepared.positionId) (readable : decodePosition row = .ok row)
    (current : ∀ expected ∈ prepared.snapshot.expectedCurrentQualification,
      env.isCurrent expected = true) :
    exec (openTransaction engine env prepared) store =
      exec (replayPrepared engine (env.clock 1) prepared row) store := by
  unfold openTransaction
  rw [exec_bind_of_ok (requireExpectedQualification_returns database current), ← identity,
    exec_bind_of_ok (findPosition_stored database distinct member readable)]

theorem replayPrepared_returns {prepared : PreparedOpen} (database : store.queriesLeft = none)
    (accepts : AcceptsOpen row prepared.openCommandHashes prepared.snapshot.entryDecisionAtMs
      prepared.snapshot.entryDecisionJobId)
    (recorded : openedEventId engine row prepared.snapshot.trigger ∈ store.ledger.events.map (·.id))
    (confirmable : Confirmable store.ledger (openedEventId engine row prepared.snapshot.trigger)
      prepared.snapshot.trigger prepared.snapshot.trigger.observedAtMs)
    (retractable : Retracts prepared.snapshot.trigger row →
      Retractable engine terminalAtMs store.ledger row) :
    ∃ after, after.queriesLeft = none ∧ exec (replayPrepared engine terminalAtMs prepared row) store =
      (.ok (replayed engine terminalAtMs prepared.snapshot.trigger row), after) := by
  obtain ⟨after, afterDatabase, finished⟩ :=
    reconcileAndRetract_returns database recorded confirmable retractable
  refine ⟨after, afterDatabase, ?_⟩
  unfold replayPrepared reconcileOpenReplay
  rw [exec_bind_of_ok (exec_require accepts.1), exec_bind_of_ok (exec_require accepts.2)]
  exact finished

theorem replayPrepared_conflicts {prepared : PreparedOpen}
    (differs : matchesOpenCommandHash row prepared.openCommandHashes = false) :
    exec (replayPrepared engine terminalAtMs prepared row) store = (.error conflict, store) := by
  unfold replayPrepared reconcileOpenReplay
  rw [exec_bind_of_error (exec_require_not (by simp [differs]))]

end Forward

/-! ## Replays of an open command -/

/-- Somewhere in the history the open command succeeded. -/
def OpenedIn (engine : Engine) (history : List (Environment × PaperCommand))
    (command : OpenPaperPositionCommand) : Prop :=
  ∃ before env later first, history = before ++ (env, .open command) :: later ∧
    (execute engine env (runCommands engine .empty before) (.open command)).1 = .ok first

/-- What the success of an open command leaves in the ledger, for as long as it runs. -/
structure StoredOpen (engine : Engine) (ledger : Ledger) (snapshot : OpenPaperPositionCommand)
    (stored : PaperPosition) : Prop where
  member : stored ∈ ledger.positions
  identity : stored.id = openPositionId engine snapshot
  accepts : ∃ hashes, hashOpenCommand engine.digest snapshot = .ok hashes ∧
    AcceptsOpen stored hashes snapshot.entryDecisionAtMs snapshot.entryDecisionJobId
  recorded : openedEventId engine stored snapshot.trigger ∈ ledger.events.map (·.id)

/-- How the ledger answers an open command it has already accepted. -/
structure ReplaysOpen (engine : Engine) (ledger : Ledger) (command snapshot : OpenPaperPositionCommand)
    (stored : PaperPosition) : Prop where
  member : stored ∈ ledger.positions
  identity : stored.id = openPositionId engine snapshot
  /-- Accepted or refused, the same command adds no row and changes no fill. -/
  resubmitted : ∀ env, NothingAdded ledger (execute engine env ledger (.open command)).2
  returned : ∀ env position, (execute engine env ledger (.open command)).1 = .ok position →
    ReturnsStored engine snapshot.trigger stored position
  refused : ∀ env error, (execute engine env ledger (.open command)).1 = .error error →
    (execute engine env ledger (.open command)).2 = ledger
  /-- Past the gates the stored position comes back, retracted now if its trigger is orphaned. -/
  accepted : ∀ env, OpenGates engine env command stored →
    Confirmable ledger (openedEventId engine stored snapshot.trigger) snapshot.trigger
      snapshot.trigger.observedAtMs →
    (Retracts snapshot.trigger stored → Retractable engine (env.clock 1) ledger stored) →
    (execute engine env ledger (.open command)).1 =
      .ok (replayed engine (env.clock 1) snapshot.trigger stored)
  /-- Another content under the same id is refused, as a conflict once past the gates. -/
  conflicting : ∀ env other otherSnapshot,
    snapshotOpenCommand other other.trigger = .ok otherSnapshot →
    openPositionId engine otherSnapshot = stored.id →
    openCommandContent otherSnapshot ≠ openCommandContent snapshot →
    ∃ error, execute engine env ledger (.open other) = (.error error, ledger) ∧
      (OpenGates engine env other stored → error = conflict)

variable {history : List (Environment × PaperCommand)}
variable {first : PaperPosition} {other : OpenPaperPositionCommand}

section Opened

theorem runCommands_append (ledger : Ledger) (first second : List (Environment × PaperCommand)) :
    runCommands engine ledger (first ++ second) =
      runCommands engine (runCommands engine ledger first) second :=
  List.foldl_append

/-- A run through a command that returned goes on from the ledger it left. -/
theorem run_through {before later : List (Environment × PaperCommand)} {command : PaperCommand}
    (succeeded : (execute engine env (runCommands engine .empty before) command).1 = .ok first) :
    ∃ after, execute engine env (runCommands engine .empty before) command = (.ok first, after) ∧
      LedgerInvariant after ∧
      runCommands engine .empty (before ++ (env, command) :: later) =
        runCommands engine after later := by
  refine ⟨_, Prod.ext succeeded rfl, ?_, runCommands_append _ before _⟩
  exact ledgerInvariant_execute (ledgerInvariant_run engine before ledgerInvariant_empty) command

theorem rowStep_acceptsOpen {entryDecisionAtMs : Option Int} {entryDecisionJobId : Option String}
    (step : RowStep engine trades row next)
    (accepts : AcceptsOpen row hashes entryDecisionAtMs entryDecisionJobId) :
    AcceptsOpen next hashes entryDecisionAtMs entryDecisionJobId ∧
      next.entryTradeId = row.entryTradeId := by
  cases step <;> exact ⟨accepts, rfl⟩

/-- Right after the success, whether it inserted the position or replayed a stored one. -/
theorem storedOpen_execute (run : execute engine env ledger (.open command) = (.ok first, after)) :
    ∃ snapshot stored, snapshotOpenCommand command command.trigger = .ok snapshot ∧
      StoredOpen engine after snapshot stored := by
  have write := execute_writes run
  obtain ⟨prepared, final, checks, body, rfl⟩ := runCommand_ok run
  obtain ⟨snapshotted, identity, hashed⟩ := openChecks_ok checks
  refine ⟨prepared.snapshot, ?_⟩
  obtain ⟨middle, same, ⟨row, member, rowId, replayed⟩ | inserted⟩ := openTransaction_cases body
  · obtain ⟨accepts, recorded, outcome, -⟩ := reconcileOpenReplay_ok replayed
    rw [same] at recorded outcome
    have step : RowStep engine final.ledger.trades row first := outcome.rowStep
    obtain ⟨stillAccepts, sameTrade⟩ := rowStep_acceptsOpen step accepts
    refine ⟨first, snapshotted, outcome.returned_mem member, ?_, ⟨_, hashed, stillAccepts⟩, ?_⟩
    · rw [step.id_eq, rowId, identity]
    · rw [openedEventId, step.id_eq, sameTrade]
      exact events_after write recorded
  · obtain ⟨-, -, rfl, member, recorded⟩ := insertPrepared_ok hashed inserted
    refine ⟨_, snapshotted, member, identity, ⟨_, hashed, ?_, ?_⟩, recorded⟩
    · simp [matchesOpenCommandHash, openedPosition]
    · simp [openedPosition]

/-- The stored row of an open command that succeeded anywhere in the history. -/
theorem storedOpen_run (opened : OpenedIn engine history command) :
    ∃ snapshot stored, snapshotOpenCommand command command.trigger = .ok snapshot ∧
      StoredOpen engine (runCommands engine .empty history) snapshot stored := by
  obtain ⟨before, env, later, first, rfl, succeeded⟩ := opened
  obtain ⟨after, run, invariant, reached⟩ := run_through succeeded
  obtain ⟨snapshot, stored, snapshotted, member, identity, ⟨hashes, hashed, accepts⟩, recorded⟩ :=
    storedOpen_execute run
  obtain ⟨⟨last, lastMember, lastId, lastAccepts, sameTrade⟩, kept⟩ := row_persists
    (fun row => AcceptsOpen row hashes snapshot.entryDecisionAtMs snapshot.entryDecisionJobId ∧
      row.entryTradeId = stored.entryTradeId)
    (fun step holds => by
      obtain ⟨accepts, sameTrade⟩ := rowStep_acceptsOpen step holds.1
      exact ⟨accepts, sameTrade.trans holds.2⟩)
    later invariant stored member ⟨accepts, rfl⟩
  rw [reached]
  refine ⟨snapshot, last, snapshotted, lastMember, lastId.trans identity,
    ⟨hashes, hashed, lastAccepts⟩, ?_⟩
  rw [openedEventId, lastId, sameTrade]
  exact kept recorded

/-- An open command whose id is stored can only replay the stored row. -/
theorem open_replays (invariant : LedgerInvariant ledger) (member : stored ∈ ledger.positions)
    (snapshotted : snapshotOpenCommand command command.trigger = .ok snapshot)
    (identity : stored.id = openPositionId engine snapshot)
    (run : execute engine env ledger (.open command) = (.ok returned, after)) :
    ∃ hashes, hashOpenCommand engine.digest snapshot = .ok hashes ∧
      AcceptsOpen stored hashes snapshot.entryDecisionAtMs snapshot.entryDecisionJobId ∧
      ReplayOutcome engine stored ledger after returned ∧
      (snapshot.trigger.confirmationStatus ≠ .orphaned → returned = stored) := by
  obtain ⟨prepared, final, checks, body, rfl⟩ := runCommand_ok run
  obtain ⟨preparedSnapshot, preparedId, hashed⟩ := openChecks_ok checks
  have sameSnapshot : prepared.snapshot = snapshot := by
    rw [snapshotted] at preparedSnapshot
    cases preparedSnapshot
    rfl
  subst sameSnapshot
  obtain ⟨middle, same, ⟨row, rowMember, rowId, replayed⟩ | inserted⟩ := openTransaction_cases body
  · have unique : row = stored := List.inj_on_of_nodup_map invariant.identities rowMember member
      (rowId.trans (preparedId.trans identity.symm))
    subst unique
    obtain ⟨accepts, -, outcome, observed⟩ := reconcileOpenReplay_ok replayed
    rw [same] at outcome
    exact ⟨_, hashed, accepts, outcome, fun live => (observed live).1⟩
  · obtain ⟨-, fresh, -⟩ := insertPrepared_ok hashed inserted
    rw [same] at fresh
    exact absurd (identity.trans preparedId.symm) (fresh stored member)

/-- A stored hash is the hash of the one content it was computed from. -/
theorem acceptsOpen_content (hashedRow : HashedRow engine stored)
    (legacySeparates : SeparatesOpen engine.digest (legacyOpenCommandContent snapshot))
    (hashed : hashOpenCommand engine.digest snapshot = .ok hashes)
    (accepts : matchesOpenCommandHash stored hashes = true) :
    stored.openCommandHash = hashId engine.digest (.paperOpenCommand (openCommandContent snapshot)) := by
  obtain ⟨current, legacy⟩ := hashOpenCommand_ok hashed
  obtain ⟨content, report, shape, storedHash⟩ := hashedRow
  simp only [matchesOpenCommandHash, Bool.decide_or, Bool.or_eq_true, decide_eq_true_eq] at accepts
  rcases accepts with matched | matched
  · rw [matched, current]
  · rw [storedHash, legacy] at matched
    have same := legacySeparates content ((String.append_right_inj _).mp matched)
    rw [same] at shape
    cases shape

theorem matchesOpenCommandHash_other
    (separates : SeparatesOpen engine.digest (openCommandContent snapshot))
    (storedHash : stored.openCommandHash =
      hashId engine.digest (.paperOpenCommand (openCommandContent snapshot)))
    (differs : openCommandContent other ≠ openCommandContent snapshot)
    (hashed : hashOpenCommand engine.digest other = .ok hashes) :
    matchesOpenCommandHash stored hashes = false := by
  obtain ⟨current, legacy⟩ := hashOpenCommand_ok hashed
  simp only [matchesOpenCommandHash, decide_eq_false_iff_not, not_or]
  rw [storedHash, current, legacy]
  constructor
  · intro same
    exact differs (separates _ ((String.append_right_inj _).mp same).symm)
  · intro same
    have content := separates _ ((String.append_right_inj _).mp same).symm
    exact absurd (congrArg OpenCommandContent.qualification content) (by
      simp [legacyOpenCommandContent, openCommandContent])

/-- Past the gates, the command is decided by the replay of the stored row. -/
theorem openGates_replay (invariant : LedgerInvariant ledger) (member : stored ∈ ledger.positions)
    (snapshotted : snapshotOpenCommand command command.trigger = .ok snapshot)
    (identity : stored.id = openPositionId engine snapshot)
    (gates : OpenGates engine env command stored) :
    ∃ prepared, openChecks engine env command = .ok prepared ∧ prepared.snapshot = snapshot ∧
      hashOpenCommand engine.digest snapshot = .ok prepared.openCommandHashes ∧
      exec (openTransaction engine env prepared) ⟨ledger, env.queriesLeft⟩ =
        exec (replayPrepared engine (env.clock 1) prepared stored) ⟨ledger, env.queriesLeft⟩ := by
  obtain ⟨prepared, checks, current⟩ := gates.checks
  obtain ⟨preparedSnapshot, preparedId, hashed⟩ := openChecks_ok checks
  rw [snapshotted] at preparedSnapshot
  cases preparedSnapshot
  exact ⟨prepared, checks, rfl, hashed, openTransaction_stored gates.database invariant.identities
    member (identity.trans preparedId.symm) gates.readable current⟩

theorem open_accepted (invariant : LedgerInvariant ledger)
    (holds : StoredOpen engine ledger snapshot stored)
    (snapshotted : snapshotOpenCommand command command.trigger = .ok snapshot)
    (gates : OpenGates engine env command stored)
    (confirmable : Confirmable ledger (openedEventId engine stored snapshot.trigger)
      snapshot.trigger snapshot.trigger.observedAtMs)
    (retractable : Retracts snapshot.trigger stored → Retractable engine (env.clock 1) ledger stored) :
    (execute engine env ledger (.open command)).1 =
      .ok (replayed engine (env.clock 1) snapshot.trigger stored) := by
  obtain ⟨prepared, checks, rfl, preparedHashes, replays⟩ :=
    openGates_replay invariant holds.member snapshotted holds.identity gates
  obtain ⟨hashes, hashed, accepts⟩ := holds.accepts
  rw [preparedHashes] at hashed
  cases hashed
  obtain ⟨after, database, body⟩ := @replayPrepared_returns stored engine (env.clock 1)
    ⟨ledger, env.queriesLeft⟩ prepared gates.database accepts holds.recorded confirmable retractable
  exact runCommand_returns checks (replays.trans body) database

/-- A command that cannot return is refused, and conflicts once it is past its gates. -/
theorem refused_of_conflict {command : PaperCommand} {gates : Prop}
    (refused : ∀ returned after, execute engine env ledger command ≠ (.ok returned, after))
    (conflicts : gates → (execute engine env ledger command).1 = .error conflict) :
    ∃ error, execute engine env ledger command = (.error error, ledger) ∧ (gates → error = conflict) := by
  rcases execute_cases command with ⟨error, run⟩ | ⟨returned, after, run⟩
  · refine ⟨error, run, fun pastGates => ?_⟩
    have threw := conflicts pastGates
    rw [run] at threw
    exact Except.error.inj threw
  · exact absurd run (refused returned after)

/-- Neither the refusal nor the replay of a command adds anything. -/
theorem nothingAdded_of_replays {command : PaperCommand} (invariant : LedgerInvariant ledger)
    (member : stored ∈ ledger.positions)
    (replays : ∀ returned after, execute engine env ledger command = (.ok returned, after) →
      ReplayOutcome engine stored ledger after returned) :
    NothingAdded ledger (execute engine env ledger command).2 := by
  rcases execute_cases command with ⟨error, run⟩ | ⟨returned, after, run⟩ <;> rw [run]
  · exact NothingAdded.refl _
  · exact ReplayOutcome.nothingAdded invariant.identities member (replays returned after run)

theorem open_conflicts {otherSnapshot : OpenPaperPositionCommand}
    (invariant : LedgerInvariant ledger) (member : stored ∈ ledger.positions)
    (storedHash : stored.openCommandHash =
      hashId engine.digest (.paperOpenCommand (openCommandContent snapshot)))
    (separates : SeparatesOpen engine.digest (openCommandContent snapshot))
    (snapshotted : snapshotOpenCommand other other.trigger = .ok otherSnapshot)
    (identity : openPositionId engine otherSnapshot = stored.id)
    (differs : openCommandContent otherSnapshot ≠ openCommandContent snapshot) :
    ∃ error, execute engine env ledger (.open other) = (.error error, ledger) ∧
      (OpenGates engine env other stored → error = conflict) := by
  refine refused_of_conflict (fun returned after run => ?_) fun gates => ?_
  · obtain ⟨hashes, hashed, accepts, -⟩ := open_replays invariant member snapshotted identity.symm run
    have mismatch := matchesOpenCommandHash_other separates storedHash differs hashed
    rw [accepts.1] at mismatch
    cases mismatch
  · obtain ⟨prepared, checks, rfl, hashed, replays⟩ :=
      openGates_replay invariant member snapshotted identity.symm gates
    exact runCommand_throws checks (replays.trans (replayPrepared_conflicts
      (matchesOpenCommandHash_other separates storedHash differs hashed)))

theorem replaysOpen (opened : OpenedIn engine history command)
    (snapshotted : snapshotOpenCommand command command.trigger = .ok snapshot)
    (separates : SeparatesOpen engine.digest (openCommandContent snapshot))
    (legacySeparates : SeparatesOpen engine.digest (legacyOpenCommandContent snapshot)) :
    ∃ stored, ReplaysOpen engine (runCommands engine .empty history) command snapshot stored := by
  have invariant := ledgerInvariant_run engine history ledgerInvariant_empty
  obtain ⟨_, stored, sameSnapshot, holds⟩ := storedOpen_run opened
  rw [snapshotted] at sameSnapshot
  cases sameSnapshot
  obtain ⟨hashes, hashed, accepts⟩ := holds.accepts
  have storedHash := acceptsOpen_content
    (hashedRow_run history (by simp [Ledger.empty]) stored holds.member) legacySeparates hashed accepts.1
  refine ⟨stored, holds.member, holds.identity, ?_, ?_, ?_, ?_, ?_⟩
  · intro env
    refine nothingAdded_of_replays invariant holds.member fun returned after run => ?_
    obtain ⟨_, -, -, outcome, -⟩ :=
      open_replays invariant holds.member snapshotted holds.identity run
    exact outcome
  · intro env position returned
    obtain ⟨_, -, -, outcome, observed⟩ :=
      open_replays invariant holds.member snapshotted holds.identity (Prod.ext returned rfl)
    exact ReplayOutcome.returnsStored outcome observed
  · intro env error threw
    exact execute_error (Prod.ext threw rfl)
  · intro env gates confirmable retractable
    exact open_accepted invariant holds snapshotted gates confirmable retractable
  · intro env other otherSnapshot otherSnapshotted identity differs
    exact open_conflicts invariant holds.member storedHash separates otherSnapshotted identity differs

end Opened

end SolTokenListener.Guarantees.PaperReplay
