import SolTokenListener.Guarantees.PaperReplay

/-!
# Replays of a close command, and idempotence of both commands

A close that succeeded leaves a settled row. No later command but a retraction can change such
a row, and a retraction keeps the fields a replay of the close is checked against.
-/

namespace SolTokenListener.Guarantees.PaperIdempotence

open Lib.Checked Lib.Transaction
open Source.Chain Source.Qualification
open Source.PaperTrading
open Source.PaperLedger Source.PaperCommand
open Source.PaperTradingEngine
open Guarantees.PaperLedger Guarantees.PaperReplay

variable {command : ClosePaperPositionCommand} {ledger : Ledger} {stored : PaperPosition}

/-! ## Replays of a close command -/

/-- Somewhere in the history the close command succeeded. -/
def ClosedIn (engine : Engine) (history : List (Environment × PaperCommand))
    (command : ClosePaperPositionCommand) : Prop :=
  ∃ before env later first, history = before ++ (env, .close command) :: later ∧
    (execute engine env (runCommands engine .empty before) (.close command)).1 = .ok first

def closeCommandHash (engine : Engine) (snapshot : ClosePaperPositionCommand) : String :=
  hashId engine.digest (.paperCloseCommand (closeCommandContent snapshot))

def closedEventId (engine : Engine) (stored : PaperPosition) (exitTradeId : String)
    (trigger : DomainEvent) : String :=
  stored.closeEventId.getD
    (paperEventId engine.digest .PaperPositionClosed stored.id exitTradeId trigger.id)

/-- The row of a position that a close command settled. -/
structure SettledRow (engine : Engine) (snapshot : ClosePaperPositionCommand)
    (exitTradeId eventId : String) (row : PaperPosition) : Prop where
  identity : row.id = snapshot.positionId
  settled : row.status ≠ .PAPER_HOLDING
  accepts : AcceptsClose row (closeCommandHash engine snapshot) snapshot.exitTriggerAtMs
  sold : row.exitTradeId = some exitTradeId
  event : closedEventId engine row exitTradeId snapshot.trigger = eventId

/-- How the ledger answers a close command it has already accepted. -/
structure ReplaysClose (engine : Engine) (ledger : Ledger)
    (command snapshot : ClosePaperPositionCommand) (stored : PaperPosition) (exitTradeId : String) :
    Prop where
  member : stored ∈ ledger.positions
  identity : stored.id = snapshot.positionId
  sold : stored.exitTradeId = some exitTradeId
  resubmitted : ∀ env, NothingAdded ledger (execute engine env ledger (.close command)).2
  returned : ∀ env position, (execute engine env ledger (.close command)).1 = .ok position →
    ReturnsStored engine snapshot.trigger stored position
  refused : ∀ env error, (execute engine env ledger (.close command)).1 = .error error →
    (execute engine env ledger (.close command)).2 = ledger
  accepted : ∀ env, CloseGates engine env command stored →
    Confirmable ledger (closedEventId engine stored exitTradeId snapshot.trigger) snapshot.trigger
      (stored.exitTriggerAtMs.getD snapshot.trigger.observedAtMs) →
    (Retracts snapshot.trigger stored → Retractable engine (env.clock 1) ledger stored) →
    (execute engine env ledger (.close command)).1 =
      .ok (replayed engine (env.clock 1) snapshot.trigger stored)
  conflicting : ∀ env other otherSnapshot, snapshotCloseCommand other = .ok otherSnapshot →
    otherSnapshot.positionId = stored.id →
    closeCommandContent otherSnapshot ≠ closeCommandContent snapshot →
    ∃ error, execute engine env ledger (.close other) = (.error error, ledger) ∧
      (CloseGates engine env other stored → error = conflict)

variable {history : List (Environment × PaperCommand)}

section Closed

variable {engine : Engine} {env : Environment} {snapshot : ClosePaperPositionCommand}
variable {exitTradeId eventId : String}

theorem closeChecks_ok {prepared : PreparedClose}
    (accepted : closeChecks engine env command = .ok prepared) :
    snapshotCloseCommand command = .ok prepared.snapshot ∧
      prepared.closeCommandHash = closeCommandHash engine prepared.snapshot := by
  simp only [closeChecks, hashValue, bind_eq_ok, pure_eq_ok] at accepted
  obtain ⟨_, _, snapshot, snapshotted, _, _, _, _, hash, ⟨_, _, rfl⟩, _, _, rfl⟩ := accepted
  exact ⟨snapshotted, rfl⟩

theorem rowStep_settled {trades : List PaperTrade} {row next : PaperPosition}
    (step : RowStep engine trades row next)
    (settled : SettledRow engine snapshot exitTradeId eventId row) :
    SettledRow engine snapshot exitTradeId eventId next := by
  cases step with
  | kept => exact settled
  | closed prepared held sold => exact absurd held settled.settled
  | retracted terminalAtMs live =>
    exact ⟨settled.identity, by simp [retractedPosition], settled.accepts, settled.sold,
      settled.event⟩

/-- Right after the success, whether it settled the position or replayed a settled one. -/
theorem settledRow_execute {after : Ledger} {first : PaperPosition}
    (run : execute engine env ledger (.close command) = (.ok first, after)) :
    ∃ snapshot exitTradeId eventId stored, snapshotCloseCommand command = .ok snapshot ∧
      stored ∈ after.positions ∧ SettledRow engine snapshot exitTradeId eventId stored ∧
      eventId ∈ after.events.map (·.id) := by
  have write := execute_writes run
  obtain ⟨prepared, final, checks, body, rfl⟩ := runCommand_ok run
  obtain ⟨snapshotted, hashed⟩ := closeChecks_ok checks
  obtain ⟨current, member, identity, middle, same, ⟨settled, replayed⟩ | ⟨held, closed⟩⟩ :=
    closeTransaction_cases body
  · obtain ⟨accepts, ⟨exitTradeId, sold, recorded⟩, outcome, -⟩ := replayClose_ok replayed
    rw [same] at recorded outcome
    have step : RowStep engine final.ledger.trades current first := outcome.rowStep
    rw [hashed] at accepts
    exact ⟨_, exitTradeId, _, first, snapshotted, outcome.returned_mem member,
      rowStep_settled step ⟨identity, settled, accepts, sold, rfl⟩, events_after write recorded⟩
  · rw [← same] at member
    obtain ⟨-, rfl, stored, closeEventId, event, recorded⟩ := closeHeld_ok member held closed
    refine ⟨_, _, closeEventId, _, snapshotted, stored, ⟨identity, by simp [closedPosition], ?_, rfl, ?_⟩,
      recorded⟩
    · rw [← hashed]
      exact ⟨rfl, fun differs => differs.2 rfl⟩
    · rw [closedEventId, event, Option.getD_some]

/-- The settled row of a close command that succeeded anywhere in the history. -/
theorem settledRow_run (closed : ClosedIn engine history command) :
    ∃ snapshot exitTradeId eventId stored, snapshotCloseCommand command = .ok snapshot ∧
      stored ∈ (runCommands engine .empty history).positions ∧
      SettledRow engine snapshot exitTradeId eventId stored ∧
      eventId ∈ (runCommands engine .empty history).events.map (·.id) := by
  obtain ⟨before, env, later, first, rfl, succeeded⟩ := closed
  obtain ⟨after, run, invariant, reached⟩ := run_through succeeded
  obtain ⟨snapshot, exitTradeId, eventId, stored, snapshotted, member, settled, recorded⟩ :=
    settledRow_execute run
  obtain ⟨⟨last, lastMember, -, lastSettled⟩, kept⟩ := row_persists
    (SettledRow engine snapshot exitTradeId eventId) rowStep_settled later invariant stored member
    settled
  rw [reached]
  exact ⟨snapshot, exitTradeId, eventId, last, snapshotted, lastMember, lastSettled, kept recorded⟩

/-- A close command on a settled row can only replay it. -/
theorem close_replays {after : Ledger} {returned : PaperPosition}
    (invariant : LedgerInvariant ledger) (member : stored ∈ ledger.positions)
    (settled : stored.status ≠ .PAPER_HOLDING)
    (snapshotted : snapshotCloseCommand command = .ok snapshot)
    (identity : stored.id = snapshot.positionId)
    (run : execute engine env ledger (.close command) = (.ok returned, after)) :
    AcceptsClose stored (closeCommandHash engine snapshot) snapshot.exitTriggerAtMs ∧
      ReplayOutcome engine stored ledger after returned ∧
      (snapshot.trigger.confirmationStatus ≠ .orphaned → returned = stored) := by
  obtain ⟨prepared, final, checks, body, rfl⟩ := runCommand_ok run
  obtain ⟨preparedSnapshot, hashed⟩ := closeChecks_ok checks
  rw [snapshotted] at preparedSnapshot
  cases preparedSnapshot
  obtain ⟨current, currentMember, currentId, middle, same, branches⟩ := closeTransaction_cases body
  have unique : current = stored := List.inj_on_of_nodup_map invariant.identities currentMember
    member (currentId.trans identity.symm)
  subst unique
  rcases branches with ⟨-, replayed⟩ | ⟨held, -⟩
  · obtain ⟨accepts, -, outcome, observed⟩ := replayClose_ok replayed
    rw [same] at outcome
    rw [hashed] at accepts
    exact ⟨accepts, outcome, fun live => (observed live).1⟩
  · exact absurd held settled

/-- Past the gates, the command is decided by the replay of the settled row. -/
theorem closeGates_replay (invariant : LedgerInvariant ledger) (member : stored ∈ ledger.positions)
    (settled : stored.status ≠ .PAPER_HOLDING)
    (snapshotted : snapshotCloseCommand command = .ok snapshot)
    (identity : stored.id = snapshot.positionId) (gates : CloseGates engine env command stored) :
    ∃ prepared, closeChecks engine env command = .ok prepared ∧ prepared.snapshot = snapshot ∧
      prepared.closeCommandHash = closeCommandHash engine snapshot ∧
      exec (closeTransaction engine env prepared) ⟨ledger, env.queriesLeft⟩ =
        exec (replayClose engine env prepared stored) ⟨ledger, env.queriesLeft⟩ := by
  obtain ⟨prepared, checks⟩ := gates.checks
  obtain ⟨preparedSnapshot, hashed⟩ := closeChecks_ok checks
  rw [snapshotted] at preparedSnapshot
  cases preparedSnapshot
  refine ⟨prepared, checks, rfl, hashed, ?_⟩
  unfold closeTransaction
  have found : exec (findPosition stored.id) ⟨ledger, env.queriesLeft⟩ = (.ok (some stored), _) :=
    findPosition_stored gates.database invariant.identities member gates.readable
  rw [← identity, exec_bind_of_ok found]
  dsimp only
  rw [if_pos settled]

theorem replayClose_returns {store : Store} {prepared : PreparedClose} {row : PaperPosition}
    (database : store.queriesLeft = none)
    (hashed : prepared.closeCommandHash = closeCommandHash engine prepared.snapshot)
    (settled : SettledRow engine prepared.snapshot exitTradeId eventId row)
    (recorded : eventId ∈ store.ledger.events.map (·.id))
    (confirmable : Confirmable store.ledger eventId prepared.snapshot.trigger
      (row.exitTriggerAtMs.getD prepared.snapshot.trigger.observedAtMs))
    (retractable : Retracts prepared.snapshot.trigger row →
      Retractable engine (env.clock 1) store.ledger row) :
    ∃ after, after.queriesLeft = none ∧ exec (replayClose engine env prepared row) store =
      (.ok (replayed engine (env.clock 1) prepared.snapshot.trigger row), after) := by
  obtain ⟨after, afterDatabase, finished⟩ :=
    reconcileAndRetract_returns database recorded confirmable retractable
  refine ⟨after, afterDatabase, ?_⟩
  rw [← settled.event, closedEventId] at finished
  unfold replayClose
  rw [exec_bind_of_ok (exec_require (hashed ▸ settled.accepts.1))]
  simp only [settled.sold]
  rw [exec_bind_of_ok (exec_require settled.accepts.2)]
  exact finished

theorem replayClose_conflicts {store : Store} {prepared : PreparedClose} {row : PaperPosition}
    (differs : row.closeCommandHash ≠ some prepared.closeCommandHash) :
    exec (replayClose engine env prepared row) store = (.error conflict, store) := by
  unfold replayClose
  rw [exec_bind_of_error (exec_require_not differs)]

theorem close_accepted (invariant : LedgerInvariant ledger) (member : stored ∈ ledger.positions)
    (settled : SettledRow engine snapshot exitTradeId eventId stored)
    (recorded : eventId ∈ ledger.events.map (·.id))
    (snapshotted : snapshotCloseCommand command = .ok snapshot)
    (gates : CloseGates engine env command stored)
    (confirmable : Confirmable ledger eventId snapshot.trigger
      (stored.exitTriggerAtMs.getD snapshot.trigger.observedAtMs))
    (retractable : Retracts snapshot.trigger stored → Retractable engine (env.clock 1) ledger stored) :
    (execute engine env ledger (.close command)).1 =
      .ok (replayed engine (env.clock 1) snapshot.trigger stored) := by
  obtain ⟨prepared, checks, rfl, hashed, replays⟩ :=
    closeGates_replay invariant member settled.settled snapshotted settled.identity gates
  obtain ⟨after, database, body⟩ := @replayClose_returns engine env exitTradeId eventId
    ⟨ledger, env.queriesLeft⟩ prepared stored gates.database hashed settled recorded confirmable retractable
  exact runCommand_returns checks (replays.trans body) database

theorem closeCommandHash_other {other : ClosePaperPositionCommand}
    (separates : SeparatesClose engine.digest (closeCommandContent snapshot))
    (storedHash : stored.closeCommandHash = some (closeCommandHash engine snapshot))
    (differs : closeCommandContent other ≠ closeCommandContent snapshot) :
    stored.closeCommandHash ≠ some (closeCommandHash engine other) := by
  rw [storedHash]
  intro same
  exact differs (separates _ ((String.append_right_inj _).mp (Option.some.inj same)).symm)

theorem close_conflicts {other otherSnapshot : ClosePaperPositionCommand}
    (invariant : LedgerInvariant ledger) (member : stored ∈ ledger.positions)
    (settled : SettledRow engine snapshot exitTradeId eventId stored)
    (separates : SeparatesClose engine.digest (closeCommandContent snapshot))
    (snapshotted : snapshotCloseCommand other = .ok otherSnapshot)
    (identity : otherSnapshot.positionId = stored.id)
    (differs : closeCommandContent otherSnapshot ≠ closeCommandContent snapshot) :
    ∃ error, execute engine env ledger (.close other) = (.error error, ledger) ∧
      (CloseGates engine env other stored → error = conflict) := by
  have mismatch := closeCommandHash_other separates settled.accepts.1 differs
  refine refused_of_conflict (fun returned after run => ?_) fun gates => ?_
  · obtain ⟨accepts, -, -⟩ := close_replays invariant member settled.settled snapshotted identity.symm run
    exact absurd accepts.1 mismatch
  · obtain ⟨prepared, checks, rfl, hashed, replays⟩ :=
      closeGates_replay invariant member settled.settled snapshotted identity.symm gates
    rw [← hashed] at mismatch
    exact runCommand_throws checks (replays.trans (replayClose_conflicts mismatch))

theorem replaysClose (closed : ClosedIn engine history command)
    (snapshotted : snapshotCloseCommand command = .ok snapshot)
    (separates : SeparatesClose engine.digest (closeCommandContent snapshot)) :
    ∃ stored exitTradeId,
      ReplaysClose engine (runCommands engine .empty history) command snapshot stored exitTradeId := by
  have invariant := ledgerInvariant_run engine history ledgerInvariant_empty
  obtain ⟨_, exitTradeId, eventId, stored, sameSnapshot, member, settled, recorded⟩ :=
    settledRow_run closed
  rw [snapshotted] at sameSnapshot
  cases sameSnapshot
  refine ⟨stored, exitTradeId, member, settled.identity, settled.sold, ?_, ?_, ?_, ?_, ?_⟩
  · intro env
    refine nothingAdded_of_replays invariant member fun returned after run => ?_
    obtain ⟨-, outcome, -⟩ :=
      close_replays invariant member settled.settled snapshotted settled.identity run
    exact outcome
  · intro env position returned
    obtain ⟨-, outcome, observed⟩ := close_replays invariant member settled.settled snapshotted
      settled.identity (Prod.ext returned rfl)
    exact ReplayOutcome.returnsStored outcome observed
  · intro env error threw
    exact execute_error (Prod.ext threw rfl)
  · intro env gates confirmable retractable
    rw [settled.event] at confirmable
    exact close_accepted invariant member settled recorded snapshotted gates confirmable retractable
  · intro env other otherSnapshot otherSnapshotted identity differs
    exact close_conflicts invariant member settled separates otherSnapshotted identity differs

end Closed

/-! ## Both commands -/

def sampleTrigger : DomainEvent where
  id := "evt_1"
  mint := "mint"
  program := "program"
  signature := "signature"
  cursor := ⟨10, 0, 0, none⟩
  confirmationStatus := .confirmed
  blockchainTimeMs := some 1000
  observedAtMs := 1000

/-- A profile with every condition disabled. -/
def sampleProfile : EffectiveQualificationProfile where
  id := "profile"
  version := 1
  status := "VERIFIED"
  minimumTotalScore := 0
  fingerprint := "fingerprint"
  conditionPolicies := QUALIFICATION_REASON_CODES.map fun code =>
    ⟨code, .DISABLED, none, none, none, none, none, none⟩

def sampleReport : QualificationReport where
  ruleSet := ⟨"profile", 1, "VERIFIED", "fingerprint", 0⟩
  scores := ⟨⟨0, 0⟩, ⟨0, 0⟩, ⟨0, 0⟩, ⟨0, 0⟩⟩
  evidence := []
  conditions := QUALIFICATION_REASON_CODES.map fun code =>
    ⟨code, .DISABLED, .DISABLED, [], [], "disabled"⟩
  blockers := []
  verdict := .QUALIFIED
  evaluatedAtMs := 1000

def sampleOpen : OpenPaperPositionCommand where
  mint := "mint"
  quoteAsset := ⟨"quote", 9, .SPL_TOKEN⟩
  strategy := ⟨"strategy", 1⟩
  trigger := sampleTrigger
  qualification := sampleReport
  buyQuote := ⟨"buy", "quote", "mint", 1000, 500, 490, 0, 100, 0, 2000, 11⟩
  reverseSellQuote := ⟨"reverse", "mint", "quote", 490, 960, 950, 0, 100, 0, 2000, 11⟩
  maximumRoundTripLossBps := 1000
  strategySessionId := none
  qualificationReportId := none
  candidateId := none
  expectedCurrentQualification := none
  entryDecisionAtMs := none
  entryDecisionJobId := none

def sampleClose : ClosePaperPositionCommand where
  positionId := "paper_position_p"
  trigger := { sampleTrigger with id := "evt_2", cursor := ⟨20, 0, 0, none⟩, observedAtMs := 3000 }
  sellQuote := ⟨"sell", "mint", "quote", 490, 1200, 1100, 0, 100, 0, 4000, 21⟩
  reason := "TAKE_PROFIT"
  exitTriggerAtMs := none

def sampleDigest : HashInput → String
  | .paperPosition .. => "p"
  | .paperTrade _ .BUY => "b"
  | .paperTrade _ .SELL => "s"
  | .evt type .. => if type = .PaperPositionOpened then "o" else "c"
  | .paperOpenCommand content =>
    if content = openCommandContent sampleOpen then "current"
    else if content = legacyOpenCommandContent sampleOpen then "legacy" else "other"
  | .paperCloseCommand content =>
    if content = closeCommandContent sampleClose then "current" else "other"

def sampleEngine : Engine where
  executionMode := .paper
  paperQuoteMintAllowlist := ["quote"]
  dataRetentionHours := 4
  qualificationProfile := sampleProfile
  digest := sampleDigest
  retentionPositive := by decide

def sampleEnvironment : Environment where
  clock := fun _ => 5000
  isAuthorized := fun _ _ _ => true
  isCurrent := fun _ => true
  queriesLeft := none

def sampleHistory : List (Environment × PaperCommand) :=
  [(sampleEnvironment, .open sampleOpen), (sampleEnvironment, .close sampleClose)]

theorem sampleDigest_separatesOpen :
    SeparatesOpen sampleDigest (openCommandContent sampleOpen) ∧
      SeparatesOpen sampleDigest (legacyOpenCommandContent sampleOpen) := by
  have apart : legacyOpenCommandContent sampleOpen ≠ openCommandContent sampleOpen := by decide
  constructor
  · intro other same
    by_contra differs
    simp only [sampleDigest, differs, ↓reduceIte] at same
    split at same <;> simp at same
  · intro other same
    by_contra differs
    simp only [sampleDigest, differs, apart, ↓reduceIte] at same
    split at same <;> simp at same

theorem sampleDigest_separatesClose :
    SeparatesClose sampleDigest (closeCommandContent sampleClose) := by
  intro other same
  by_contra differs
  simp [sampleDigest, differs] at same

theorem openedIn_sampleHistory : OpenedIn sampleEngine sampleHistory sampleOpen := by
  obtain ⟨first, succeeded⟩ := exists_of_isOk
    (by decide : (execute sampleEngine sampleEnvironment .empty (.open sampleOpen)).1.isOk = true)
  exact ⟨[], sampleEnvironment, _, first, rfl, succeeded⟩

theorem closedIn_sampleHistory : ClosedIn sampleEngine sampleHistory sampleClose := by
  obtain ⟨first, succeeded⟩ := exists_of_isOk
    (by decide : (execute sampleEngine sampleEnvironment (runCommands sampleEngine .empty
      [(sampleEnvironment, .open sampleOpen)]) (.close sampleClose)).1.isOk = true)
  exact ⟨[(sampleEnvironment, .open sampleOpen)], sampleEnvironment, [], first, rfl, succeeded⟩

/-- The open command, its trigger now reported orphaned. -/
def sampleOrphaned : OpenPaperPositionCommand :=
  { sampleOpen with trigger := { sampleTrigger with confirmationStatus := .orphaned } }

end SolTokenListener.Guarantees.PaperIdempotence
