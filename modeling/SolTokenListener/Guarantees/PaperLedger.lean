import SolTokenListener.Source.PaperTradingEngine

/-!
# Paper ledger safety

Every command that returns writes the ledger in one of four ways, derived here from its
execution; a command that throws writes nothing. The ledger invariant is preserved by each
of the four and so holds after every sequence of commands from the empty ledger, whatever
the clock, the report authority, the current qualification and the database do.
-/

namespace SolTokenListener.Guarantees.PaperLedger

open Lib.Checked Lib.KeyedRows Lib.Transaction
open Source.Chain Source.PaperTrading
open Source.PaperLedger Source.PaperCommand
open Source.PaperTradingEngine

variable {position current : PaperPosition} {prepared : PreparedOpen} {α : Type}
variable {terminalAtMs : Int} {trigger : DomainEvent} {checks : Checked α}
variable {body : α → PaperTx PaperPosition}

/-! ## What each repository operation does when it returns -/

variable {found : Option PaperPosition}

section Operations

variable {store after : Store} {u : Unit}

theorem query_ok (returned : exec query store = (.ok u, after)) : after.ledger = store.ledger := by
  unfold query at returned
  simp only [exec_bind_ok, exec_get] at returned
  obtain ⟨_, _, same, continued⟩ := returned
  cases same
  split at continued
  · cases continued
    rfl
  · cases continued
  · cases continued
    rfl

theorem writeLedger_ok {write : Ledger → Ledger}
    (returned : exec (writeLedger write) store = (.ok u, after)) :
    after.ledger = write store.ledger := by
  cases returned
  rfl

/-- A check inside a body reads nothing and writes nothing. -/
theorem check_ok {result : Checked α} {value : α}
    (returned : exec (check result : PaperTx α) store = (.ok value, after)) :
    result = .ok value ∧ after = store := by
  rw [exec_check] at returned
  cases returned
  exact ⟨rfl, rfl⟩

theorem decodePosition_ok {row decoded : PaperPosition}
    (accepted : decodePosition row = .ok decoded) : decoded = row := by
  simp only [decodePosition, bind_eq_ok, pure_eq_ok] at accepted
  grind

theorem decodeRow_ok {row decoded : Option PaperPosition}
    (returned : exec (decodeRow row) store = (.ok decoded, after)) :
    decoded = row ∧ after = store := by
  cases row with
  | none =>
    cases returned
    exact ⟨rfl, rfl⟩
  | some position =>
    simp only [decodeRow, exec_bind_ok, exec_pure] at returned
    obtain ⟨value, middle, checked, finished⟩ := returned
    obtain ⟨accepted, same⟩ := check_ok checked
    cases finished
    exact ⟨by rw [decodePosition_ok accepted], same⟩

theorem findPosition_ok {id : String} (returned : exec (findPosition id) store = (.ok found, after)) :
    after.ledger = store.ledger ∧ found = store.ledger.positions.find? (·.id = id) := by
  simp only [findPosition, exec_bind_ok, exec_get] at returned
  obtain ⟨_, middle, queried, _, _, same, decoded⟩ := returned
  cases same
  obtain ⟨rfl, rfl⟩ := decodeRow_ok decoded
  have unchanged := query_ok queried
  exact ⟨unchanged, by rw [unchanged]⟩

theorem findPosition_some {id : String}
    (returned : exec (findPosition id) store = (.ok (some position), after)) :
    after.ledger = store.ledger ∧ position ∈ store.ledger.positions ∧ position.id = id := by
  obtain ⟨unchanged, found⟩ := findPosition_ok returned
  refine ⟨unchanged, List.mem_of_find?_eq_some found.symm, ?_⟩
  simpa using List.find?_some found.symm

theorem findActivePosition_ok {mint : String} {strategy : PaperStrategyIdentity}
    (returned : exec (findActivePosition mint strategy) store = (.ok found, after)) :
    after.ledger = store.ledger ∧ ∀ position, found = some position →
      position ∈ store.ledger.positions := by
  simp only [findActivePosition, exec_bind_ok, exec_get] at returned
  obtain ⟨_, middle, queried, _, _, same, decoded⟩ := returned
  cases same
  obtain ⟨rfl, rfl⟩ := decodeRow_ok decoded
  have unchanged := query_ok queried
  refine ⟨unchanged, ?_⟩
  intro position found
  rw [← unchanged]
  exact List.mem_of_find?_eq_some found

theorem insertPosition_ok (returned : exec (insertPosition position) store = (.ok u, after)) :
    (∀ row ∈ store.ledger.positions, positionsCollide row position = false) ∧
      after.ledger = { store.ledger with positions := store.ledger.positions ++ [position] } := by
  simp only [insertPosition, exec_bind_ok, exec_get] at returned
  obtain ⟨_, middle, queried, _, _, same, _, _, checked, written⟩ := returned
  cases same
  obtain ⟨accepted, rfl⟩ := check_ok checked
  have fresh := (require_eq_ok.mp accepted).2
  have unchanged := query_ok queried
  rw [unchanged] at fresh
  rw [List.any_eq_false] at fresh
  refine ⟨fun row member => Bool.eq_false_iff.mpr (fresh row member), ?_⟩
  rw [writeLedger_ok written, unchanged]

theorem insertTrade_ok {trade : PaperTrade}
    (returned : exec (insertTrade trade) store = (.ok u, after)) :
    (∀ row ∈ store.ledger.trades, tradesCollide row trade = false) ∧
      after.ledger = { store.ledger with trades := store.ledger.trades ++ [trade] } := by
  simp only [insertTrade, exec_bind_ok, exec_get] at returned
  obtain ⟨_, middle, queried, _, _, same, _, _, checked, written⟩ := returned
  cases same
  obtain ⟨accepted, rfl⟩ := check_ok checked
  have fresh := (require_eq_ok.mp accepted).2.2
  have unchanged := query_ok queried
  rw [unchanged] at fresh
  rw [List.any_eq_false] at fresh
  refine ⟨fun row member => Bool.eq_false_iff.mpr (fresh row member), ?_⟩
  rw [writeLedger_ok written, unchanged]

/-- The positions and trades of two ledgers agree, and no event is lost. -/
structure SameRows (before after : Ledger) : Prop where
  positions : after.positions = before.positions
  trades : after.trades = before.trades
  events : before.events.map (·.id) ⊆ after.events.map (·.id)

theorem SameRows.refl (ledger : Ledger) : SameRows ledger ledger :=
  ⟨rfl, rfl, List.Subset.refl _⟩

theorem insertEvent_ok {event : PaperEvent} {terminalAtMs purgeAfterMs : Option Int}
    (returned : exec (insertEvent event terminalAtMs purgeAfterMs) store = (.ok u, after)) :
    SameRows store.ledger after.ledger ∧ event.id ∈ after.ledger.events.map (·.id) := by
  simp only [insertEvent, exec_bind_ok] at returned
  obtain ⟨_, middle, queried, _, _, checked, written⟩ := returned
  obtain ⟨-, rfl⟩ := check_ok checked
  rw [writeLedger_ok written, query_ok queried]
  split
  · next present =>
      obtain ⟨stored, member, same⟩ := List.any_eq_true.mp present
      exact ⟨SameRows.refl _, List.mem_map.mpr ⟨stored, member, by simpa using same⟩⟩
  · refine ⟨⟨rfl, rfl, ?_⟩, ?_⟩
    · rw [List.map_append]
      exact List.subset_append_left _ _
    · simp

theorem updatePositions_ok {selected : PaperPosition → Bool}
    (returned : exec (updatePositions selected position) store = (.ok u, after)) :
    after.ledger = { store.ledger with
      positions := replaceWhere selected position store.ledger.positions } := by
  simp only [updatePositions, exec_bind_ok, exec_get] at returned
  obtain ⟨_, middle, queried, _, _, same, _, _, checked, written⟩ := returned
  cases same
  obtain ⟨-, rfl⟩ := check_ok checked
  rw [writeLedger_ok written, query_ok queried]

theorem map_id_of_events {events : List PaperEvent} {edit : PaperEvent → PaperEvent}
    (stable : ∀ event, (edit event).id = event.id) :
    (events.map edit).map (·.id) = events.map (·.id) := by
  rw [List.map_map]
  exact List.map_congr_left fun event _ => stable event

theorem markPositionEventsTerminal_ok
    (returned : exec (markPositionEventsTerminal position) store = (.ok u, after)) :
    SameRows store.ledger after.ledger := by
  simp only [markPositionEventsTerminal, exec_bind_ok] at returned
  obtain ⟨_, middle, queried, written⟩ := returned
  rw [writeLedger_ok written, query_ok queried]
  refine ⟨rfl, rfl, ?_⟩
  rw [map_id_of_events]
  · exact List.Subset.refl _
  · intro event
    split <;> rfl

theorem reconcileEventConfirmation_ok {eventId : String} {status : ChainConfirmationStatus}
    {blockchainTimeMs : Option Int} {observedAtMs : Int}
    (returned : exec (reconcileEventConfirmation eventId status blockchainTimeMs observedAtMs) store =
      (.ok u, after)) :
    SameRows store.ledger after.ledger ∧ eventId ∈ store.ledger.events.map (·.id) := by
  simp only [reconcileEventConfirmation, exec_bind_ok, exec_get] at returned
  obtain ⟨_, middle, queried, _, _, same, continued⟩ := returned
  cases same
  split at continued
  · cases continued
  · next event found =>
      simp only [exec_bind_ok] at continued
      obtain ⟨_, _, checked, _, _, queriedAgain, _, _, dates, written⟩ := continued
      obtain ⟨-, rfl⟩ := check_ok checked
      obtain ⟨-, rfl⟩ := check_ok dates
      rw [query_ok queried] at found
      refine ⟨?_, List.mem_map.mpr ⟨event, List.mem_of_find?_eq_some found, ?_⟩⟩
      · rw [writeLedger_ok written, query_ok queriedAgain, query_ok queried]
        refine ⟨rfl, rfl, ?_⟩
        rw [map_id_of_events]
        · exact List.Subset.refl _
        · intro event
          split <;> rfl
      · simpa using List.find?_some found

end Operations

/-! ## What each command writes when it returns -/

/-- What reconciling a stored position can do: observe it, or retract it. -/
inductive ReplayOutcome (engine : Engine) (row : PaperPosition) (before after : Ledger) :
    PaperPosition → Prop where
  | observed (same : SameRows before after) : ReplayOutcome engine row before after row
  | retracted (terminalAtMs : Int) (live : row.status ≠ .PAPER_RETRACTED)
      (positions : after.positions = replaceWhere (fun old => old.id = row.id)
        (retractedPosition engine terminalAtMs row) before.positions)
      (trades : after.trades = before.trades)
      (events : before.events.map (·.id) ⊆ after.events.map (·.id)) :
      ReplayOutcome engine row before after (retractedPosition engine terminalAtMs row)

/-- The ways a returning command writes positions and trades. The last index is the position
it returns. -/
inductive LedgerWrite (engine : Engine) (before after : Ledger) : PaperPosition → Prop where
  | replayed {row position : PaperPosition} (member : row ∈ before.positions)
      (outcome : ReplayOutcome engine row before after position) :
      LedgerWrite engine before after position
  | opened (prepared : PreparedOpen)
      (hashed : hashOpenCommand engine.digest prepared.snapshot = .ok prepared.openCommandHashes)
      (fresh : ∀ row ∈ before.positions,
        positionsCollide row (openedPosition engine prepared) = false)
      (unbought : ∀ row ∈ before.trades, tradesCollide row (openedTrade engine prepared) = false)
      (positions : after.positions = before.positions ++ [openedPosition engine prepared])
      (trades : after.trades = before.trades ++ [openedTrade engine prepared])
      (events : before.events.map (·.id) ⊆ after.events.map (·.id)) :
      LedgerWrite engine before after (openedPosition engine prepared)
  | closed (prepared : PreparedClose) (current : PaperPosition)
      (member : current ∈ before.positions) (held : current.status = .PAPER_HOLDING)
      (unsold : ∀ row ∈ before.trades,
        tradesCollide row (closedTrade engine prepared current) = false)
      (positions : after.positions = replaceWhere
        (fun row => row.id = current.id ∧ row.status = .PAPER_HOLDING)
        (closedPosition engine prepared current) before.positions)
      (trades : after.trades = before.trades ++ [closedTrade engine prepared current])
      (events : before.events.map (·.id) ⊆ after.events.map (·.id)) :
      LedgerWrite engine before after (closedPosition engine prepared current)

variable {engine : Engine} {env : Environment} {returned : PaperPosition}

section Commands

variable {store after : Store}

/-- A step that only touched events can precede an outcome. -/
theorem ReplayOutcome.of_sameRows {row : PaperPosition} {before middle final : Ledger}
    (same : SameRows before middle) (outcome : ReplayOutcome engine row middle final returned) :
    ReplayOutcome engine row before final returned := by
  cases outcome with
  | observed rows =>
    exact .observed ⟨rows.positions.trans same.positions, rows.trades.trans same.trades,
      List.Subset.trans same.events rows.events⟩
  | retracted terminalAtMs live positions trades events =>
    rw [same.positions] at positions
    exact .retracted terminalAtMs live positions (trades.trans same.trades)
      (List.Subset.trans same.events events)

theorem retractPosition_ok {u : Unit}
    (run : exec (retractPosition position) store = (.ok u, after)) :
    after.ledger.positions =
        replaceWhere (fun row => row.id = position.id) position store.ledger.positions ∧
      after.ledger.trades = store.ledger.trades ∧
      store.ledger.events.map (·.id) ⊆ after.ledger.events.map (·.id) := by
  simp only [retractPosition, exec_bind_ok] at run
  obtain ⟨_, middle, updated, marked⟩ := run
  have same := markPositionEventsTerminal_ok marked
  rw [updatePositions_ok updated] at same
  exact ⟨same.positions, same.trades, same.events⟩

theorem retractCurrent_ok
    (run : exec (retractCurrent engine terminalAtMs current) store = (.ok returned, after)) :
    ReplayOutcome engine current store.ledger after.ledger returned := by
  unfold retractCurrent at run
  split at run
  · cases run
    exact .observed (SameRows.refl _)
  · next live =>
      simp only [exec_bind_ok, exec_pure] at run
      obtain ⟨_, _, checked, _, middle, retracted, finished⟩ := run
      obtain ⟨-, rfl⟩ := check_ok checked
      cases finished
      obtain ⟨positions, trades, events⟩ := retractPosition_ok retracted
      exact .retracted terminalAtMs live positions trades events

/-- The end of every reconciliation: retract when the trigger is orphaned. -/
theorem retractIfOrphaned_ok {row : PaperPosition} {middle : Store}
    (same : SameRows store.ledger middle.ledger)
    (run : exec (if trigger.confirmationStatus = .orphaned
      then retractCurrent engine terminalAtMs row else return row) middle = (.ok returned, after)) :
    ReplayOutcome engine row store.ledger after.ledger returned ∧
      (trigger.confirmationStatus ≠ .orphaned →
        returned = row ∧ SameRows store.ledger after.ledger) := by
  split at run
  · next orphaned =>
      exact ⟨(retractCurrent_ok run).of_sameRows same, fun live => absurd orphaned live⟩
  · cases run
    exact ⟨.observed same, fun _ => ⟨rfl, same⟩⟩

/-- A stored position accepts the replay of an open command. -/
def AcceptsOpen (row : PaperPosition) (hashes : OpenCommandHashes) (entryDecisionAtMs : Option Int)
    (entryDecisionJobId : Option String) : Prop :=
  matchesOpenCommandHash row hashes = true ∧
    ¬ (row.entryDecisionAtMs ≠ none ∧ (row.entryDecisionAtMs ≠ entryDecisionAtMs ∨
      row.entryDecisionJobId ≠ entryDecisionJobId))

/-- A replay either observes the stored position or retracts it. -/
theorem reconcileOpenReplay_ok {hashes : OpenCommandHashes} {entryDecisionAtMs : Option Int}
    {entryDecisionJobId : Option String}
    (run : exec (reconcileOpenReplay engine terminalAtMs position hashes trigger
      entryDecisionAtMs entryDecisionJobId) store = (.ok returned, after)) :
    AcceptsOpen position hashes entryDecisionAtMs entryDecisionJobId ∧
      paperEventId engine.digest .PaperPositionOpened position.id position.entryTradeId trigger.id ∈
        store.ledger.events.map (·.id) ∧
      ReplayOutcome engine position store.ledger after.ledger returned ∧
      (trigger.confirmationStatus ≠ .orphaned →
        returned = position ∧ SameRows store.ledger after.ledger) := by
  simp only [reconcileOpenReplay, exec_bind_ok] at run
  obtain ⟨_, _, hashed, _, _, decided, _, middle, reconciled, finished⟩ := run
  obtain ⟨hashOk, rfl⟩ := check_ok hashed
  obtain ⟨decisionOk, rfl⟩ := check_ok decided
  obtain ⟨same, recorded⟩ := reconcileEventConfirmation_ok reconciled
  exact ⟨⟨require_eq_ok.mp hashOk, require_eq_ok.mp decisionOk⟩, recorded,
    retractIfOrphaned_ok same finished⟩

theorem insertPrepared_ok
    (hashed : hashOpenCommand engine.digest prepared.snapshot = .ok prepared.openCommandHashes)
    (run : exec (insertPrepared engine prepared) store = (.ok returned, after)) :
    LedgerWrite engine store.ledger after.ledger returned ∧
      (∀ row ∈ store.ledger.positions, row.id ≠ prepared.positionId) ∧
      returned = openedPosition engine prepared ∧
      openedPosition engine prepared ∈ after.ledger.positions ∧
      paperEventId engine.digest .PaperPositionOpened prepared.positionId
          (openedTrade engine prepared).id prepared.snapshot.trigger.id ∈
        after.ledger.events.map (·.id) := by
  simp only [insertPrepared, insertOpened, exec_bind_ok, exec_pure] at run
  obtain ⟨_, _, checked, _, _, ⟨_, positioned, positionRun, _, traded, tradeRun, eventRun⟩,
    finished⟩ := run
  obtain ⟨-, rfl⟩ := check_ok checked
  cases finished
  obtain ⟨fresh, positionWritten⟩ := insertPosition_ok positionRun
  obtain ⟨unbought, tradeWritten⟩ := insertTrade_ok tradeRun
  obtain ⟨same, recorded⟩ := insertEvent_ok eventRun
  obtain ⟨positionsSame, tradesSame, eventsKept⟩ := same
  rw [tradeWritten, positionWritten] at positionsSame tradesSame eventsKept
  rw [positionWritten] at unbought
  refine ⟨.opened prepared hashed fresh unbought positionsSame tradesSame eventsKept, ?_, rfl, ?_,
    recorded⟩
  · intro row member same
    have apart := fresh row member
    simp [positionsCollide, openedPosition, same] at apart
  · rw [positionsSame]
    exact List.mem_append_right _ (List.mem_singleton_self _)

theorem requireExpectedQualification_ok {u : Unit}
    {expected : Option PaperCurrentQualificationIdentity}
    (run : exec (requireExpectedQualification env expected) store = (.ok u, after)) :
    after.ledger = store.ledger := by
  cases expected with
  | none =>
    cases run
    rfl
  | some identity =>
    simp only [requireExpectedQualification, requireCurrentQualification, exec_bind_ok] at run
    obtain ⟨_, _, queried, checked⟩ := run
    obtain ⟨-, rfl⟩ := check_ok checked
    exact query_ok queried

/-- A returning open transaction replayed a stored position with its id, or inserted one. -/
theorem openTransaction_cases
    (run : exec (openTransaction engine env prepared) store = (.ok returned, after)) :
    ∃ middle : Store, middle.ledger = store.ledger ∧
      ((∃ row ∈ store.ledger.positions, row.id = prepared.positionId ∧
          exec (replayPrepared engine (env.clock 1) prepared row) middle = (.ok returned, after)) ∨
        exec (insertPrepared engine prepared) middle = (.ok returned, after)) := by
  simp only [openTransaction, exec_bind_ok] at run
  obtain ⟨_, gated, gate, existing, looked, lookup, continued⟩ := run
  have gatedSame := requireExpectedQualification_ok gate
  have lookedSame : looked.ledger = store.ledger := (findPosition_ok lookup).1.trans gatedSame
  split at continued
  · obtain ⟨-, member, identity⟩ := findPosition_some lookup
    exact ⟨looked, lookedSame, .inl ⟨_, gatedSame ▸ member, identity, continued⟩⟩
  · simp only [exec_bind_ok] at continued
    obtain ⟨active, searched, search, continued⟩ := continued
    obtain ⟨searchSame, activeMember⟩ := findActivePosition_ok search
    have searchedSame : searched.ledger = store.ledger := searchSame.trans lookedSame
    split at continued
    · next position =>
        split at continued
        · next replays =>
            exact ⟨searched, searchedSame,
              .inl ⟨position, lookedSame ▸ activeMember position rfl, replays.1, continued⟩⟩
        · cases continued
    · simp only [exec_bind_ok] at continued
      obtain ⟨again, final, lookupAgain, continued⟩ := continued
      have finalSame : final.ledger = store.ledger :=
        (findPosition_ok lookupAgain).1.trans searchedSame
      split at continued
      · obtain ⟨-, member, identity⟩ := findPosition_some lookupAgain
        exact ⟨final, finalSame, .inl ⟨_, searchedSame ▸ member, identity, continued⟩⟩
      · exact ⟨final, finalSame, .inr continued⟩

theorem openTransaction_ok
    (hashed : hashOpenCommand engine.digest prepared.snapshot = .ok prepared.openCommandHashes)
    (run : exec (openTransaction engine env prepared) store = (.ok returned, after)) :
    LedgerWrite engine store.ledger after.ledger returned := by
  obtain ⟨middle, same, ⟨row, member, -, replayed⟩ | inserted⟩ := openTransaction_cases run
  · rw [← same] at member ⊢
    exact .replayed member (reconcileOpenReplay_ok replayed).2.2.1
  · rw [← same]
    exact (insertPrepared_ok hashed inserted).1

/-- A transaction that finds its position and then replays it. -/
theorem found_replayed {id : String} {replay : PaperPosition → PaperTx PaperPosition}
    (run : exec (do match ← findPosition id with
      | none => throw positionNotFound
      | some row => replay row) store = (.ok returned, after))
    (outcome : ∀ {row middle}, exec (replay row) middle = (.ok returned, after) →
      ReplayOutcome engine row middle.ledger after.ledger returned) :
    LedgerWrite engine store.ledger after.ledger returned := by
  simp only [exec_bind_ok] at run
  obtain ⟨existing, looked, lookup, continued⟩ := run
  split at continued
  · cases continued
  · obtain ⟨same, member, -⟩ := findPosition_some lookup
    rw [← same]
    exact .replayed (same ▸ member) (outcome continued)

theorem reconcileOpenTransaction_ok
    (run : exec (reconcileOpenTransaction engine env prepared) store = (.ok returned, after)) :
    LedgerWrite engine store.ledger after.ledger returned := by
  exact found_replayed run fun replayed => (reconcileOpenReplay_ok replayed).2.2.1

/-- A stored position accepts the replay of a close command. -/
def AcceptsClose (row : PaperPosition) (closeCommandHash : String) (exitTriggerAtMs : Option Int) :
    Prop :=
  row.closeCommandHash = some closeCommandHash ∧
    ¬ (row.exitTriggerAtMs ≠ none ∧ row.exitTriggerAtMs ≠ exitTriggerAtMs)

theorem replayClose_ok {prepared : PreparedClose}
    (run : exec (replayClose engine env prepared current) store = (.ok returned, after)) :
    AcceptsClose current prepared.closeCommandHash prepared.snapshot.exitTriggerAtMs ∧
      (∃ exitTradeId, current.exitTradeId = some exitTradeId ∧
        current.closeEventId.getD (paperEventId engine.digest .PaperPositionClosed current.id
            exitTradeId prepared.snapshot.trigger.id) ∈ store.ledger.events.map (·.id)) ∧
      ReplayOutcome engine current store.ledger after.ledger returned ∧
      (prepared.snapshot.trigger.confirmationStatus ≠ .orphaned →
        returned = current ∧ SameRows store.ledger after.ledger) := by
  simp only [replayClose, exec_bind_ok] at run
  obtain ⟨_, _, hashed, continued⟩ := run
  obtain ⟨hashOk, rfl⟩ := check_ok hashed
  split at continued
  · cases continued
  · next exitTradeId sold =>
      simp only [exec_bind_ok] at continued
      obtain ⟨_, _, triggered, _, middle, reconciled, finished⟩ := continued
      obtain ⟨triggerOk, rfl⟩ := check_ok triggered
      obtain ⟨same, recorded⟩ := reconcileEventConfirmation_ok reconciled
      exact ⟨⟨require_eq_ok.mp hashOk, require_eq_ok.mp triggerOk⟩, ⟨exitTradeId, sold, recorded⟩,
        retractIfOrphaned_ok same finished⟩

theorem closeHeld_ok {prepared : PreparedClose} (member : current ∈ store.ledger.positions)
    (held : current.status = .PAPER_HOLDING)
    (run : exec (closeHeld engine prepared current) store = (.ok returned, after)) :
    LedgerWrite engine store.ledger after.ledger returned ∧
      returned = closedPosition engine prepared current ∧
      closedPosition engine prepared current ∈ after.ledger.positions ∧
      ∃ closeEventId, returned.closeEventId = some closeEventId ∧
        closeEventId ∈ after.ledger.events.map (·.id) := by
  simp only [closeHeld, updateClosed, exec_bind_ok, exec_pure] at run
  obtain ⟨_, _, checked, _, _, ⟨_, recorded, eventRun, _, updated, updateRun, _, traded, tradeRun,
    markRun⟩, finished⟩ := run
  obtain ⟨-, rfl⟩ := check_ok checked
  cases finished
  obtain ⟨eventSame, eventStored⟩ := insertEvent_ok eventRun
  have positionsWritten := updatePositions_ok updateRun
  obtain ⟨unsold, tradeWritten⟩ := insertTrade_ok tradeRun
  obtain ⟨markPositions, markTrades, markEvents⟩ := markPositionEventsTerminal_ok markRun
  rw [tradeWritten, positionsWritten] at markPositions markTrades markEvents
  simp only [eventSame.positions, eventSame.trades] at markPositions markTrades
  rw [positionsWritten] at unsold
  simp only [eventSame.trades] at unsold
  refine ⟨.closed prepared current member held unsold markPositions markTrades
    (List.Subset.trans eventSame.events markEvents), rfl, ?_, _, rfl, markEvents eventStored⟩
  rw [markPositions]
  exact mem_replaceWhere_of_selected member (by simp [held, closedPosition])

/-- A returning close transaction found the position and replayed or closed it. -/
theorem closeTransaction_cases {prepared : PreparedClose}
    (run : exec (closeTransaction engine env prepared) store = (.ok returned, after)) :
    ∃ current ∈ store.ledger.positions, current.id = prepared.snapshot.positionId ∧
      ∃ middle : Store, middle.ledger = store.ledger ∧
        ((current.status ≠ .PAPER_HOLDING ∧
            exec (replayClose engine env prepared current) middle = (.ok returned, after)) ∨
          (current.status = .PAPER_HOLDING ∧
            exec (closeHeld engine prepared current) middle = (.ok returned, after))) := by
  simp only [closeTransaction, exec_bind_ok] at run
  obtain ⟨existing, looked, lookup, continued⟩ := run
  split at continued
  · cases continued
  · next current =>
      obtain ⟨same, member, identity⟩ := findPosition_some lookup
      refine ⟨current, member, identity, looked, same, ?_⟩
      split at continued
      · next settled => exact .inl ⟨settled, continued⟩
      · next held => exact .inr ⟨not_not.mp held, continued⟩

theorem closeTransaction_ok {prepared : PreparedClose}
    (run : exec (closeTransaction engine env prepared) store = (.ok returned, after)) :
    LedgerWrite engine store.ledger after.ledger returned := by
  obtain ⟨current, member, -, middle, same, ⟨-, replayed⟩ | ⟨held, closed⟩⟩ :=
    closeTransaction_cases run
  · rw [← same] at member ⊢
    exact .replayed member (replayClose_ok replayed).2.2.1
  · rw [← same] at member ⊢
    exact (closeHeld_ok member held closed).1

theorem reconcileCloseTransaction_ok {positionId : String}
    (run : exec (reconcileCloseTransaction engine env positionId trigger) store =
      (.ok returned, after)) :
    LedgerWrite engine store.ledger after.ledger returned := by
  refine found_replayed run fun {row middle} continued => ?_
  split at continued
  · cases continued
    exact .observed (SameRows.refl _)
  · split at continued
    · simp only [exec_bind_ok] at continued
      obtain ⟨_, _, matched, _, _, reconciled, finished⟩ := continued
      obtain ⟨-, rfl⟩ := check_ok matched
      exact (retractIfOrphaned_ok (reconcileEventConfirmation_ok reconciled).1 finished).1
    · cases continued

theorem retractTransaction_ok {positionId : String}
    (run : exec (retractTransaction engine env positionId) store = (.ok returned, after)) :
    LedgerWrite engine store.ledger after.ledger returned := by
  exact found_replayed run retractCurrent_ok

end Commands

/-! ## Commands and runs -/

section Runs

variable {ledger after : Ledger}

/-- A command ends with its checks, or as the transaction of its body and its commit does. -/
theorem runCommand_cases {result : Checked PaperPosition}
    (run : runCommand env checks body ledger = (result, after)) :
    (∃ error, result = .error error ∧ after = ledger) ∨
      ∃ prepared store, checks = .ok prepared ∧
        transact (do let value ← body prepared; query; return value) ⟨ledger, env.queriesLeft⟩ =
          (result, store) ∧ after = store.ledger := by
  unfold runCommand at run
  split at run
  · next error =>
      cases run
      exact .inl ⟨error, rfl, rfl⟩
  · next prepared =>
      simp only [transactPaper, Prod.mk.injEq] at run
      exact .inr ⟨prepared, _, rfl, Prod.ext run.1 rfl, run.2.symm⟩

/-- A command that returns ran its checks and then its whole transaction body. -/
theorem runCommand_ok (run : runCommand env checks body ledger = (.ok returned, after)) :
    ∃ prepared final, checks = .ok prepared ∧
      exec (body prepared) ⟨ledger, env.queriesLeft⟩ = (.ok returned, final) ∧
      after = final.ledger := by
  rcases runCommand_cases run with ⟨_, failed, -⟩ | ⟨prepared, store, checked, ran, rfl⟩
  · cases failed
  · have executed := transact_ok.mp ran
    simp only [exec_bind_ok, exec_pure] at executed
    obtain ⟨value, final, bodyRun, _, _, committed, finished⟩ := executed
    cases finished
    exact ⟨prepared, final, checked, bodyRun, query_ok committed⟩

theorem runCommand_error {error : PaperError}
    (run : runCommand env checks body ledger = (.error error, after)) :
    after = ledger := by
  rcases runCommand_cases run with ⟨_, -, same⟩ | ⟨prepared, store, -, ran, rfl⟩
  · exact same
  · rw [transact_error ran]

theorem prepareOpen_ok {snapshot : OpenPaperPositionCommand} {openedAtMs : Int}
    (accepted : prepareOpen engine snapshot openedAtMs = .ok prepared) :
    prepared.snapshot = snapshot ∧ prepared.positionId = openPositionId engine snapshot ∧
      hashOpenCommand engine.digest prepared.snapshot = .ok prepared.openCommandHashes := by
  simp only [prepareOpen, bind_eq_ok, pure_eq_ok] at accepted
  obtain ⟨_, _, _, _, _, _, _, _, hashes, hashed, rfl⟩ := accepted
  exact ⟨rfl, rfl, hashed⟩

theorem openChecks_ok {command : OpenPaperPositionCommand}
    (accepted : openChecks engine env command = .ok prepared) :
    snapshotOpenCommand command command.trigger = .ok prepared.snapshot ∧
      prepared.positionId = openPositionId engine prepared.snapshot ∧
      hashOpenCommand engine.digest prepared.snapshot = .ok prepared.openCommandHashes := by
  simp only [openChecks, snapshotTrigger, bind_eq_ok, pure_eq_ok] at accepted
  obtain ⟨_, _, _, ⟨_, _, _, _, _, _, rfl⟩, _, _, snapshot, snapshotted, _, _, prepares⟩ := accepted
  obtain ⟨rfl, identity, hashed⟩ := prepareOpen_ok prepares
  exact ⟨snapshotted, identity, hashed⟩

theorem execute_writes {command : PaperCommand}
    (run : execute engine env ledger command = (.ok returned, after)) :
    LedgerWrite engine ledger after returned := by
  cases command with
  | «open» command =>
    obtain ⟨_, _, checks, body, rfl⟩ := runCommand_ok run
    exact openTransaction_ok (openChecks_ok checks).2.2 body
  | reconcileOpen command =>
    obtain ⟨_, _, -, body, rfl⟩ := runCommand_ok run
    exact reconcileOpenTransaction_ok body
  | close command =>
    obtain ⟨_, _, -, body, rfl⟩ := runCommand_ok run
    exact closeTransaction_ok body
  | reconcileClose positionId trigger =>
    obtain ⟨_, _, -, body, rfl⟩ := runCommand_ok run
    exact reconcileCloseTransaction_ok body
  | retract positionId trigger =>
    obtain ⟨_, _, -, body, rfl⟩ := runCommand_ok run
    exact retractTransaction_ok body

theorem execute_error {command : PaperCommand} {error : PaperError}
    (run : execute engine env ledger command = (.error error, after)) : after = ledger := by
  cases command <;> exact runCommand_error run

theorem execute_cases (command : PaperCommand) :
    (∃ error, execute engine env ledger command = (.error error, ledger)) ∨
      ∃ returned after, execute engine env ledger command = (.ok returned, after) := by
  cases run : execute engine env ledger command with
  | mk result after =>
    cases result with
    | error error => exact .inl ⟨error, by rw [execute_error run]⟩
    | ok returned => exact .inr ⟨returned, after, rfl⟩

end Runs

/-! ## The life of one row -/

/-- What one command can do to a stored position; a close leaves its SELL in `trades`. -/
inductive RowStep (engine : Engine) (trades : List PaperTrade) (row : PaperPosition) :
    PaperPosition → Prop where
  | kept : RowStep engine trades row row
  | closed (prepared : PreparedClose) (held : row.status = .PAPER_HOLDING)
      (sold : closedTrade engine prepared row ∈ trades) :
      RowStep engine trades row (closedPosition engine prepared row)
  | retracted (terminalAtMs : Int) (live : row.status ≠ .PAPER_RETRACTED) :
      RowStep engine trades row (retractedPosition engine terminalAtMs row)

/-- The status changes the ledger allows. -/
inductive StatusMove : PaperPositionStatus → PaperPositionStatus → Prop where
  | closed : StatusMove .PAPER_HOLDING .PAPER_CLOSED
  | retractedHolding : StatusMove .PAPER_HOLDING .PAPER_RETRACTED
  | retractedClosed : StatusMove .PAPER_CLOSED .PAPER_RETRACTED

section Rows

variable {before after : Ledger} {row next : PaperPosition} {trades : List PaperTrade}

theorem RowStep.id_eq (step : RowStep engine trades row next) : next.id = row.id := by
  cases step <;> rfl

theorem RowStep.status (step : RowStep engine trades row next) :
    next.status = row.status ∨ StatusMove row.status next.status := by
  cases step with
  | kept => exact .inl rfl
  | closed prepared held sold =>
    right
    rw [held]
    exact .closed
  | retracted terminalAtMs live =>
    right
    change StatusMove row.status .PAPER_RETRACTED
    cases status : row.status with
    | PAPER_HOLDING => exact .retractedHolding
    | PAPER_CLOSED => exact .retractedClosed
    | PAPER_RETRACTED => exact absurd status live

theorem ReplayOutcome.rowStep (outcome : ReplayOutcome engine row before after returned) :
    RowStep engine trades row returned := by
  cases outcome with
  | observed same => exact .kept
  | retracted terminalAtMs live positions trades events => exact .retracted terminalAtMs live

theorem ReplayOutcome.returned_mem (member : row ∈ before.positions)
    (outcome : ReplayOutcome engine row before after returned) : returned ∈ after.positions := by
  cases outcome with
  | observed same =>
    rw [same.positions]
    exact member
  | retracted terminalAtMs live positions trades events =>
    rw [positions]
    exact mem_replaceWhere_of_selected member (by simp)

section Written

variable (write : LedgerWrite engine before after returned)

include write

/-- A row found after a command stepped from a row found before it, or was just opened. -/
theorem row_origin (member : next ∈ after.positions) :
    (∃ row ∈ before.positions, RowStep engine after.trades row next) ∨
      (next = returned ∧ ∃ prepared, next = openedPosition engine prepared ∧
        openedTrade engine prepared ∈ after.trades ∧
        hashOpenCommand engine.digest prepared.snapshot = .ok prepared.openCommandHashes ∧
        ∀ old ∈ before.positions, positionsCollide old next = false) := by
  cases write with
  | replayed rowMember outcome =>
    left
    cases outcome with
    | observed same =>
      rw [same.positions] at member
      exact ⟨next, member, .kept⟩
    | retracted terminalAtMs live positions trades events =>
      rw [positions] at member
      rcases mem_replaceWhere member with ⟨old, -⟩ | ⟨rfl, -⟩
      · exact ⟨next, old, .kept⟩
      · exact ⟨_, rowMember, .retracted terminalAtMs live⟩
  | opened prepared hashed fresh unbought positions trades events =>
    rw [positions, List.mem_append, List.mem_singleton] at member
    rcases member with old | rfl
    · exact .inl ⟨next, old, .kept⟩
    · right
      refine ⟨rfl, prepared, rfl, ?_, hashed, fresh⟩
      rw [trades]
      exact List.mem_append_right _ (List.mem_singleton_self _)
  | closed prepared current rowMember held unsold positions trades events =>
    left
    rw [positions] at member
    rcases mem_replaceWhere member with ⟨old, -⟩ | ⟨rfl, -⟩
    · exact ⟨next, old, .kept⟩
    · refine ⟨current, rowMember, .closed prepared held ?_⟩
      rw [trades]
      exact List.mem_append_right _ (List.mem_singleton_self _)

/-- Trades are only ever added, each with a key no earlier trade has. -/
theorem trades_after :
    after.trades = before.trades ∨ ∃ trade, after.trades = before.trades ++ [trade] ∧
      ∀ old ∈ before.trades, tradesCollide old trade = false := by
  cases write with
  | replayed member outcome =>
    cases outcome with
    | observed same => exact .inl same.trades
    | retracted terminalAtMs live positions trades events => exact .inl trades
  | opened prepared hashed fresh unbought positions trades events =>
    exact .inr ⟨_, trades, unbought⟩
  | closed prepared current member held unsold positions trades events =>
    exact .inr ⟨_, trades, unsold⟩

theorem trades_subset {trade : PaperTrade}
    (member : trade ∈ before.trades) : trade ∈ after.trades := by
  rcases trades_after write with same | ⟨added, appended, -⟩
  · rwa [same]
  · rw [appended]
    exact List.mem_append_left _ member

/-- A command keeps the list of position ids, or appends one row with a new id. -/
theorem identities_cases : after.positions.map (·.id) = before.positions.map (·.id) ∨
      ∃ position, after.positions = before.positions ++ [position] ∧
        ∀ row ∈ before.positions, row.id ≠ position.id := by
  cases write with
  | replayed member outcome =>
    left
    cases outcome with
    | observed same => rw [same.positions]
    | retracted terminalAtMs live positions trades events =>
      rw [positions, keys_replaceWhere]
      intro row _ chosen
      simp only [decide_eq_true_eq] at chosen
      exact chosen
  | opened prepared hashed fresh unbought positions trades events =>
    right
    refine ⟨_, positions, ?_⟩
    intro row member sameId
    have apart := fresh row member
    simp [positionsCollide, sameId] at apart
  | closed prepared current member held unsold positions trades events =>
    left
    rw [positions, keys_replaceWhere]
    intro row _ chosen
    simp only [decide_eq_true_eq] at chosen
    exact chosen.1

end Written

theorem identities_after (distinct : (before.positions.map (·.id)).Nodup)
    (write : LedgerWrite engine before after returned) : (after.positions.map (·.id)).Nodup := by
  rcases identities_cases write with same | ⟨position, appended, fresh⟩
  · rw [same]
    exact distinct
  · rw [appended]
    exact keys_append_nodup _ distinct fresh

/-- Every stored position survives a command, changed in at most one of the two ways. -/
theorem rowStep_after (distinct : (before.positions.map (·.id)).Nodup)
    (write : LedgerWrite engine before after returned) (member : row ∈ before.positions) :
    ∃ next ∈ after.positions, RowStep engine after.trades row next := by
  have survives : row.id ∈ after.positions.map (·.id) := by
    rcases identities_cases write with same | ⟨position, appended, -⟩
    · rw [same]
      exact List.mem_map_of_mem member
    · rw [appended, List.map_append]
      exact List.mem_append_left _ (List.mem_map_of_mem member)
  -- The survivor's origin carries the same id, so it is `row` itself.
  obtain ⟨next, nextMember, sameId⟩ := List.mem_map.mp survives
  refine ⟨next, nextMember, ?_⟩
  rcases row_origin write nextMember with ⟨old, oldMember, step⟩ | ⟨-, prepared, -, -, -, fresh⟩
  · have same : old = row :=
      List.inj_on_of_nodup_map distinct oldMember member (step.id_eq.symm.trans sameId)
    exact same ▸ step
  · have apart := fresh row member
    simp [positionsCollide, sameId] at apart

end Rows

/-! ## The ledger invariant -/

def tradeKey (trade : PaperTrade) : String × PaperTradeSide := (trade.positionId, trade.side)

/-- A SELL trade of the position that accounts for its net result. -/
def SettledBy (position : PaperPosition) (trade : PaperTrade) : Prop :=
  tradeKey trade = (position.id, .SELL) ∧
    position.netPnlQuoteRaw = some (trade.quote.minimumAmountOutRaw - position.quoteCostRaw)

structure LedgerInvariant (ledger : Ledger) : Prop where
  identities : (ledger.positions.map (·.id)).Nodup
  held : ∀ left ∈ ledger.positions, ∀ right ∈ ledger.positions,
    left.status = .PAPER_HOLDING → right.status = .PAPER_HOLDING → left.mint = right.mint →
      left.strategy = right.strategy → left.id = right.id
  tradeKeys : (ledger.trades.map tradeKey).Nodup
  bought : ∀ position ∈ ledger.positions, ∃ trade ∈ ledger.trades, tradeKey trade = (position.id, .BUY)
  settled : ∀ position ∈ ledger.positions, position.status = .PAPER_CLOSED →
    position.remainingBaseRaw = 0 ∧ ∃ trade ∈ ledger.trades, SettledBy position trade

theorem ledgerInvariant_empty : LedgerInvariant .empty := by
  constructor <;> simp [Ledger.empty]

section Preservation

variable {before after : Ledger}

/-- A row that is held afterwards was already in the ledger, or is the one just opened. -/
theorem held_origin (write : LedgerWrite engine before after returned) {row : PaperPosition}
    (member : row ∈ after.positions) (holding : row.status = .PAPER_HOLDING) :
    row ∈ before.positions ∨
      (row = returned ∧ ∀ old ∈ before.positions, positionsCollide old row = false) := by
  rcases row_origin write member with ⟨old, oldMember, step⟩ | ⟨same, _, -, -, -, fresh⟩
  · cases step with
    | kept => exact .inl oldMember
    | closed prepared held sold => cases holding
    | retracted terminalAtMs live => cases holding
  · exact .inr ⟨same, fresh⟩

section Kept

variable (invariant : LedgerInvariant before)

include invariant

theorem held_after (write : LedgerWrite engine before after returned) :
    ∀ left ∈ after.positions, ∀ right ∈ after.positions,
      left.status = .PAPER_HOLDING → right.status = .PAPER_HOLDING → left.mint = right.mint →
        left.strategy = right.strategy → left.id = right.id := by
  intro left leftMember right rightMember leftHeld rightHeld mint strategy
  rcases held_origin write leftMember leftHeld with leftOld | ⟨leftNew, leftFresh⟩
  · rcases held_origin write rightMember rightHeld with rightOld | ⟨-, rightFresh⟩
    · exact invariant.held left leftOld right rightOld leftHeld rightHeld mint strategy
    · have apart := rightFresh left leftOld
      simp [positionsCollide, leftHeld, rightHeld, mint, strategy] at apart
  · rcases held_origin write rightMember rightHeld with rightOld | ⟨rightNew, -⟩
    · have apart := leftFresh right rightOld
      simp [positionsCollide, leftHeld, rightHeld, mint, strategy] at apart
    · rw [leftNew, rightNew]

theorem tradeKeys_after (write : LedgerWrite engine before after returned) : (after.trades.map tradeKey).Nodup := by
  rcases trades_after write with same | ⟨added, appended, fresh⟩
  · rw [same]
    exact invariant.tradeKeys
  · rw [appended]
    apply keys_append_nodup _ invariant.tradeKeys
    intro old member sameKey
    have apart := fresh old member
    simp only [tradeKey, Prod.mk.injEq] at sameKey
    simp [tradesCollide, sameKey.1, sameKey.2] at apart

theorem bought_after (write : LedgerWrite engine before after returned) :
    ∀ position ∈ after.positions, ∃ trade ∈ after.trades, tradeKey trade = (position.id, .BUY) := by
  intro position member
  rcases row_origin write member with ⟨old, oldMember, step⟩ | ⟨-, prepared, rfl, bought, -, -⟩
  · obtain ⟨trade, tradeMember, key⟩ := invariant.bought old oldMember
    exact ⟨trade, trades_subset write tradeMember, by rw [key, step.id_eq]⟩
  · exact ⟨openedTrade engine prepared, bought, rfl⟩

theorem settled_after (write : LedgerWrite engine before after returned) :
    ∀ position ∈ after.positions, position.status = .PAPER_CLOSED →
      position.remainingBaseRaw = 0 ∧ ∃ trade ∈ after.trades, SettledBy position trade := by
  intro position member status
  rcases row_origin write member with ⟨old, oldMember, step⟩ | ⟨-, prepared, rfl, -, -, -⟩
  · cases step with
    | kept =>
      obtain ⟨empty, trade, tradeMember, settles⟩ := invariant.settled position oldMember status
      exact ⟨empty, trade, trades_subset write tradeMember, settles⟩
    | closed prepared held sold => exact ⟨rfl, closedTrade engine prepared old, sold, rfl, rfl⟩
    | retracted terminalAtMs live => cases status
  · cases status

theorem ledgerInvariant_after (write : LedgerWrite engine before after returned) : LedgerInvariant after where
  identities := identities_after invariant.identities write
  held := held_after invariant write
  tradeKeys := tradeKeys_after invariant write
  bought := bought_after invariant write
  settled := settled_after invariant write

end Kept

end Preservation

/-! ## Whole runs -/

theorem ledgerInvariant_execute {ledger : Ledger} (invariant : LedgerInvariant ledger)
    (command : PaperCommand) :
    LedgerInvariant (execute engine env ledger command).2 := by
  rcases execute_cases command with ⟨error, run⟩ | ⟨returned, after, run⟩ <;> rw [run]
  · exact invariant
  · exact ledgerInvariant_after invariant (execute_writes run)

theorem ledgerInvariant_run (engine : Engine) (commands : List (Environment × PaperCommand)) :
    ∀ {ledger : Ledger}, LedgerInvariant ledger →
      LedgerInvariant (runCommands engine ledger commands) := by
  induction commands with
  | nil => exact fun invariant => invariant
  | cons entry rest ih =>
    intro ledger invariant
    exact ih (ledgerInvariant_execute invariant entry.2)

def tradeCount (ledger : Ledger) (position : PaperPosition) (side : PaperTradeSide) : Nat :=
  (ledger.trades.filter fun trade => tradeKey trade = (position.id, side)).length

/-- Paper ledger safety, over every sequence of commands from the empty ledger and for every
next command. -/
theorem paperLedger_safe (engine : Engine) (commands : List (Environment × PaperCommand)) :
    let ledger := runCommands engine .empty commands
    (ledger.positions.map (·.id)).Nodup ∧
    (∀ left ∈ ledger.positions, ∀ right ∈ ledger.positions,
      left.status = .PAPER_HOLDING → right.status = .PAPER_HOLDING → left.mint = right.mint →
        left.strategy = right.strategy → left = right) ∧
    (∀ position ∈ ledger.positions,
      tradeCount ledger position .BUY = 1 ∧ tradeCount ledger position .SELL ≤ 1) ∧
    (∀ position ∈ ledger.positions, position.status = .PAPER_CLOSED →
      position.remainingBaseRaw = 0 ∧ ∃ trade ∈ ledger.trades, SettledBy position trade) ∧
    ∀ env command,
      (∀ row ∈ ledger.positions, ∃ next ∈ (execute engine env ledger command).2.positions,
        next.id = row.id ∧ (next.status = row.status ∨ StatusMove row.status next.status)) ∧
      (∀ next ∈ (execute engine env ledger command).2.positions,
        (∃ row ∈ ledger.positions, row.id = next.id) ∨ next.status = .PAPER_HOLDING) ∧
      (∀ error, (execute engine env ledger command).1 = .error error →
        (execute engine env ledger command).2 = ledger) := by
  intro ledger
  have invariant : LedgerInvariant ledger := ledgerInvariant_run engine commands ledgerInvariant_empty
  refine ⟨invariant.identities, ?_, ?_, invariant.settled, ?_⟩
  · intro left leftMember right rightMember leftHeld rightHeld mint strategy
    exact List.inj_on_of_nodup_map invariant.identities leftMember rightMember
      (invariant.held left leftMember right rightMember leftHeld rightHeld mint strategy)
  · intro position member
    refine ⟨?_, filter_key_length_le_one tradeKey invariant.tradeKeys _⟩
    obtain ⟨trade, tradeMember, key⟩ := invariant.bought position member
    rw [tradeCount, ← key]
    exact filter_key_length_eq_one tradeKey invariant.tradeKeys tradeMember
  · intro env command
    rcases execute_cases command with ⟨error, run⟩ | ⟨returned, after, run⟩ <;> rw [run]
    · exact ⟨fun row member => ⟨row, member, rfl, .inl rfl⟩,
        fun next member => .inl ⟨next, member, rfl⟩, fun _ _ => rfl⟩
    · have write := execute_writes run
      refine ⟨?_, ?_, fun error threw => ?_⟩
      · intro row member
        obtain ⟨next, nextMember, step⟩ := rowStep_after invariant.identities write member
        exact ⟨next, nextMember, step.id_eq, step.status⟩
      · intro next member
        rcases row_origin write member with ⟨row, rowMember, step⟩ | ⟨-, prepared, rfl, -⟩
        · exact .inl ⟨row, rowMember, step.id_eq.symm⟩
        · exact .inr rfl
      · cases threw

end SolTokenListener.Guarantees.PaperLedger
