import SolTokenListener.Lib.Interleaving
import SolTokenListener.Source.JitoEngine

/-!
# Runs of the JitoSOL bot

One engine runs tick after tick on one journal. A tick may stop for good at any call; the next
tick then starts from the journal alone. Saving is atomic, but a save that was applied may still
be reported as failed. The gateway, the stop file and the clock answer anything, and every tick
may run under another configuration. `randomUUID` is a stream of distinct ids.
-/

namespace SolTokenListener.Guarantees.JitoRuns

open Lib.Checked Lib.AsyncProgram
open Lib.Interleaving
open Source.Chain Source.JitoConfig Source.JitoJournal
open Source.JitoEngine

/-! ## Runs -/

structure UuidStream where
  draw : Nat → String
  distinct : Function.Injective draw

/-- One call of `gateway.broadcast`, with the position the journal held. -/
structure BroadcastRecord where
  positionId : Option String
  transaction : PendingTransaction

/-- The durable journal, the broadcasts made so far, and how many ids were drawn. -/
structure JitoWorld where
  journal : Option JournalState
  broadcasts : List BroadcastRecord
  drawn : Nat

inductive SaveOutcome where
  | refused (message : String)
  | stored
  | storedThenThrew (message : String)

/-- Everything outside the engine that decides what a call answers. -/
structure JitoChoice where
  loadFailure : Option String
  saved : SaveOutcome
  stopped : Except String Bool
  now : Int
  observed : Except String Observation
  prepared : Except String PendingTransaction
  broadcastFailure : Option String
  polled : Except String SignatureResult
  ready : Except String ClaimReadiness

def answerOf {α : Type} (value : α) : Option String → Except String α
  | none => .ok value
  | some message => .error message

def storeJournal (outcome : SaveOutcome) (state : JournalState) (world : JitoWorld) :
    Except String Unit × JitoWorld :=
  match outcome with
  | .refused message => (.error message, world)
  | .stored => (.ok (), { world with journal := some state })
  | .storedThenThrew message => (.error message, { world with journal := some state })

def positionId (journal : Option JournalState) : Option String :=
  (journal.bind (·.position)).map (·.id)

def performJito (uuids : UuidStream) (choice : JitoChoice) :
    (request : JitoCall) → JitoWorld → Except String request.Answer × JitoWorld
  | .load => fun world => (answerOf world.journal choice.loadFailure, world)
  | .save state => storeJournal choice.saved state
  | .stopped => fun world => (choice.stopped, world)
  | .now => fun world => (.ok choice.now, world)
  | .randomUUID => fun world => (.ok (uuids.draw world.drawn), { world with drawn := world.drawn + 1 })
  | .observe _ => fun world => (choice.observed, world)
  | .prepare _ => fun world => (choice.prepared, world)
  | .broadcast transaction => fun world => (answerOf () choice.broadcastFailure, { world with
      broadcasts := world.broadcasts ++ [⟨positionId world.journal, transaction⟩] })
  | .poll _ => fun world => (choice.polled, world)
  | .canClaim _ => fun world => (choice.ready, world)

/-- One process, and nothing else writes the journal. -/
abbrev jitoEnvironment (uuids : UuidStream) : Environment jitoInterface where
  World := JitoWorld
  Process := Unit
  Choice := JitoChoice
  Change := Empty
  perform := fun _ => performJito uuids
  evolve := fun change => nomatch change

/-- The state after a schedule of ticks, from no journal at all. -/
def jitoRun (uuids : UuidStream) (setting : JitoSetting)
    (events : List (Event (jitoEnvironment uuids) JitoBotConfig)) :
    State (jitoEnvironment uuids) TickResult :=
  run (fun _ => tick setting) (start ⟨none, [], 0⟩) events

/-! ## The order of a position -/

/-- The order in which a position is worked off. -/
def kindOrder : ActionKind → Nat
  | .buy => 0
  | .withdraw => 1
  | .deactivate => 2
  | .claim => 3

def stageOrder : PositionStage → Nat
  | .buyPending => 0
  | .purchased => 1
  | .withdrawn => 2
  | .deactivated => 3
  | .complete => 4

/-! ## Journals -/

/-- The journal durably holds this state. -/
def Durable (state : JournalState) (world : JitoWorld) : Prop := world.journal = some state

def saved (state : JournalState) : JournalState := { state with sequence := state.sequence + 1 }

theorem storeJournal_cases (outcome : SaveOutcome) (state : JournalState) (world : JitoWorld) :
    (storeJournal outcome state world).2 = world ∨
      (storeJournal outcome state world).2 = { world with journal := some state } := by
  cases outcome with
  | refused message => exact .inl rfl
  | stored => exact .inr rfl
  | storedThenThrew message => exact .inr rfl

/-- Every call but these may be made at any time and changes nothing. -/
def Reads : JitoCall → Prop
  | .save _ | .randomUUID | .prepare _ | .broadcast _ => False
  | _ => True

/-! ## What a receipt does to its position -/

variable {outcome : Position × Checked Unit}

section Receipts

variable {kind : ActionKind} {position : Position} {transaction : PendingTransaction}
variable {effects : TransactionEffects}

/-- How a receipt leaves a position that stays in the journal, and what it throws. -/
inductive Moves (position : Position) (effects : TransactionEffects) :
    ActionKind → Position × Checked Unit → Prop
  | refused {kind : ActionKind} (fault : String) : Moves position effects kind (position, .error fault)
  | credited {received : Nat} (read : amount (effects.actualJitoReceivedUnits.getD "0") = .ok received)
      (fault : String) : Moves position effects .buy ({ position with
        actualJitoReceivedUnits := toString received
        tokenAccountRentLamports := effects.refundableRentLamports.getD "0" }, .error fault)
  | purchased {received : Nat} (read : amount (effects.actualJitoReceivedUnits.getD "0") = .ok received) :
      Moves position effects .buy ({ position with
        actualJitoReceivedUnits := toString received
        tokenAccountRentLamports := effects.refundableRentLamports.getD "0"
        stage := .purchased }, .ok ())
  | withdrawn {stakeAddress rent : String} (isAddress : stakeAddress ≠ "")
      (isRent : effects.refundableRentLamports = some rent) :
      Moves position effects .withdraw ({ position with
        stakeAddress := some stakeAddress
        stakeRentLamports := rent
        stage := .withdrawn }, .ok ())
  | deactivated : Moves position effects .deactivate ({ position with stage := .deactivated }, .ok ())

theorem applyBuy_moves : Moves position effects .buy (applyBuy position transaction effects) := by
  unfold applyBuy
  split
  · exact .refused _
  split
  · exact .refused _
  next received read =>
  dsimp only
  split
  · exact .credited read _
  split
  · exact .credited read _
  · exact .purchased read

theorem applyWithdraw_moves : Moves position effects .withdraw (applyWithdraw position transaction effects) := by
  unfold applyWithdraw
  split
  · exact .refused _
  split
  · next isRent =>
      split
      · exact .refused _
      · next present => exact .withdrawn (not_or.mp present).1 isRent
  · exact .refused _

theorem applyDeactivate_moves : Moves position effects .deactivate (applyDeactivate position effects) := by
  unfold applyDeactivate
  split
  · exact .refused _
  · exact .deactivated

theorem Moves.id (moves : Moves position effects kind outcome) :
    outcome.1.id = position.id := by
  cases moves <;> rfl

theorem Moves.later (moves : Moves position effects kind outcome) (ok : outcome.2 = .ok ()) :
    kindOrder kind < stageOrder outcome.1.stage := by
  cases moves with
  | refused => cases ok
  | credited => cases ok
  | purchased => exact Nat.lt_succ_self 0
  | withdrawn => exact Nat.lt_succ_self 1
  | deactivated => exact Nat.lt_succ_self 2

/-- A cycle is closed, or its loss cannot be read. -/
theorem closeCycle_cases (recorded : JournalState) (completed : Position) (profit : Int) :
    (∃ fault, closeCycle recorded completed profit = ({ recorded with
      position := some completed
      realizedProfitLamports := toString (signedValue recorded.realizedProfitLamports + profit) }, .error fault)) ∨
    ∃ loss, closeCycle recorded completed profit = ({ recorded with
      position := none
      realizedProfitLamports := toString (signedValue recorded.realizedProfitLamports + profit)
      realizedLossLamports := loss
      completedCycles := recorded.completedCycles + 1
      completedPositions := recorded.completedPositions ++ [completed] }, .ok ()) := by
  unfold closeCycle
  dsimp only
  split
  · split
    · exact .inl ⟨_, rfl⟩
    · exact .inr ⟨_, rfl⟩
  · exact .inr ⟨_, rfl⟩

end Receipts

/-! ### A run that broadcasts -/

def sampleConfig : JitoBotConfig where
  enabled := true
  walletAddress := "wallet"
  minProfitLamports := 9000000
  networkBudgetLamports := 1000000
  reserveLamports := 20000000
  carryAnnualBps := 650
  carryHours := 72
  confirmationDelayMs := 10000
  maxConfirmationGapMs := 20000
  maxObservationAgeMs := 30000
  maxSourceSlotLag := 10
  maxPoolQuoteSlotGap := 10
  maxCycles := 1
  maxTotalFeesLamports := 10000000
  maxRealizedLossLamports := 0
  minProfitBounds := by decide
  networkBudgetBounds := by decide
  reserveBounds := by decide
  carryBounds := by decide
  delayBounds := by decide
  ageBounds := by decide
  slotBounds := by decide
  cycleBounds := by decide
  feeBounds := by decide
  walletSet := by decide

def sampleObservation (quoteId : String) (now slot : Int) : Observation where
  observedAtMs := now
  quote := ⟨quoteId, now, slot, slot, SOL_MINT, JITO_MINT, INPUT_LAMPORTS, "4000000000"⟩
  pool := ⟨JITO_STAKE_POOL, JITO_MINT, slot, 1, 1, "8000000000", "8000000000", "0", "1"⟩
  withdrawal := ⟨true, now, "1", "0", "0", none⟩
  wallet := ⟨"wallet", "5000000000", "0"⟩

def sampleTransaction (now : Int) : PendingTransaction where
  kind := .buy
  signature := "signature"
  wireTransactionBase64 := "AAAA"
  lastValidBlockHeight := 1
  preparedAtMs := now
  quoteExpiresAtMs := none
  estimatedFeeLamports := "5000"
  expected := ⟨none, some "4000000000", none, none, none⟩
  broadcastAttempts := none
  lastBroadcastAtMs := none
  lastBroadcastError := none

def sampleChoice (quoteId : String) (now slot : Int) : JitoChoice where
  loadFailure := none
  saved := .stored
  stopped := .ok false
  now := now
  observed := .ok (sampleObservation quoteId now slot)
  prepared := .ok (sampleTransaction now)
  broadcastFailure := none
  polled := .ok .pending
  ready := .error "no stake"

def sampleSetting : JitoSetting :=
  ⟨⟨fun _ => true, fun _ => "invalid"⟩, fun _ => String.ofList (List.replicate 64 'a')⟩

def sampleUuids : UuidStream where
  draw := fun n => String.ofList (List.replicate (n + 1) 'u')
  distinct := fun first second same => by
    have lengths := congrArg (fun id => id.toList.length) same
    simpa using lengths

/-- Two ticks that observe, confirm, prepare and broadcast one buy. -/
def sampleTicks : List (Event (jitoEnvironment sampleUuids) JitoBotConfig) :=
  .launch () sampleConfig :: List.replicate 6 (.advance () (sampleChoice "first" 100000 1)) ++
    .launch () sampleConfig :: List.replicate 20 (.advance () (sampleChoice "second" 110000 2))

example : (jitoRun sampleUuids sampleSetting sampleTicks).world.broadcasts.map
    (fun sent => (sent.positionId, sent.transaction.signature)) = [(some "u", "signature")] := by
  decide +kernel

end SolTokenListener.Guarantees.JitoRuns
