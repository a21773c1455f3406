import SolTokenListener.Lib.AsyncProgram
import SolTokenListener.Source.JitoJournal

/-!
# Engine of the JitoSOL bot

Source: src/jitosol/engine.ts:17-247. One tick is one program: the journal store, the gateway, the
stop file, the clock and `randomUUID` are calls. The source mutates one journal object and saves
it; here every change makes a new state, and `save` returns the state with its new sequence. The
in-process guard against concurrent ticks has no counterpart, since one engine runs one tick at a
time.
-/

namespace SolTokenListener.Source.JitoEngine

open Lib.AsyncProgram Lib.Checked
open Source.Chain Source.JitoConfig
open Source.JitoJournal

/-! ## Calls -/

structure PrepareRequest where
  kind : ActionKind
  config : JitoBotConfig
  position : Position
  observation : Option Observation

inductive SignatureResult where
  | pending
  | finalized (effects : TransactionEffects)
  | failed (effects : TransactionEffects) (error : String)
  | expired (reason : String)
  | unknown (reason : String)

structure ClaimReadiness where
  inactive : Bool
  observedAtMs : Int
  claimableLamports : String

inductive JitoCall where
  | load
  | save (state : JournalState)
  | stopped
  | now
  | randomUUID
  | observe (config : JitoBotConfig)
  | prepare (request : PrepareRequest)
  | broadcast (transaction : PendingTransaction)
  | poll (transaction : PendingTransaction)
  | canClaim (position : Position)

@[reducible] def JitoCall.Answer : JitoCall → Type
  | .load => Option JournalState
  | .save _ => Unit
  | .stopped => Bool
  | .now => Int
  | .randomUUID => String
  | .observe _ => Observation
  | .prepare _ => PendingTransaction
  | .broadcast _ => Unit
  | .poll _ => SignatureResult
  | .canClaim _ => ClaimReadiness

/-- An error is its message. -/
abbrev jitoInterface : Interface := ⟨JitoCall, JitoCall.Answer, String⟩

abbrev Engine := Program jitoInterface

abbrev ask (request : JitoCall) : Engine request.Answer := @call jitoInterface request

/-! ## Results -/

inductive TickStatus where
  | disabled | waiting | pending | progress | complete | paused | halted
  deriving DecidableEq, Repr

structure TickResult where
  status : TickStatus
  reason : String
  state : Option JournalState

structure JitoSetting where
  codecs : JournalCodecs
  /-- The digest of a configuration without its `enabled` switch. -/
  configFingerprint : JitoBotConfig → String

section Tick

variable (setting : JitoSetting)
variable (state : JournalState) (config : JitoBotConfig) (position : Position)
variable (observation : Option Observation) (transaction : PendingTransaction)
variable (effects : TransactionEffects)

def result (status : TickStatus) (reason : String) : TickResult :=
  ⟨status, reason, some state⟩

/-- Save under the next sequence number, if the journal is valid. -/
def save : Engine JournalState := do
  let next := { state with sequence := state.sequence + 1 }
  lift (validateJournalState setting.codecs next)
  ask (.save next)
  return next

def halt (reason : String) : Engine TickResult := do
  let halted ← save setting { state with
    status := .halted
    haltReason := some reason
    confirmation := none }
  return result halted .halted reason

/-! ## Preparing -/

def prepareGuard (kind : ActionKind) (config : JitoBotConfig) (position : Position)
    (observation : Option Observation) (transaction : PendingTransaction) (now : Int) : Checked Unit := do
  require (isSafeInteger transaction.preparedAtMs ∧ transaction.preparedAtMs ≤ now ∧
    now - transaction.preparedAtMs ≤ config.maxObservationAgeMs)
    "signed transaction preparation timestamp is stale"
  let estimated ← amount transaction.estimatedFeeLamports
  require (estimated ≠ 0) "transaction fee estimate is missing"
  require (kind = .buy → transaction.expected.minJitoReceivedUnits =
    observation.map (·.quote.minJitoOutUnits)) "signed buy minimum differs from decision quote"
  require (kind = .withdraw → transaction.expected.stakeAddress.any (· ≠ "") ∧
    transaction.expected.jitoSpentUnits = some position.actualJitoReceivedUnits)
    "withdrawal must consume the actual purchased token delta into a durable stake address"
  if kind = .withdraw then
    let minimum ← amount (transaction.expected.minimumRedemptionLamports.getD "0")
    let required ← requiredRedemptionLamports config
    require (required ≤ minimum) "withdrawal minimum is below the original economic floor"
  require (kind = .deactivate ∨ kind = .claim →
    transaction.expected.stakeAddress = position.stakeAddress)
    "signed transaction targets a different stake account"
  require (kind = .claim →
    transaction.expected.refundableRentLamports = some position.stakeRentLamports)
    "claim must preserve known refundable stake rent"

/-- The clock is read once the identity of the transaction is accepted. -/
def assertPrepared (kind : ActionKind) (config : JitoBotConfig) (position : Position)
    (observation : Option Observation) (transaction : PendingTransaction) : Engine Unit := do
  lift <| require (transaction.kind = kind ∧ transaction.signature ≠ "" ∧
    transaction.wireTransactionBase64 ≠ "" ∧ isSafeInteger transaction.lastValidBlockHeight ∧
    0 < transaction.lastValidBlockHeight) "invalid signed transaction identity"
  let now ← ask .now
  lift (prepareGuard kind config position observation transaction now)

def feeGuard : Checked Unit := do
  let fee ← amount transaction.estimatedFeeLamports
  let totalFees ← amount state.totalFeesLamports
  require (totalFees + fee ≤ config.maxTotalFeesLamports) "transaction exceeds total fee authority"
  let positionFees ← amount position.feesLamports
  require (positionFees + fee ≤ config.networkBudgetLamports)
    "transaction exceeds the cycle network budget"

def quoteDeadline (observation : Observation) : Int :=
  min (min observation.observedAtMs observation.quote.receivedAtMs)
    observation.withdrawal.checkedAtMs + config.maxObservationAgeMs

/-- The journal with the prepared transaction as its pending one. -/
def withPending : JournalState :=
  { state with
    position := some position
    pending := some { transaction with
      quoteExpiresAtMs := (observation.map (quoteDeadline config)).or transaction.quoteExpiresAtMs }
    confirmation := none }

/-- Prepare, sign and check, without sending. -/
def prepareChecked (kind : ActionKind) (position : Position) (observation : Option Observation) :
    Engine PendingTransaction := do
  let transaction ← ask (.prepare ⟨kind, config, position, observation⟩)
  assertPrepared kind config position observation transaction
  lift (feeGuard state config position transaction)
  return transaction

/-! ## Broadcasting -/

/-- A buy is only sent until its quote expires. -/
def buyExpired : Engine Bool :=
  match transaction.kind, transaction.quoteExpiresAtMs with
  | .buy, none => return true
  | .buy, some deadline => do
    let now ← ask .now
    return decide (deadline < now)
  | _, _ => return false

def broadcast (state : JournalState) : Engine TickResult := do
  let some transaction := state.pending
    | throw "Cannot broadcast without a durable pending transaction"
  if ← ask .stopped then return result state .paused "stop file blocks transaction broadcast"
  if ← buyExpired transaction then
    return result state .pending
      "buy quote age exceeded; monitoring saved signature without further broadcast"
  let now ← ask .now
  let attempted := { transaction with
    broadcastAttempts := some (transaction.broadcastAttempts.getD 0 + 1)
    lastBroadcastAtMs := some now
    lastBroadcastError := none }
  -- The attempt is durable before the send, so a crash on either side of it is ambiguous safely.
  let saved ← save setting { state with pending := some attempted }
  if ← ask .stopped then return result saved .paused "stop file blocks transaction broadcast"
  if ← buyExpired attempted then
    return result saved .pending
      "buy quote expired during persistence; monitoring saved signature without broadcast"
  match ← attempt (ask (.broadcast attempted)) with
  | .ok () =>
    return result saved .pending (attempted.kind.text ++ " submitted; awaiting finalized receipt")
  | .error error =>
    let failed ← save setting { saved with
      pending := some { attempted with lastBroadcastError := some error } }
    return result failed .pending
      "broadcast outcome is ambiguous; retain and poll the same signature"

def prepare (kind : ActionKind) (position : Position) (observation : Option Observation) :
    Engine TickResult := do
  if ← ask .stopped then return result state .paused "stop file blocks transaction preparation"
  match ← attempt (prepareChecked state config kind position observation) with
  | .error error => halt setting state ("transaction preparation rejected: " ++ error)
  | .ok transaction =>
    let saved ← save setting (withPending state config position observation transaction)
    match observation with
    | none => broadcast setting saved
    | some observed =>
      let now ← ask .now
      if (evaluateObservation observed config now).eligible then
        broadcast setting saved
      else
        halt setting saved ("entry observation became stale or invalid during preparation; " ++
          "signed transaction retained and never sent")

/-! ## Receipts -/

def validateEffects : Checked Unit := do
  let _ ← amount effects.feeLamports
  for value in [effects.actualInputLamports, effects.actualJitoReceivedUnits,
      effects.actualJitoSpentUnits, effects.actualClaimedLamports, effects.refundableRentLamports,
      effects.nonRefundableCostLamports].reduceOption do
    let _ ← amount value

/-! A receipt that does not match may leave a position part changed, so applying one gives the
position as it is left and what was thrown. -/

def applyBuy : Position × Checked Unit :=
  if position.stage ≠ .buyPending ∨ effects.actualInputLamports ≠ some position.inputLamports then
    (position, throw "actual SOL input differs from authorized input")
  else
    match amount (effects.actualJitoReceivedUnits.getD "0") with
    | .error error => (position, throw error)
    | .ok received =>
      let credited := { position with
        actualJitoReceivedUnits := toString received
        tokenAccountRentLamports := effects.refundableRentLamports.getD "0" }
      match amount (transaction.expected.minJitoReceivedUnits.getD "0") with
      | .error error => (credited, throw error)
      | .ok minimum =>
        if received < minimum ∨ received = 0 then
          (credited, throw "actual Jito delta is below signed minimum")
        else ({ credited with stage := .purchased }, return)

def applyWithdraw : Position × Checked Unit :=
  if position.stage ≠ .purchased ∨
      effects.actualJitoSpentUnits ≠ some position.actualJitoReceivedUnits ∨
      effects.stakeAddress ≠ transaction.expected.stakeAddress then
    (position, throw "actual withdrawal token delta or stake address differs from signed intent")
  else
    match effects.stakeAddress, effects.refundableRentLamports with
    | some stakeAddress, some rent =>
      if stakeAddress = "" ∨ rent = "" then
        (position, throw "withdrawal receipt lacks stake address or funded rent")
      else ({ position with
        stakeAddress := some stakeAddress
        stakeRentLamports := rent
        stage := .withdrawn }, return)
    | _, _ => (position, throw "withdrawal receipt lacks stake address or funded rent")

def applyDeactivate : Position × Checked Unit :=
  if position.stage ≠ .withdrawn ∨ effects.stakeAddress ≠ position.stakeAddress then
    (position, throw "deactivation targets a different stake account")
  else ({ position with stage := .deactivated }, return)

/-- What a claim realizes: the claimed lamports and the profit. -/
def claimProfit : Checked (Nat × Int) :=
  match effects.actualClaimedLamports with
  | none => throw "claim receipt lacks verified principal and refundable rent"
  | some claimedLamports => do
    require (position.stage = .deactivated ∧ effects.stakeAddress = position.stakeAddress ∧
      effects.refundableRentLamports = some position.stakeRentLamports)
      "claim receipt lacks verified principal and refundable rent"
    let claimed ← amount claimedLamports
    let stakeRent ← amount position.stakeRentLamports
    require (stakeRent ≤ claimed) "claim is less than refundable stake rent"
    let input ← amount position.inputLamports
    let fees ← amount position.feesLamports
    let costs ← amount position.nonRefundableCostLamports
    return (claimed, (claimed : Int) - stakeRent - input - fees - costs)

def completedPosition (claimed : Nat) (profit now : Int) : Position :=
  { position with
    actualClaimedLamports := some (toString claimed)
    realizedProfitLamports := some (toString profit)
    completedAtMs := some now
    stage := .complete }

/-- The journal after a claim. The loss is added before the cycle is closed, and reading it may
throw once the position has been completed in memory. -/
def closeCycle (completed : Position) (profit : Int) : JournalState × Checked Unit :=
  let profited := { state with
    position := some completed
    realizedProfitLamports := toString (signedValue state.realizedProfitLamports + profit) }
  let closed (journal : JournalState) : JournalState := { journal with
    completedCycles := journal.completedCycles + 1
    completedPositions := journal.completedPositions ++ [completed]
    position := none }
  if profit < 0 then
    match amount state.realizedLossLamports with
    | .error error => (profited, throw error)
    | .ok loss =>
      (closed { profited with realizedLossLamports := toString ((loss : Int) - profit) }, return)
  else (closed profited, return)

/-- `applyEffects`: the journal as the source leaves it, and what it threw. -/
def applyEffects : Engine (JournalState × Checked Unit) :=
  let held (applied : Position × Checked Unit) : JournalState × Checked Unit :=
    ({ state with position := some applied.1 }, applied.2)
  match transaction.kind with
  | .buy => return held (applyBuy position transaction effects)
  | .withdraw => return held (applyWithdraw position transaction effects)
  | .deactivate => return held (applyDeactivate position effects)
  | .claim =>
    match claimProfit position effects with
    | .error error => return held (position, throw error)
    | .ok (claimed, profit) => do
      let now ← ask .now
      return closeCycle state (completedPosition position claimed profit now) profit

/-- The receipt and its fee are recorded, and the transaction is no longer pending. -/
def recordReceipt (outcome : ReceiptOutcome) (effects : TransactionEffects) (now : Int) :
    Checked (JournalState × Position) := do
  let totalFees ← amount state.totalFeesLamports
  let fee ← amount effects.feeLamports
  let positionFees ← amount position.feesLamports
  let positionCosts ← amount position.nonRefundableCostLamports
  let costs ← amount (effects.nonRefundableCostLamports.getD "0")
  let charged := { position with
    feesLamports := toString (positionFees + fee)
    nonRefundableCostLamports := toString (positionCosts + costs) }
  return ({ state with
    totalFeesLamports := toString (totalFees + fee)
    position := some charged
    transactions := state.transactions ++ [⟨position.id, transaction, outcome, effects, now⟩]
    pending := none }, charged)

/-- The limits tested after a receipt: `none` when they hold. -/
def exceededLimit (feesLamports : String) : Checked (Option String) := do
  let totalFees ← amount state.totalFeesLamports
  let overTotal := config.maxTotalFeesLamports < totalFees
  let overBudget ← if overTotal then pure true else do
    let positionFees ← amount feesLamports
    pure (decide (config.networkBudgetLamports < positionFees))
  if overBudget then return some "actual finalized fees exceeded the authorized budget"
  else
    let loss ← amount state.realizedLossLamports
    if config.maxRealizedLossLamports < loss then return some "realized loss limit exceeded"
    else return none

def finalized (state : JournalState) (config : JitoBotConfig) (transaction : PendingTransaction)
    (outcome : ReceiptOutcome) (effects : TransactionEffects) (error : String) : Engine TickResult := do
  match validateEffects effects with
  | .error fault =>
    halt setting state ("finalized receipt cannot be accounted: " ++ fault ++
      "; retain pending signature for operator")
  | .ok () =>
    match state.position with
    | none => halt setting state "finalized transaction has no durable position"
    | some position =>
      let now ← ask .now
      let (recorded, charged) ← lift (recordReceipt state position transaction outcome effects now)
      match outcome with
      | .failed => halt setting recorded ("finalized " ++ transaction.kind.text ++ " failed: " ++
          error ++ "; actual fee recorded")
      | .finalized =>
        let (applied, outcomeOfEffects) ← applyEffects recorded charged transaction effects
        match outcomeOfEffects with
        | .error fault => halt setting applied ("finalized " ++ transaction.kind.text ++
            " effects mismatch: " ++ fault ++ "; receipt and actual fee recorded")
        | .ok () =>
          match ← lift (exceededLimit applied config charged.feesLamports) with
          | some reason => halt setting applied reason
          | none =>
            let saved ← save setting applied
            if saved.position.isNone ∧ config.maxCycles ≤ saved.completedCycles then
              return result saved .complete "claim finalized and durable cycle limit reached"
            else
              return result saved .progress
                (transaction.kind.text ++ " finalized and accounted")

def pending (state : JournalState) (config : JitoBotConfig) : Engine TickResult := do
  let some transaction := state.pending
    | throw "Cannot poll without a durable pending transaction"
  match ← attempt (ask (.poll transaction)) with
  | .error error =>
    return result state .pending
      ("signature status unavailable; no replacement allowed: " ++ error)
  | .ok .pending => broadcast setting state
  | .ok (.unknown reason) =>
    halt setting state ("unknown transaction finality: " ++ reason ++ "; operator recovery required")
  | .ok (.expired reason) =>
    halt setting state ("expired transaction finality: " ++ reason ++ "; operator recovery required")
  | .ok (.finalized effects) => finalized setting state config transaction .finalized effects ""
  | .ok (.failed effects error) => finalized setting state config transaction .failed effects error

/-! ## Entry -/

def entryPosition (id : String) (now : Int) : Position where
  id := id
  stage := .buyPending
  openedAtMs := now
  inputLamports := INPUT_LAMPORTS
  actualJitoReceivedUnits := "0"
  stakeAddress := none
  stakeRentLamports := "0"
  tokenAccountRentLamports := "0"
  feesLamports := "0"
  nonRefundableCostLamports := "0"
  actualClaimedLamports := none
  realizedProfitLamports := none
  completedAtMs := none

def entry : Engine TickResult := do
  match ← attempt (ask (.observe config)) with
  | .error error =>
    let saved ← save setting { state with confirmation := none }
    return result saved .waiting ("observation unavailable: " ++ error)
  | .ok observation =>
    let now ← ask .now
    let decision := evaluateObservation observation config now
    if decision.eligible = false then
      let saved ← save setting { state with confirmation := none }
      return result saved .waiting decision.reason
    else
      let first := state.confirmation.filter fun first =>
        observation.observedAtMs - first.observedAtMs ≤ config.maxConfirmationGapMs ∧
          first.observedAtMs ≤ observation.observedAtMs
      match first with
      | none =>
        let recorded : Confirmation :=
          ⟨observation.quote.id, observation.observedAtMs, observation.quote.contextSlot⟩
        let saved ← save setting { state with confirmation := some recorded }
        return result saved .waiting
          "first qualifying observation recorded; wait for an independent fresh quote"
      | some first =>
        if observation.observedAtMs - first.observedAtMs < config.confirmationDelayMs then
          return result state .waiting "confirmation delay has not elapsed"
        else if observation.quote.id = first.quoteId ∨
            observation.quote.contextSlot ≤ first.contextSlot then
          return result state .waiting "confirmation must use a newer quote and chain context"
        else
          let id ← ask .randomUUID
          prepare setting state config .buy (entryPosition id now) (some observation)

/-! ## Tick -/

def freshJournal : JournalState where
  configFingerprint := setting.configFingerprint config
  sequence := 0
  status := .running
  haltReason := none
  completedCycles := 0
  totalFeesLamports := "0"
  realizedProfitLamports := "0"
  realizedLossLamports := "0"
  confirmation := none
  position := none
  pending := none
  transactions := []
  completedPositions := []

/-- The stored journal of this configuration, or a new one. -/
def loadJournal : Engine JournalState := do
  match ← ask .load with
  | some state =>
    lift (validateJournalState setting.codecs state)
    lift <| require (state.configFingerprint = setting.configFingerprint config)
      "Journal configuration fingerprint does not match: explicit operator migration required"
    lift <| require (state.position.all (·.inputLamports = INPUT_LAMPORTS))
      "Journal position amount does not match configuration"
    return state
  | none => save setting (freshJournal setting config)

def claimWhenInactive : Engine TickResult := do
  match ← attempt (ask (.canClaim position)) with
  | .error error => return result state .waiting ("claim readiness unavailable: " ++ error)
  | .ok readiness =>
    let now ← ask .now
    if ¬ (isSafeInteger readiness.observedAtMs ∧ readiness.observedAtMs ≤ now ∧
        now - readiness.observedAtMs ≤ config.maxObservationAgeMs) then
      return result state .waiting "claim readiness is stale"
    else if readiness.inactive = false then
      return result state .waiting "stake is not actually inactive"
    else
      let claimable ← lift (amount readiness.claimableLamports)
      let stakeRent ← lift (amount position.stakeRentLamports)
      if claimable ≤ stakeRent then
        halt setting state "inactive stake has no claimable principal"
      else prepare setting state config .claim position none

def advancePosition : Engine TickResult :=
  match position.stage with
  | .purchased => prepare setting state config .withdraw position none
  | .withdrawn => prepare setting state config .deactivate position none
  | .deactivated => claimWhenInactive setting state config position
  | .buyPending | .complete =>
    halt setting state "position has no pending transaction and cannot safely advance"

/-- A tick of a running journal with nothing pending. -/
def advance : Engine TickResult := do
  if state.position.isNone ∧ config.maxCycles ≤ state.completedCycles then
    return result state .complete "durable cycle limit reached"
  let loss ← lift (amount state.realizedLossLamports)
  if config.maxRealizedLossLamports < loss then
    halt setting state "realized loss limit exceeded"
  else if ← ask .stopped then
    return result state .paused "stop file blocks transaction mutations"
  else
    match state.position with
    | some position => advancePosition setting state config position
    | none =>
      let totalFees ← lift (amount state.totalFeesLamports)
      if (config.maxTotalFeesLamports : Int) - totalFees < config.networkBudgetLamports then
        halt setting state "explicit fee authority is insufficient for another complete cycle"
      else entry setting state config

def runTick : Engine TickResult := do
  let state ← loadJournal setting config
  match state.status, state.pending with
  | .halted, _ => return result state .halted (state.haltReason.getD "operator recovery required")
  | .running, some _ => pending setting state config
  | .running, none => advance setting state config

def tick : Engine TickResult :=
  if config.enabled then runTick setting config
  else return ⟨.disabled, "bot configuration is disabled", none⟩

end Tick

end SolTokenListener.Source.JitoEngine
