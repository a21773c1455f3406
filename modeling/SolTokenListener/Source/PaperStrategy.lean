import SolTokenListener.Source.PaperTrading

/-!
# Creation-entry sessions

Source: src/domain/paper-strategy.ts:11-135, 232-324, 371-430, 447-568 and the parts of
src/domain/trading-candidate.ts and src/domain/events.ts:63-97 they read. What
`createCreationEntrySession` tests about the counted buys is carried by the session type, so
`countUniqueExternalBuy`, which tests nothing again, has to keep it. `payloadVersion`,
`actorKind` and the constant strategy of a session are left out. SHA-256 over a serialized
value is the parameter `Digests`; the size limits of the canonical JSON of a session are not
modelled.
-/

namespace SolTokenListener.Source.PaperStrategy

open Lib.Checked
open Source.Chain Source.PaperTrading

inductive PaperStrategySessionState where
  | BUY_PENDING | PAPER_HOLDING | WAITING_EXTERNAL_BUYS | EXIT_PENDING_QUOTE | SELL_PENDING
  | PAPER_CLOSED | PAPER_RETRACTED | MANUAL_REVIEW
  deriving DecidableEq, Repr

inductive PaperDecisionReasonCode where
  | QUALIFICATION_NOT_ELIGIBLE | ENTRY_WINDOW_EXPIRED | EVIDENCE_REVOKED | QUALIFIED_ENTRY
  | EXTERNAL_BUY_OBSERVED | EXTERNAL_BUY_TARGET_REACHED | EXIT_QUOTE_UNAVAILABLE
  | SOURCE_ORPHANED | RECONCILIATION_REQUIRED | CREATION_ENTRY_EXPIRED | CREATION_ENTRY_REJECTED
  | EXTERNAL_UNIQUE_BUY_OBSERVED | EXTERNAL_UNIQUE_BUYERS_TARGET_REACHED
  | TAKE_PROFIT_2X_EXECUTABLE | CREATOR_EARLY_SELL | MANUAL_KILL_SWITCH
  | SELL_QUOTE_UNAVAILABLE_OR_STALE
  deriving DecidableEq, Repr

inductive PaperMinimumConfirmation where
  | confirmed | finalized
  deriving DecidableEq, Repr

inductive CreationExitReason where
  | EXTERNAL_UNIQUE_BUYERS_TARGET_REACHED | TAKE_PROFIT_2X_EXECUTABLE | CREATOR_EARLY_SELL
  | MANUAL_KILL_SWITCH
  deriving DecidableEq, Repr

def CreationExitReason.text : CreationExitReason → String
  | .EXTERNAL_UNIQUE_BUYERS_TARGET_REACHED => "EXTERNAL_UNIQUE_BUYERS_TARGET_REACHED"
  | .TAKE_PROFIT_2X_EXECUTABLE => "TAKE_PROFIT_2X_EXECUTABLE"
  | .CREATOR_EARLY_SELL => "CREATOR_EARLY_SELL"
  | .MANUAL_KILL_SWITCH => "MANUAL_KILL_SWITCH"

/-- An exit reason as the reason code of a session. -/
def CreationExitReason.reasonCode : CreationExitReason → PaperDecisionReasonCode
  | .EXTERNAL_UNIQUE_BUYERS_TARGET_REACHED => .EXTERNAL_UNIQUE_BUYERS_TARGET_REACHED
  | .TAKE_PROFIT_2X_EXECUTABLE => .TAKE_PROFIT_2X_EXECUTABLE
  | .CREATOR_EARLY_SELL => .CREATOR_EARLY_SELL
  | .MANUAL_KILL_SWITCH => .MANUAL_KILL_SWITCH

structure PaperStrategyErrorEvidence where
  code : String
  message : String
  retryable : Bool
  deriving DecidableEq, Repr

structure PaperEntryBoundary where
  slot : Int
  quoteId : String
  observedAtMs : Int
  deriving DecidableEq, Repr

structure TradingCandidateAsOf where
  eventId : String
  cursor : ChainCursor
  confirmationStatus : ChainConfirmationStatus
  observedAtMs : Int
  deriving DecidableEq, Repr

/-- The part of `TradingCandidateV1` the modelled functions read. -/
structure TradingCandidateV1 where
  id : String
  mint : String
  strategy : PaperStrategyIdentity
  qualificationReportId : String
  asOf : TradingCandidateAsOf
  quoteAsset : QuoteAsset
  buyQuote : Option PaperExecutionQuote
  deriving DecidableEq, Repr

structure PaperStrategySessionV2 where
  id : String
  mint : String
  quoteAsset : QuoteAsset
  candidateId : String
  qualificationReportId : String
  state : PaperStrategySessionState
  reasonCode : PaperDecisionReasonCode
  positionId : Option String
  openCommandId : String
  closeCommandId : Option String
  entryCursor : ChainCursor
  externalBuyTarget : Nat
  externalBuyCount : Nat
  externalMinimumBuyAmountRaw : Int
  countedTradeIds : List String
  countedBuyerWallets : List String
  lastCountedCursor : Option ChainCursor
  minimumConfirmation : PaperMinimumConfirmation
  lastQuote : Option PaperExecutionQuote
  lastError : Option PaperStrategyErrorEvidence
  pendingExitReason : Option CreationExitReason
  pendingExitTriggerAtMs : Option Int
  entryBoundary : Option PaperEntryBoundary
  createdAtMs : Int
  updatedAtMs : Int
  purgeAfterMs : Int
  withinTarget : externalBuyCount ≤ externalBuyTarget
  tradesCounted : countedTradeIds.length = externalBuyCount
  walletsCounted : countedBuyerWallets.length = externalBuyCount
  distinctTrades : countedTradeIds.Nodup
  distinctWallets : countedBuyerWallets.Nodup
  deriving DecidableEq, Repr

/-- SHA-256 in hexadecimal, over `JSON.stringify` of strings and over the canonical JSON of a
session. -/
structure Digests where
  hash : List String → String
  hashSession : PaperStrategySessionV2 → String
  hashLength : ∀ parts, (hash parts).utf8ByteSize = 64
  hashSessionLength : ∀ session, (hashSession session).utf8ByteSize = 64

/-! ## Text and identity checks -/

/-- `value.length !== 0 && value === value.trim()`. -/
def isTrimmedText (value : String) : Bool :=
  value.toList.head?.any (fun c => !isTrimmed c) ∧ value.toList.getLast?.any fun c => !isTrimmed c

def text (value field : String) : Checked Unit :=
  require (isTrimmedText value = true ∧ value.utf8ByteSize ≤ 4096)
    (.typeError ("Session " ++ field ++ " is invalid."))

/-- `text` on each value, in order. -/
def texts (field : String) : List String → Checked Unit
  | [] => return ()
  | value :: rest => do
    text value field
    texts field rest

def isHexDigit (c : Char) : Bool :=
  ('a' ≤ c ∧ c ≤ 'f') ∨ ('0' ≤ c ∧ c ≤ '9')

/-- `/^candidate_[a-f0-9]{64}$/u`. -/
def isCandidateId (id : String) : Bool :=
  id.toList.take 10 = "candidate_".toList ∧ (id.toList.drop 10).length = 64 ∧
    (id.toList.drop 10).all isHexDigit

def boundedTarget (value : Nat) : Checked Unit :=
  require (1 ≤ value ∧ value ≤ 1000) (.typeError "Session external buy target is invalid.")

/-- The strategy every creation session carries. -/
def creationStrategy : PaperStrategyIdentity := ⟨"creation-entry-v1", 1⟩

variable (digests : Digests) (session : PaperStrategySessionV2)

def createSessionId (candidateId : String) : String :=
  "paper_session_" ++ digests.hash [candidateId, creationStrategy.id, toString creationStrategy.version]

def createDeterministicChainEventId (type mint source program signature : String)
    (cursor : ChainCursor) : Checked String := do
  domainChecked (assertValidChainCursor cursor)
  return "evt_" ++ digests.hash [type, mint, source, program, signature, toString cursor.slot,
    toString cursor.transactionIndex, toString cursor.instructionIndex,
    cursor.innerInstructionIndex.elim "outer" toString]

def createDeterministicDerivedEventId (type mint source program signature : String)
    (cursor : ChainCursor) (qualifier : String) : Checked String := do
  require (qualifier ≠ "" ∧ qualifier.utf8ByteSize ≤ 16384)
    (.typeError "Derived event qualifier is invalid.")
  let chainId ← createDeterministicChainEventId digests type mint source program signature cursor
  return "evt_" ++ digests.hash [chainId, qualifier]

/-- The command id both `createCreationEntrySession` and
`createDeterministicCreationExitCommandId` compute. -/
def creationExitCommandId (positionId : String) (reason : CreationExitReason) : String :=
  "paper_sell_" ++ digests.hash
    [positionId, creationStrategy.id, toString creationStrategy.version, reason.text]

def createDeterministicCreationExitCommandId (positionId : String) (reason : CreationExitReason) :
    Checked String := do
  text positionId "position id"
  return creationExitCommandId digests positionId reason

/-! ## Sessions -/

structure CreateCreationEntrySessionInput where
  candidate : TradingCandidateV1
  state : PaperStrategySessionState
  reasonCode : PaperDecisionReasonCode
  positionId : Option String
  entryCursor : ChainCursor
  externalBuyTarget : Nat
  externalBuyCount : Nat
  externalMinimumBuyAmountRaw : Int
  countedTradeIds : List String
  countedBuyerWallets : List String
  lastCountedCursor : Option ChainCursor
  minimumConfirmation : PaperMinimumConfirmation
  lastQuote : Option PaperExecutionQuote
  lastError : Option PaperStrategyErrorEvidence
  pendingExitReason : Option CreationExitReason
  pendingExitTriggerAtMs : Option Int
  entryBoundary : Option PaperEntryBoundary
  createdAtMs : Int
  updatedAtMs : Int
  purgeAfterMs : Int

def validatePositionId : Option String → Checked Unit
  | none => return ()
  | some positionId => text positionId "position id"

def validateLastCountedCursor (entryCursor : ChainCursor) : Option ChainCursor → Checked Unit
  | none => return ()
  | some cursor => do
    domainChecked (assertValidChainCursor cursor)
    let order ← domainChecked (compareCursors cursor entryCursor)
    require (order = .gt) (.typeError "Session last counted cursor is invalid.")

def validateLastError : Option PaperStrategyErrorEvidence → Checked Unit
  | none => return ()
  | some error => do
    text error.code "error code"
    text error.message "error message"

/-- The tests about the counted trades, as the session carries them. -/
structure CountedTrades (count target : Nat) (tradeIds : List String) : Prop where
  withinTarget : count ≤ target
  tradesCounted : tradeIds.length = count
  distinctTrades : tradeIds.Nodup

instance (count target : Nat) (tradeIds : List String) :
    Decidable (CountedTrades count target tradeIds) :=
  decidable_of_iff (count ≤ target ∧ tradeIds.length = count ∧ tradeIds.Nodup)
    ⟨fun holds => ⟨holds.1, holds.2.1, holds.2.2⟩,
      fun holds => ⟨holds.withinTarget, holds.tradesCounted, holds.distinctTrades⟩⟩

def validateSessionInput (input : CreateCreationEntrySessionInput) :
    Checked (PLift (CountedTrades input.externalBuyCount input.externalBuyTarget
      input.countedTradeIds)) := do
  require (isCandidateId input.candidate.id = true) (.typeError "Session candidate id is invalid.")
  validatePositionId input.positionId
  domainChecked (assertValidChainCursor input.entryCursor)
  boundedTarget input.externalBuyTarget
  let counted ← demand (CountedTrades input.externalBuyCount input.externalBuyTarget
    input.countedTradeIds) (.typeError "Session external buy count is invalid.")
  texts "counted trade id" input.countedTradeIds
  validateLastCountedCursor input.entryCursor input.lastCountedCursor
  domainChecked (assertValidTimestampMs .observedAtMs input.createdAtMs)
  domainChecked (assertValidTimestampMs .observedAtMs input.updatedAtMs)
  domainChecked (assertValidTimestampMs .observedAtMs input.purgeAfterMs)
  require (¬ (input.updatedAtMs < input.createdAtMs ∨ input.purgeAfterMs ≤ input.updatedAtMs))
    (.typeError "Session dates are invalid.")
  validateLastError input.lastError
  return counted

/-- The value tests of `validateAndSnapshotEntryBoundary`, whose result is the same boundary. -/
def validateEntryBoundary (boundary : PaperEntryBoundary) : Checked Unit := do
  require (0 ≤ boundary.slot) (.typeError "Creation session paper entry boundary is invalid.")
  text boundary.quoteId "entry boundary quote id"
  domainChecked (assertValidTimestampMs .observedAtMs boundary.observedAtMs)

def validatePendingExit (input : CreateCreationEntrySessionInput) : Checked Unit :=
  match input.pendingExitTriggerAtMs with
  | none => return ()
  | some pendingExitTriggerAtMs => do
    domainChecked (assertValidTimestampMs .pendingExitTriggerAtMs pendingExitTriggerAtMs)
    require (input.pendingExitReason = some .MANUAL_KILL_SWITCH)
      (.typeError "Creation session manual exit trigger is inconsistent.")

def validateSessionBoundary (input : CreateCreationEntrySessionInput) : Checked Unit :=
  match input.entryBoundary with
  | none => return ()
  | some boundary => do
    validateEntryBoundary boundary
    require (¬ input.lastCountedCursor.any (·.slot ≤ boundary.slot) = true)
      (.typeError "Creation session counted cursor predates its paper entry boundary.")

def createCreationEntrySession (input : CreateCreationEntrySessionInput) :
    Checked PaperStrategySessionV2 := do
  let counted ← validateSessionInput input
  require (input.candidate.strategy = creationStrategy)
    (.typeError "Creation session strategy is invalid.")
  let wallets ← demand (input.countedBuyerWallets.length = input.externalBuyCount ∧
    input.countedBuyerWallets.Nodup) (.typeError "Creation session buyer wallet count is invalid.")
  require (0 < input.externalMinimumBuyAmountRaw)
    (.typeError "Creation session minimum buy amount is invalid.")
  texts "buyer wallet" input.countedBuyerWallets
  validatePendingExit input
  validateSessionBoundary input
  let id := createSessionId digests input.candidate.id
  return {
    id := id
    mint := input.candidate.mint
    quoteAsset := input.candidate.quoteAsset
    candidateId := input.candidate.id
    qualificationReportId := input.candidate.qualificationReportId
    state := input.state
    reasonCode := input.reasonCode
    positionId := input.positionId
    openCommandId := "paper_open_" ++ digests.hash
      [id, input.candidate.id, creationStrategy.id, toString creationStrategy.version]
    closeCommandId := do
      let reason ← input.pendingExitReason
      let positionId ← input.positionId
      return creationExitCommandId digests positionId reason
    entryCursor := input.entryCursor
    externalBuyTarget := input.externalBuyTarget
    externalBuyCount := input.externalBuyCount
    externalMinimumBuyAmountRaw := input.externalMinimumBuyAmountRaw
    countedTradeIds := input.countedTradeIds
    countedBuyerWallets := input.countedBuyerWallets
    lastCountedCursor := input.lastCountedCursor
    minimumConfirmation := input.minimumConfirmation
    lastQuote := input.lastQuote
    lastError := input.lastError
    pendingExitReason := input.pendingExitReason
    pendingExitTriggerAtMs := input.pendingExitTriggerAtMs
    entryBoundary := input.entryBoundary
    createdAtMs := input.createdAtMs
    updatedAtMs := input.updatedAtMs
    purgeAfterMs := input.purgeAfterMs
    withinTarget := counted.down.withinTarget
    tradesCounted := counted.down.tradesCounted
    walletsCounted := wallets.down.1
    distinctTrades := counted.down.distinctTrades
    distinctWallets := wallets.down.2 }

/-! ## Counting -/

def isStrictlyAfterPaperEntry (cursor : ChainCursor) : Checked Bool := do
  domainChecked (assertValidChainCursor cursor)
  match session.entryBoundary with
  | none => throw (.typeError "Creation session paper entry boundary is missing.")
  | some boundary => do
    validateEntryBoundary boundary
    return decide (cursor.slot > boundary.slot)

/-- `confirmationReached` of the strategy, on any chain status. -/
def confirmationReached (actual : ChainConfirmationStatus) (minimum : PaperMinimumConfirmation) :
    Bool :=
  actual = .finalized ∨ (minimum = .confirmed ∧ actual = .confirmed)

structure PaperExternalBuyEvidenceV2 where
  sessionId : String
  tradeId : String
  mint : String
  quoteMint : String
  trader : String
  quoteAmountRaw : Int
  cursor : ChainCursor
  confirmationStatus : ChainConfirmationStatus
  observedAtMs : Int
  deriving DecidableEq, Repr

/-- The argument of `countUniqueExternalBuy`: evidence without its session. -/
structure ExternalBuyInput where
  tradeId : String
  mint : String
  quoteMint : String
  trader : String
  quoteAmountRaw : Int
  cursor : ChainCursor
  confirmationStatus : ChainConfirmationStatus
  observedAtMs : Int

/-- The order of the tests is the source's: mint and quote before the boundary, which may throw
by itself. A status weaker than `confirmed` cannot be passed here in the source. -/
def validateExternalBuy (input : ExternalBuyInput) : Checked Unit := do
  text input.tradeId "external buy trade id"
  let inconsistent := PaperError.typeError "External buy evidence is inconsistent."
  require (input.mint = session.mint ∧ input.quoteMint = session.quoteAsset.mint) inconsistent
  let after ← isStrictlyAfterPaperEntry session input.cursor
  require (after = true ∧ (input.confirmationStatus = .finalized ∨
    session.minimumConfirmation = .confirmed) ∧ input.trader ≠ "") inconsistent
  domainChecked (assertValidTimestampMs .observedAtMs input.observedAtMs)

structure CountUniqueExternalBuyResult where
  session : PaperStrategySessionV2
  evidence : Option PaperExternalBuyEvidenceV2
  targetReached : Bool

/-- The session after one more counted buy. -/
def countedSession (input : ExternalBuyInput)
    (fresh : ¬ (input.tradeId ∈ session.countedTradeIds ∨
      input.trader ∈ session.countedBuyerWallets ∨
      session.externalBuyCount = session.externalBuyTarget)) : PaperStrategySessionV2 :=
  let targetReached : Bool := session.externalBuyCount + 1 = session.externalBuyTarget
  { session with
    state := if targetReached then .EXIT_PENDING_QUOTE else .WAITING_EXTERNAL_BUYS
    reasonCode := if targetReached then .EXTERNAL_UNIQUE_BUYERS_TARGET_REACHED
      else .EXTERNAL_UNIQUE_BUY_OBSERVED
    externalBuyCount := session.externalBuyCount + 1
    countedTradeIds := session.countedTradeIds ++ [input.tradeId]
    countedBuyerWallets := session.countedBuyerWallets ++ [input.trader]
    lastCountedCursor := some input.cursor
    pendingExitReason := if targetReached then some .EXTERNAL_UNIQUE_BUYERS_TARGET_REACHED
      else session.pendingExitReason
    closeCommandId := if targetReached ∧ session.positionId.isSome then
        session.positionId.map fun positionId =>
          creationExitCommandId digests positionId .EXTERNAL_UNIQUE_BUYERS_TARGET_REACHED
      else session.closeCommandId
    lastError := none
    updatedAtMs := input.observedAtMs
    withinTarget := by
      have bound := session.withinTarget
      grind
    tradesCounted := by simp [session.tradesCounted]
    walletsCounted := by simp [session.walletsCounted]
    distinctTrades := by
      have distinct := session.distinctTrades
      simp only [List.nodup_append, List.nodup_cons, List.mem_singleton]
      grind
    distinctWallets := by
      have distinct := session.distinctWallets
      simp only [List.nodup_append, List.nodup_cons, List.mem_singleton]
      grind }

def countUniqueExternalBuy (input : ExternalBuyInput) : Checked CountUniqueExternalBuyResult := do
  validateExternalBuy session input
  text input.trader "buyer wallet"
  require (0 < input.quoteAmountRaw) (.typeError "Creation external buy amount is invalid.")
  if counted : input.tradeId ∈ session.countedTradeIds ∨
      input.trader ∈ session.countedBuyerWallets ∨
      session.externalBuyCount = session.externalBuyTarget then
    return ⟨session, none, session.externalBuyCount = session.externalBuyTarget⟩
  else
    let targetReached : Bool := session.externalBuyCount + 1 = session.externalBuyTarget
    -- The close command id is computed from the position id, which is tested once more.
    if targetReached then validatePositionId session.positionId
    return {
      session := countedSession digests session input counted
      evidence := some {
        sessionId := session.id
        tradeId := input.tradeId
        mint := input.mint
        quoteMint := input.quoteMint
        trader := input.trader
        quoteAmountRaw := input.quoteAmountRaw
        cursor := input.cursor
        confirmationStatus := input.confirmationStatus
        observedAtMs := input.observedAtMs }
      targetReached := targetReached }

end SolTokenListener.Source.PaperStrategy
