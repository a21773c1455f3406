import SolTokenListener.Guarantees.CreationCount

/-!
# Exit reasons of a creation position

The documented order (README, lines 229-230) is kill switch, creator sell, take profit, unique
buyers. It is stated here on the trades and the quote alone and compared with the reason a
closing call records, which may instead be a reason the session carried into the call or set
while counting. The same reason is compared with the one computed again from a position that
was closed before its session was saved.
-/

namespace SolTokenListener.Guarantees.CreationExit

open Lib.Checked Lib.Transaction
open Source.Chain Source.PaperTrading
open Source.PaperLedger Source.PaperCommand
open Source.PaperTradingEngine
open Source.PaperStrategy Source.CreationEntryStrategy
open Guarantees.PaperLedger Guarantees.PaperIdempotence
open Guarantees.CreationCount

variable {options : CreationEntryOptions} {collation : Collation} {digests : Digests}
variable {engine : Engine} {env : Environment} {ledger after : Ledger} {input : ReconcileInput}
variable {quoted : Except QuoteFailure PaperExecutionQuote} {observed : Observation}
variable {sellQuote : PaperExecutionQuote} {reason : CreationExitReason} {triggerAtMs : Option Int}
variable {position : PaperPosition} {session : PaperStrategySessionV2} {trigger : DomainEvent}
variable {plan : ExitPlan} {result : CreationEntryStrategyResult}

/-! ## The documented order -/

section Order

variable (options collation digests input sellQuote)

/-- A confirmed sell of the position's pair by the creator, in a later slot than the entry. -/
def isCreatorExit (facts : TradeFacts) : Bool :=
  facts.kind = .SELL ∧ facts.trader = some input.creator ∧
    facts.mint = input.candidate.mint ∧ facts.quoteMint = input.candidate.quoteAsset.mint ∧
    confirmationReached facts.confirmationStatus input.session.minimumConfirmation ∧
    input.session.entryBoundary.any fun boundary => boundary.slot < facts.cursor.slot

def creatorSold : Bool :=
  input.launchTrades.any (fun event => isCreatorExit input (launchFacts event)) ||
    input.marketTrades.any fun trade => isCreatorExit input (marketFacts trade)

/-- The wallets counted before together with those of the supplied trades reach the target. -/
def uniqueBuyersReached : Bool :=
  input.session.externalBuyTarget ≤
    (input.session.countedBuyerWallets ++ uniqueExternalWallets input).dedup.length

/-- The stored count and the new buys of the supplied trades reach the target. -/
def targetCounted : Bool :=
  input.session.externalBuyTarget ≤ input.session.externalBuyCount +
    (newBuys input.session (suppliedBuys collation digests input)).length

/-- The reason a call carries into pricing: the stored one, unless the stored count is below the
target and the new buys of the supplied trades reach it. -/
def carriedReason : Option CreationExitReason :=
  if input.session.externalBuyCount < input.session.externalBuyTarget ∧
      targetCounted collation digests input then some .EXTERNAL_UNIQUE_BUYERS_TARGET_REACHED
  else input.session.pendingExitReason

/-- The quote reaches the multiplier of the cost. -/
abbrev takesProfit : Bool :=
  reachesMultiplier options sellQuote.minimumAmountOutRaw input.position.quoteCostRaw

/-- The first true reason in the documented order. -/
def documentedReason : Option CreationExitReason :=
  if options.manualKillSwitch then some .MANUAL_KILL_SWITCH
  else if creatorSold input then some .CREATOR_EARLY_SELL
  else if takesProfit options input sellQuote then some .TAKE_PROFIT_2X_EXECUTABLE
  else if uniqueBuyersReached input then some .EXTERNAL_UNIQUE_BUYERS_TARGET_REACHED
  else none

end Order

/-! ## What a call observes -/

variable {choice : Option DomainEvent}

theorem launchSell_ok {event : BondingCurveTradeObservedEvent}
    (selected : launchSell input event = .ok choice) :
    choice.map (fun _ => ()) = if isCreatorExit input (launchFacts event) then some () else none := by
  simp only [launchSell, bind_eq_ok] at selected
  obtain ⟨after, tested, selected⟩ := selected
  have same : isCreatorExit input (launchFacts event) = after := by
    rw [afterEntry_ok tested]
    simp [isCreatorExit, isCreatorSell, Bool.decide_and, Bool.and_assoc]
  rw [same]
  split at selected <;> · cases selected; simp_all

theorem marketSell_ok {trade : MarketTrade} (selected : marketSell digests input trade = .ok choice) :
    choice.map (fun _ => ()) = if isCreatorExit input (marketFacts trade) then some () else none := by
  simp only [marketSell, bind_eq_ok] at selected
  obtain ⟨after, tested, selected⟩ := selected
  have same : isCreatorExit input (marketFacts trade) = after := by
    rw [afterEntry_ok tested]
    simp [isCreatorExit, isCreatorSell, Bool.decide_and, Bool.and_assoc]
  rw [same]
  split at selected
  · simp only [bind_eq_ok, pure_eq_ok] at selected
    obtain ⟨_, -, rfl⟩ := selected
    simp_all
  · cases selected
    simp_all

theorem collected_isEmpty {α β : Type} {test : α → Bool} {items : List α} {chosen : List β}
    (collected : chosen.map (fun _ => ()) = items.filterMap fun item => if test item then some () else none) :
    chosen = [] ↔ items.any test = false := by
  rw [← List.map_eq_nil_iff, collected, List.filterMap_eq_nil_iff, List.any_eq_false]
  constructor
  · intro none item member holds
    have := none item member
    simp [holds] at this
  · intro rejected item member
    simp [rejected item member]

theorem earliestCreatorSell_ok {sell : Option DomainEvent}
    (found : earliestCreatorSell collation digests input = .ok sell) :
    sell ≠ none ↔ creatorSold input = true := by
  simp only [earliestCreatorSell, bind_eq_ok] at found
  obtain ⟨launched, launchedOk, marketed, marketedOk, found⟩ := found
  have launchedEmpty := collected_isEmpty
    (map_collect (fun _ _ selected => launchSell_ok selected) launchedOk)
  have marketedEmpty := collected_isEmpty
    (map_collect (fun _ _ selected => marketSell_ok selected) marketedOk)
  have head : sell = ((launched ++ marketed).insertionSort (sellNotAfter collation)).head? := by
    split at found
    · simp only [bind_eq_ok, pure_eq_ok] at found
      obtain ⟨_, -, rfl⟩ := found
      rfl
    · simp only [pure_eq_ok] at found
      exact found.symm
  have sorted := List.perm_insertionSort (sellNotAfter collation) (launched ++ marketed)
  rw [head, ne_eq, List.head?_eq_none_iff, ← List.length_eq_zero_iff, sorted.length_eq,
    List.length_eq_zero_iff, List.append_eq_nil_iff, launchedEmpty, marketedEmpty, creatorSold,
    ← Bool.or_eq_false_iff, Bool.not_eq_false]

/-- What a call knows once it has observed its trades, in terms of its input. -/
structure Observed (collation : Collation) (digests : Digests) (input : ReconcileInput)
    (observed : Observation) : Prop where
  rules : SameRules input.session observed.session
  creator : observed.creatorSell ≠ none ↔ creatorSold input = true
  reached : observed.session.externalBuyTarget ≤ observed.session.externalBuyCount ↔
    targetCounted collation digests input = true
  /-- A reached count is a reached set of wallets. -/
  unique : targetCounted collation digests input = true → uniqueBuyersReached input = true
  source : observed.targetBuy ≠ none → targetCounted collation digests input = true
  carried : observed.session.pendingExitReason = carriedReason collation digests input

/-- The buys counted now cross the target exactly if there are new buys enough to reach it. -/
theorem countedNow_crosses (session : PaperStrategySessionV2) (buys : List CanonicalBuy) :
    countedNow session buys ≠ [] ∧
        session.externalBuyCount + (countedNow session buys).length = session.externalBuyTarget ↔
      session.externalBuyCount < session.externalBuyTarget ∧
        session.externalBuyTarget ≤ session.externalBuyCount + (newBuys session buys).length := by
  have within := session.withinTarget
  rw [ne_eq, ← List.length_eq_zero_iff, countedNow, List.length_take]
  omega

/-- The loop over the supplied buys, seen from its input. -/
theorem counts_reached {state : CountState}
    (counts : CountsTo digests input.candidate ⟨input.session, [], trigger,
      none⟩ (countedNow input.session (suppliedBuys collation digests input)) state) :
    (state.session.externalBuyTarget ≤ state.session.externalBuyCount ↔
        targetCounted collation digests input = true) ∧
      (state.session.pendingExitReason, state.targetBuy) =
        if input.session.externalBuyCount < input.session.externalBuyTarget ∧
            targetCounted collation digests input then
          (some .EXTERNAL_UNIQUE_BUYERS_TARGET_REACHED,
            (countedNow input.session (suppliedBuys collation digests input)).getLast?)
        else (input.session.pendingExitReason, none) := by
  have total : state.session.externalBuyCount = input.session.externalBuyCount +
      (countedNow input.session (suppliedBuys collation digests input)).length := counts.total
  have target : state.session.externalBuyTarget = input.session.externalBuyTarget := counts.rules.target
  have within := input.session.withinTarget
  constructor
  · rw [targetCounted, decide_eq_true_eq, total, target, countedNow, List.length_take]
    omega
  · rw [counts.target, total, target]
    simp only [targetCounted, decide_eq_true_eq, countedNow_crosses]

theorem observe_ok
    (seen : observe options collation digests input = .ok observed) :
    Observed collation digests input observed := by
  obtain ⟨state, listed, counts, sameSession, sameTarget, found, -⟩ := observe_counts seen
  obtain ⟨reached, outcome⟩ := counts_reached counts
  refine ⟨sameSession ▸ counts.rules, earliestCreatorSell_ok found, by rwa [sameSession], ?_, ?_, ?_⟩
  · intro counted
    -- The counted wallets are distinct and all of them are known.
    have subset : state.session.countedBuyerWallets ⊆
        (input.session.countedBuyerWallets ++ uniqueExternalWallets input).dedup := by
      rw [counts.wallets]
      intro wallet member
      rw [List.mem_dedup, List.mem_append]
      refine (List.mem_append.mp member).imp_right fun now => ?_
      obtain ⟨buy, isCounted, rfl⟩ := List.mem_map.mp now
      exact ((canonicalBuys_ok listed).2.1 _).mp (List.mem_map_of_mem
        (newBuys_sublist.mem (List.mem_of_mem_take isCounted)))
    have atMost := (List.subperm_of_subset state.session.distinctWallets subset).length_le
    have full := reached.mpr counted
    rw [state.session.walletsCounted] at atMost
    rw [counts.rules.target] at full
    rw [uniqueBuyersReached, decide_eq_true_eq]
    exact full.trans atMost
  · intro present
    rw [sameTarget] at present
    by_contra uncounted
    rw [if_neg fun crossed => uncounted crossed.2, Prod.mk.injEq] at outcome
    rw [outcome.2, Option.none_or, storedTargetBuy, if_neg (uncounted ∘ reached.mp)] at present
    exact present rfl
  · have reason : state.session.pendingExitReason = _ := congrArg Prod.fst outcome
    rw [sameSession, reason, carriedReason]
    split <;> rfl

/-! ## The recorded reason and the documented one -/

variable (options collation digests input sellQuote) in
/-- The reason carried into pricing is not ahead of the documented order. -/
def CarriedInOrder : Prop :=
  let profit := takesProfit options input sellQuote
  let carried := carriedReason collation digests input
  options.manualKillSwitch = true ∨ creatorSold input = true ∨ carried = none ∨
    (carried = some .EXTERNAL_UNIQUE_BUYERS_TARGET_REACHED ∧ profit = false) ∨
    (carried = some .TAKE_PROFIT_2X_EXECUTABLE ∧ profit = true)

theorem reasonCode_injective {left right : CreationExitReason}
    (same : left.reasonCode = right.reasonCode) : left = right := by
  cases left <;> cases right <;> first | rfl | cases same

/-- A selected exit has its source: the creator's sell or the target buy. -/
theorem exitTriggerAtMs_ok
    (triggered : exitTriggerAtMs options input observed sellQuote reason = .ok triggerAtMs) :
    (reason = .CREATOR_EARLY_SELL → observed.creatorSell ≠ none) ∧
      (reason = .EXTERNAL_UNIQUE_BUYERS_TARGET_REACHED → observed.targetBuy ≠ none) := by
  constructor
  · intro isCreator missing
    subst isCreator
    simp [exitTriggerAtMs, missing, throw, throwThe, MonadExceptOf.throw] at triggered
  · intro isExternal missing
    subst isExternal
    simp [exitTriggerAtMs, missing, throw, throwThe, MonadExceptOf.throw] at triggered

variable (options collation digests input sellQuote) in
/-- Why a reason was selected: the first that holds, the one carried into pricing before the last two. -/
inductive Selected : CreationExitReason → Prop
  | killed (killed : options.manualKillSwitch = true) :
      Selected .MANUAL_KILL_SWITCH
  | sold (running : options.manualKillSwitch = false) (sold : creatorSold input = true) :
      Selected .CREATOR_EARLY_SELL
  | carried {reason : CreationExitReason} (running : options.manualKillSwitch = false)
      (unsold : creatorSold input = false) (carried : carriedReason collation digests input = some reason)
      (notSale : reason ≠ .CREATOR_EARLY_SELL)
      (reached : reason = .EXTERNAL_UNIQUE_BUYERS_TARGET_REACHED →
        targetCounted collation digests input = true) :
      Selected reason
  | profit (running : options.manualKillSwitch = false) (unsold : creatorSold input = false)
      (empty : carriedReason collation digests input = none)
      (profit : takesProfit options input sellQuote = true) :
      Selected .TAKE_PROFIT_2X_EXECUTABLE
  | buyers (running : options.manualKillSwitch = false) (unsold : creatorSold input = false)
      (empty : carriedReason collation digests input = none)
      (unprofitable : takesProfit options input sellQuote = false)
      (reached : targetCounted collation digests input = true) :
      Selected .EXTERNAL_UNIQUE_BUYERS_TARGET_REACHED

theorem creatorSell_none (facts : Observed collation digests input observed) (unsold : creatorSold input = false) :
    observed.creatorSell = none := by
  by_contra present
  exact absurd (facts.creator.mp present) (by rw [unsold]; exact Bool.false_ne_true)

theorem selected_of_exitReason (facts : Observed collation digests input observed)
    (selected : exitReason options input observed sellQuote = some reason)
    (triggered : exitTriggerAtMs options input observed sellQuote reason = .ok triggerAtMs) :
    Selected options collation digests input sellQuote reason := by
  obtain ⟨creatorSource, buyerSource⟩ := exitTriggerAtMs_ok triggered
  unfold exitReason mandatoryReason at selected
  cases running : options.manualKillSwitch with
  | true =>
    rw [running, if_pos rfl, Option.some_or, Option.some.injEq] at selected
    exact selected ▸ .killed running
  | false =>
    rw [running, if_neg Bool.false_ne_true] at selected
    cases sold : creatorSold input with
    | true =>
      rw [if_neg (facts.creator.mpr sold), Option.some_or, Option.some.injEq] at selected
      exact selected ▸ .sold running sold
    | false =>
      have absent := creatorSell_none facts sold
      rw [if_pos absent] at selected
      rw [facts.carried] at selected
      cases carried : carriedReason collation digests input with
      | some pending =>
        rw [carried, Option.some_or, Option.some.injEq] at selected
        subst selected
        exact .carried running sold carried (fun isSale => creatorSource isSale absent)
          fun isBuyers => facts.source (buyerSource isBuyers)
      | none =>
        rw [carried, Option.none_or] at selected
        split at selected
        · next profit =>
            cases selected
            exact .profit running sold carried profit
        · next unprofitable =>
            split at selected
            · next reached =>
                cases selected
                exact .buyers running sold carried (by simpa using unprofitable)
                  (facts.reached.mp reached)
            · cases selected

theorem documentedReason_iff (facts : Observed collation digests input observed)
    (selected : Selected options collation digests input sellQuote reason)
    (unkilled : input.session.pendingExitReason ≠ some .MANUAL_KILL_SWITCH) :
    documentedReason options input sellQuote = some reason ↔
      CarriedInOrder options collation digests input sellQuote := by
  unfold CarriedInOrder documentedReason
  cases selected with
  | killed killed => simp [killed]
  | sold running sold => simp [running, sold]
  | profit running unsold empty profit => simp [running, unsold, empty, profit]
  | buyers running unsold empty unprofitable reached =>
    simp [running, unsold, empty, unprofitable, facts.unique reached]
  | carried running unsold carried notSale reached =>
    cases reason with
    | EXTERNAL_UNIQUE_BUYERS_TARGET_REACHED =>
      simp [running, unsold, carried, facts.unique (reached rfl)]
    | TAKE_PROFIT_2X_EXECUTABLE => simp [running, unsold, carried]
    | CREATOR_EARLY_SELL => exact absurd rfl notSale
    | MANUAL_KILL_SWITCH =>
      -- Counting sets no manual reason, so this one would have been stored.
      rw [carriedReason] at carried
      split at carried
      · cases carried
      · exact absurd carried unkilled

/-- The session of a completed exit records the selected reason, and its command id. -/
theorem completeExit_session
    (completed : completeExit options digests input plan position = .ok result) :
    result.session.reasonCode = plan.reason.reasonCode ∧
      result.session.closeCommandId = plan.observed.session.positionId.map fun positionId =>
        creationExitCommandId digests positionId plan.reason := by
  simp only [completeExit, bind_eq_ok] at completed
  obtain ⟨_, -, session, updated, built⟩ := completed
  obtain ⟨-, -, -, -, -, -, -, -, reasonCode, -, commandId⟩ := createCreationEntrySession_ok updated
  rw [(strategyResult_ok built).1, reasonCode, commandId]
  refine ⟨rfl, ?_⟩
  cases plan.observed.session.positionId <;> rfl

/-- When a closing call records the documented reason: exactly when no reason the session
carries into pricing is ahead of the documented order. -/
theorem recordedReason_documented_iff (options : CreationEntryOptions) (collation : Collation)
    (digests : Digests) (engine : Engine) (env : Environment) (input : ReconcileInput)
    (quoted : Except QuoteFailure PaperExecutionQuote) (ledger after : Ledger)
    (result : CreationEntryStrategyResult) (sellQuote : PaperExecutionQuote)
    (unkilled : input.session.pendingExitReason ≠ some .MANUAL_KILL_SWITCH)
    (quote : checkedQuote input quoted = .ok sellQuote)
    (returned : reconcile options collation digests engine env input quoted ledger =
      (.ok result, after))
    (closes : result.requestedAction = .CLOSE) :
    (∃ reason, documentedReason options input sellQuote = some reason ∧
        result.session.reasonCode = reason.reasonCode) ↔
      CarriedInOrder options collation digests input sellQuote := by
  obtain ⟨-, observed, seen, ⟨-, idle, -⟩ | ⟨plan, position, -, planned, -, completed⟩⟩ :=
    reconcile_ok returned
  · rw [closes] at idle
    cases idle
  have sameQuote := planned.quote
  rw [quote] at sameQuote
  cases sameQuote
  have facts := observe_ok seen
  have selected := selected_of_exitReason facts planned.reason planned.trigger
  rw [← documentedReason_iff facts selected unkilled, (completeExit_session completed).1]
  constructor
  · intro agrees
    obtain ⟨reason, documented, same⟩ := agrees
    rw [documented, reasonCode_injective same]
  · intro documented
    exact ⟨plan.reason, documented, rfl⟩

/-- One counted wallet of two, and a quote for twice the cost. -/
def profitCall : ReconcileCall := sampleCall [sampleTrade "t1" "w1" 12] (.ok sampleQuote)

/-- Both wallets counted in this call, and a quote for twice the cost. -/
def profitAndTargetCall : ReconcileCall :=
  sampleCall [sampleTrade "t1" "w1" 12, sampleTrade "t2" "w2" 13] (.ok sampleQuote)

def sampleReconcile (call : ReconcileCall) : Checked CreationEntryStrategyResult × Ledger :=
  reconcile sampleOptions sampleCollation sampleDigests sampleEngine sampleEnvironment
    (callInput sampleSetting sampleSession call) call.quoted sampleLedger

theorem exists_of_map_eq {α β : Type} {result : Checked α} {view : α → β} {seen : β}
    (same : result.map view = .ok seen) : ∃ value, result = .ok value ∧ view value = seen := by
  cases result with
  | ok value => exact ⟨value, rfl, Except.ok.inj same⟩
  | error error => cases same

/-- The sample call closes the position. -/
theorem profitCall_closes : ∃ result, (sampleReconcile profitCall).1 = .ok result ∧
    result.requestedAction = .CLOSE :=
  exists_of_map_eq (by decide +kernel :
    (sampleReconcile profitCall).1.map (·.requestedAction) = .ok .CLOSE)

/-- Nothing is carried into the sample call, so it records the documented take profit. -/
theorem recordedReason_documented_iff_sample :
    CarriedInOrder sampleOptions sampleCollation sampleDigests
        (callInput sampleSetting sampleSession profitCall) sampleQuote ∧
      ∃ result reason, (sampleReconcile profitCall).1 = .ok result ∧
        documentedReason sampleOptions (callInput sampleSetting sampleSession profitCall) sampleQuote =
          some reason ∧ result.session.reasonCode = reason.reasonCode := by
  have ordered : CarriedInOrder sampleOptions sampleCollation sampleDigests
      (callInput sampleSetting sampleSession profitCall) sampleQuote :=
    .inr (.inr (.inl (by decide +kernel)))
  obtain ⟨result, returned, closes⟩ := profitCall_closes
  obtain ⟨reason, documented, recorded⟩ := (recordedReason_documented_iff sampleOptions
    sampleCollation sampleDigests sampleEngine sampleEnvironment _ _ sampleLedger _ result sampleQuote
    (by decide) (by rfl) (Prod.ext returned rfl) closes).mpr ordered
  exact ⟨ordered, result, reason, returned, documented, recorded⟩

/-- The target reached while counting is recorded ahead of a take profit that is executable. -/
theorem takeProfit_not_recorded :
    documentedReason sampleOptions (callInput sampleSetting sampleSession profitAndTargetCall)
        sampleQuote = some .TAKE_PROFIT_2X_EXECUTABLE ∧
      (sampleReconcile profitAndTargetCall).1.map
          (fun result => (result.requestedAction, result.session.reasonCode)) =
        .ok (.CLOSE, .EXTERNAL_UNIQUE_BUYERS_TARGET_REACHED) :=
  ⟨by decide +kernel, by decide +kernel⟩

/-! ## Recovery of an unsaved close -/

variable (options collation digests input sellQuote) in
/-- The reason computed again from the closed position is the recorded one. -/
def CarriedRecovers : Prop :=
  let profit := takesProfit options input sellQuote
  let reached := targetCounted collation digests input
  options.manualKillSwitch = true ∨ creatorSold input = true ∨
    match carriedReason collation digests input with
    | none => True
    | some .EXTERNAL_UNIQUE_BUYERS_TARGET_REACHED => profit = false
    | some .TAKE_PROFIT_2X_EXECUTABLE => profit = true ∨ reached = false
    | some .MANUAL_KILL_SWITCH => profit = false ∧ reached = false
    | some .CREATOR_EARLY_SELL => True

/-- The call made again after a restart, on the position as the ledger has it now. -/
def resumed (input : ReconcileInput) (position : PaperPosition) (nowMs : Int) : ReconcileInput :=
  { input with position, nowMs }

theorem recoveredReason_iff (facts : Observed collation digests input observed)
    (selected : Selected options collation digests input sellQuote reason) :
    recoveredReason options observed sellQuote.minimumAmountOutRaw input.position.quoteCostRaw =
        some reason ↔
      CarriedRecovers options collation digests input sellQuote := by
  unfold CarriedRecovers recoveredReason
  simp only [ge_iff_le, facts.reached, facts.carried]
  cases selected with
  | killed killed => simp [killed]
  | sold running sold => simp [running, sold, facts.creator.mpr sold]
  | profit running unsold empty profit =>
    simp [running, unsold, creatorSell_none facts unsold, empty, profit]
  | buyers running unsold empty unprofitable reached =>
    simp [running, unsold, creatorSell_none facts unsold, empty, unprofitable, reached]
  | carried running unsold carried notSale reached =>
    have absent := creatorSell_none facts unsold
    cases reason with
    | EXTERNAL_UNIQUE_BUYERS_TARGET_REACHED => simp [running, unsold, absent, carried, reached rfl]
    | TAKE_PROFIT_2X_EXECUTABLE =>
      cases profit : takesProfit options input sellQuote <;>
        simp [running, unsold, absent, carried, profit]
    | CREATOR_EARLY_SELL => exact absurd rfl notSale
    | MANUAL_KILL_SWITCH =>
      cases targetCounted collation digests input <;>
        cases profit : takesProfit options input sellQuote <;>
          simp [running, unsold, absent, carried, profit]

variable {create : CreateCreationEntrySessionInput}

/-- The last quote of a session is not tested when it is created. -/
theorem createCreationEntrySession_lastQuote (lastQuote : Option PaperExecutionQuote)
    (created : createCreationEntrySession digests create = .ok session) :
    ∃ again, createCreationEntrySession digests { create with lastQuote } = .ok again := by
  simp only [createCreationEntrySession, bind_eq_ok, pure_eq_ok] at created ⊢
  obtain ⟨counted, validated, _, strategy, wallets, distinct, _, minimum, _, walletTexts, _, pending,
    _, boundary, -⟩ := created
  exact ⟨_, counted, validated, (), strategy, wallets, distinct, (), minimum, (), walletTexts, (),
    pending, (), boundary, rfl⟩

variable {counted : List PaperExternalBuyEvidenceV2}

/-- A session event needs a valid trigger cursor and nothing else. -/
theorem strategyResult_returns {action : RequestedAction} {candidateId : String}
    (identity : session.id = createSessionId digests candidateId)
    (cursor : assertValidChainCursor trigger.cursor = .ok ()) :
    ∃ result, strategyResult digests session counted position trigger action = .ok result := by
  have size : (session.id ++ ":" ++ digests.hashSession session).utf8ByteSize = 143 := by
    obtain ⟨parts, isId⟩ : ∃ parts, createSessionId digests candidateId = "paper_session_" ++ digests.hash parts :=
      ⟨_, rfl⟩
    rw [identity, isId, String.utf8ByteSize_append, String.utf8ByteSize_append, String.utf8ByteSize_append,
      digests.hashLength, digests.hashSessionLength]
    rfl
  have qualifier : session.id ++ ":" ++ digests.hashSession session ≠ "" ∧
      (session.id ++ ":" ++ digests.hashSession session).utf8ByteSize ≤ 16384 := by
    refine ⟨fun empty => ?_, by omega⟩
    rw [empty] at size
    cases size
  have valid : domainChecked (assertValidChainCursor trigger.cursor) = .ok () := by
    rw [cursor]
    rfl
  simp only [strategyResult, createSessionEvent, createDeterministicDerivedEventId,
    createDeterministicChainEventId, bind_eq_ok, pure_eq_ok, require_eq_ok]
  exact ⟨_, _, ⟨_, ⟨(), qualifier, _, ⟨(), valid, rfl⟩, rfl⟩, rfl⟩, rfl⟩

theorem strategyResult_cursor {action : RequestedAction}
    (built : strategyResult digests session counted position trigger action = .ok result) :
    assertValidChainCursor trigger.cursor = .ok () := by
  simp only [strategyResult, createSessionEvent, createDeterministicDerivedEventId,
    createDeterministicChainEventId, bind_eq_ok, pure_eq_ok] at built
  obtain ⟨_, ⟨_, ⟨_, _, _, ⟨_, valid, _⟩, _⟩, _⟩, _⟩ := built
  cases cursor : assertValidChainCursor trigger.cursor with
  | ok value => rfl
  | error error =>
    rw [cursor] at valid
    cases valid

/-- Closing a held row of a reachable ledger stores and returns that row, closed by this command,
whose trigger is not orphaned. -/
theorem closePosition_held {command : ClosePaperPositionCommand} {closed : PaperPosition}
    (invariant : LedgerInvariant ledger) (member : position ∈ ledger.positions)
    (held : position.status = .PAPER_HOLDING) (target : command.positionId = position.id)
    (closes : closePosition engine env command ledger = (.ok closed, after)) :
    command.trigger.confirmationStatus ≠ .orphaned ∧ closed ∈ after.positions ∧
      ∃ prepared, prepared.snapshot = command ∧ closed = closedPosition engine prepared position := by
  obtain ⟨prepared, final, checks, body, rfl⟩ := runCommand_ok closes
  have snapshot : prepared.snapshot = command := by
    have snapshotted := (closeChecks_ok checks).1
    simp only [snapshotCloseCommand, snapshotTrigger, bind_eq_ok, pure_eq_ok] at snapshotted
    obtain ⟨_, ⟨_, _, _, _, _, _, rfl⟩, same⟩ := snapshotted
    exact same.symm
  obtain ⟨current, currentMember, identity, middle, same, branches⟩ := closeTransaction_cases body
  have unique : current = position := List.inj_on_of_nodup_map invariant.identities currentMember
    member (identity.trans (snapshot ▸ target))
  subst unique
  rcases branches with ⟨settled, -⟩ | ⟨-, closing⟩
  · exact absurd held settled
  · rw [← same] at currentMember
    obtain ⟨-, isClosed, stored, -⟩ := closeHeld_ok currentMember held closing
    have live : prepared.snapshot.trigger.confirmationStatus ≠ .orphaned := by
      simp only [closeHeld, exec_bind_ok] at closing
      obtain ⟨_, _, checked, -⟩ := closing
      have valid := (check_ok checked).1
      simp only [validateCloseCommand, rejectOrphanedTrigger, bind_eq_ok, require_eq_ok] at valid
      exact valid.choose_spec.1
    exact ⟨snapshot ▸ live, isClosed ▸ stored, prepared, snapshot, isClosed⟩

/-- On a closed position, a call recovers. -/
theorem reconcile_closed (checked : reconcileChecks input = .ok ())
    (seen : observe options collation digests input = .ok observed)
    (closed : input.position.status = .PAPER_CLOSED) :
    reconcile options collation digests engine env input quoted ledger =
      (recoverClosed options digests input observed, ledger) := by
  unfold reconcile decideReconcile
  simp only [checked, seen, closed, ↓reduceIte, bind, Except.bind, pure, Except.pure]
  cases recoverClosed options digests input observed <;> rfl

theorem recoverClosed_session {proceedsRaw : Int}
    (proceeds : input.position.quoteProceedsRaw = some proceedsRaw)
    (recovered : recoverClosed options digests input observed = .ok result) :
    ∃ reason, recoveredReason options observed proceedsRaw input.position.quoteCostRaw = some reason ∧
      result.session.state = .PAPER_CLOSED ∧ result.session.reasonCode = reason.reasonCode ∧
      result.session.closeCommandId = observed.session.positionId.map fun positionId =>
        creationExitCommandId digests positionId reason := by
  unfold recoverClosed at recovered
  split at recovered
  · next closedAtMs purgeAfterMs quoteProceedsRaw _ _ sameProceeds =>
      rw [proceeds] at sameProceeds
      cases sameProceeds
      split at recovered
      · cases recovered
      · next reason selected =>
          simp only [bind_eq_ok] at recovered
          obtain ⟨session, updated, built⟩ := recovered
          obtain ⟨-, -, -, -, -, -, -, state, reasonCode, -, commandId⟩ :=
            createCreationEntrySession_ok updated
          rw [(strategyResult_ok built).1, state, reasonCode, commandId]
          refine ⟨reason, selected, rfl, rfl, ?_⟩
          cases observed.session.positionId <;> rfl
  · cases recovered

theorem createCreationEntrySession_id
    (created : createCreationEntrySession digests create = .ok session) :
    session.id = createSessionId digests create.candidate.id := by
  simp only [createCreationEntrySession, bind_eq_ok, pure_eq_ok] at created
  obtain ⟨_, _, _, _, _, _, _, _, _, _, _, _, _, _, rfl⟩ := created
  rfl

/-- The session a recovery creates for the given reason. -/
def recoveredSession (observed : Observation) (position : PaperPosition) (closedAtMs purgeAfterMs : Int)
    (reason : CreationExitReason) : PaperStrategySessionV2 :=
  { observed.session with
    state := .PAPER_CLOSED
    reasonCode := reason.reasonCode
    pendingExitReason := some reason
    pendingExitTriggerAtMs := if reason = .MANUAL_KILL_SWITCH then
        observed.session.pendingExitTriggerAtMs.or position.exitTriggerAtMs
      else none
    lastError := none
    updatedAtMs := closedAtMs
    purgeAfterMs := purgeAfterMs }

theorem recoverClosed_returns {closedAtMs purgeAfterMs proceedsRaw : Int}
    (closedAt : input.position.closedAtMs = some closedAtMs)
    (purgeAfter : input.position.purgeAfterMs = some purgeAfterMs)
    (proceeds : input.position.quoteProceedsRaw = some proceedsRaw)
    (selected : recoveredReason options observed proceedsRaw input.position.quoteCostRaw = some reason)
    (created : updateSession digests input.candidate
      (recoveredSession observed input.position closedAtMs purgeAfterMs reason) = .ok session)
    (cursor : assertValidChainCursor observed.trigger.cursor = .ok ()) :
    ∃ result, recoverClosed options digests input observed = .ok result := by
  obtain ⟨result, built⟩ : ∃ result, strategyResult digests session observed.counted input.position
      observed.trigger .NONE = .ok result :=
    strategyResult_returns (createCreationEntrySession_id created) cursor
  refine ⟨result, ?_⟩
  unfold recoverClosed
  simp only [closedAt, purgeAfter, proceeds, selected]
  rw [bind_eq_ok]
  exact ⟨session, created, built⟩

theorem mandatoryReason_of_manual
    (selected : exitReason options input observed sellQuote = some .MANUAL_KILL_SWITCH) :
    mandatoryReason options observed = some .MANUAL_KILL_SWITCH := by
  unfold exitReason at selected
  cases mandatory : mandatoryReason options observed with
  | some reason => rwa [mandatory, Option.some_or] at selected
  | none =>
    rw [mandatory, Option.none_or] at selected
    split at selected
    · cases selected
    · split at selected <;> cases selected

/-- The manual trigger stored with the position is the one the session would have kept. -/
theorem manualExitTriggerAtMs_stored (nowMs : Int)
    (manual : mandatoryReason options observed = some .MANUAL_KILL_SWITCH) :
    observed.session.pendingExitTriggerAtMs.or (manualExitTriggerAtMs options observed nowMs) =
      manualExitTriggerAtMs options observed nowMs := by
  rw [manualExitTriggerAtMs, if_pos manual]
  cases observed.session.pendingExitTriggerAtMs <;> rfl

/-- The row of the input after the exit that was planned for it. -/
structure ExitedRow (input : ReconcileInput) (plan : ExitPlan) (position : PaperPosition) : Prop where
  id : position.id = input.position.id
  status : position.status = .PAPER_CLOSED
  cost : position.quoteCostRaw = input.position.quoteCostRaw
  proceeds : position.quoteProceedsRaw = some plan.sellQuote.minimumAmountOutRaw
  trigger : position.exitTriggerAtMs = plan.exitTriggerAtMs
  settled : ∃ closedAtMs purgeAfterMs, position.closedAtMs = some closedAtMs ∧
    position.purgeAfterMs = some purgeAfterMs

/-- The ledger closes the very row the call was made for. -/
theorem exitedRow_of_close (invariant : LedgerInvariant ledger)
    (stored : input.position ∈ ledger.positions) (held : input.position.status = .PAPER_HOLDING)
    (planned : PlannedExit options input quoted observed plan)
    (closed : closePosition engine env plan.command ledger = (.ok position, after)) :
    ExitedRow input plan position := by
  obtain ⟨-, -, prepared, snapshot, rfl⟩ :=
    closePosition_held invariant stored held (by rw [planned.command]) closed
  refine ⟨rfl, rfl, rfl, ?_, ?_, prepared.closedAtMs, _, rfl, rfl⟩
  · change some prepared.snapshot.sellQuote.minimumAmountOutRaw = _
    rw [snapshot, planned.command]
  · change prepared.snapshot.exitTriggerAtMs = _
    rw [snapshot, planned.command]

/-- A recovery keeps the trigger that the uninterrupted call keeps. -/
theorem ExitedRow.keptTrigger (row : ExitedRow input plan position)
    (planned : PlannedExit options input quoted observed plan) :
    (if plan.reason = .MANUAL_KILL_SWITCH then plan.exitTriggerAtMs else none) =
      if plan.reason = .MANUAL_KILL_SWITCH then
        observed.session.pendingExitTriggerAtMs.or position.exitTriggerAtMs
      else none := by
  split
  · next manual =>
      have selected := planned.reason
      have triggered := planned.trigger
      rw [manual] at selected triggered
      simp only [exitTriggerAtMs, pure_eq_ok] at triggered
      rw [row.trigger, ← triggered, manualExitTriggerAtMs_stored _ (mandatoryReason_of_manual selected)]
  · rfl

/-- A recovery that computes the planned reason again returns. -/
theorem ExitedRow.recovers {plan : ExitPlan} {position : PaperPosition} {nowMs : Int}
    {result : CreationEntryStrategyResult} (row : ExitedRow input plan position)
    (planned : PlannedExit options input quoted plan.observed plan)
    (completed : completeExit options digests input plan position = .ok result)
    (selected : recoveredReason options plan.observed plan.sellQuote.minimumAmountOutRaw
      position.quoteCostRaw = some plan.reason) :
    ∃ again, recoverClosed options digests (resumed input position nowMs) plan.observed = .ok again := by
  simp only [completeExit, bind_eq_ok] at completed
  obtain ⟨_, -, session, updated, built⟩ := completed
  obtain ⟨closedAtMs, purgeAfterMs, closedAt, purgeAfter⟩ := row.settled
  simp only [closedAt, purgeAfter, Option.getD_some, row.keptTrigger planned] at updated
  obtain ⟨recreated, created⟩ :=
    createCreationEntrySession_lastQuote plan.observed.session.lastQuote updated
  have proceeds : (resumed input position nowMs).position.quoteProceedsRaw =
      some plan.sellQuote.minimumAmountOutRaw := row.proceeds
  exact recoverClosed_returns closedAt purgeAfter proceeds selected created (strategyResult_cursor built)

/-- When a recovery agrees with the uninterrupted run: exactly when the reason the session
carried into pricing is the one the closed position gives again. -/
theorem recoveredClose_agrees_iff (options : CreationEntryOptions) (collation : Collation)
    (digests : Digests) (engine : Engine) (history : List (Environment × PaperCommand))
    (env laterEnv : Environment) (input : ReconcileInput)
    (quoted requoted : Except QuoteFailure PaperExecutionQuote) (nowMs : Int) (after : Ledger)
    (result : CreationEntryStrategyResult) (sellQuote : PaperExecutionQuote)
    (stored : input.position ∈ (runCommands engine .empty history).positions)
    (quote : checkedQuote input quoted = .ok sellQuote)
    (returned : reconcile options collation digests engine env input quoted
      (runCommands engine .empty history) = (.ok result, after))
    (closes : result.requestedAction = .CLOSE) :
    (∃ again, reconcile options collation digests engine laterEnv
          (resumed input result.position nowMs) requoted after = (.ok again, after) ∧
        again.session.state = .PAPER_CLOSED ∧
        again.session.reasonCode = result.session.reasonCode ∧
        again.session.closeCommandId = result.session.closeCommandId) ↔
      CarriedRecovers options collation digests input sellQuote := by
  obtain ⟨checked, observed, seen, ⟨-, idle, -⟩ | ⟨plan, position, notClosed, planned, closed,
    completed⟩⟩ := reconcile_ok returned
  · rw [closes] at idle
    cases idle
  have sameQuote := planned.quote
  rw [quote] at sameQuote
  cases sameQuote
  have samePlan := planned.seen
  subst samePlan
  have facts := observe_ok seen
  have consistent := require_eq_ok.mp checked
  have held : input.position.status = .PAPER_HOLDING := consistent.2.2.2.resolve_right notClosed
  have invariant := ledgerInvariant_run engine history ledgerInvariant_empty
  have row := exitedRow_of_close invariant stored held planned closed
  obtain ⟨recordedReason, recordedId⟩ := completeExit_session completed
  have samePosition : result.position = position := by
    simp only [completeExit, bind_eq_ok] at completed
    obtain ⟨_, -, _, -, built⟩ := completed
    exact (strategyResult_ok built).2.2
  have recheck : reconcileChecks (resumed input position nowMs) = .ok () := by
    rw [reconcileChecks, require_eq_ok]
    exact ⟨consistent.1, consistent.2.1, (congrArg some row.id).trans consistent.2.2.1, .inr row.status⟩
  have reseen : observe options collation digests (resumed input position nowMs) = .ok plan.observed := seen
  have proceeds : (resumed input position nowMs).position.quoteProceedsRaw =
      some plan.sellQuote.minimumAmountOutRaw := row.proceeds
  have cost : (resumed input position nowMs).position.quoteCostRaw = input.position.quoteCostRaw := row.cost
  rw [samePosition, reconcile_closed recheck reseen row.status,
    ← recoveredReason_iff facts (selected_of_exitReason facts planned.reason planned.trigger), ← cost]
  constructor
  · intro agrees
    obtain ⟨again, recovered, -, sameReason, -⟩ := agrees
    obtain ⟨reason, selected, -, reasonCode, -⟩ :=
      recoverClosed_session proceeds (Prod.mk.inj recovered).1
    rw [reasonCode, recordedReason] at sameReason
    rw [← reasonCode_injective sameReason, ← selected]
  · intro selected
    obtain ⟨again, recovered⟩ := @ExitedRow.recovers _ _ _ _ _ _ nowMs _ row planned completed selected
    obtain ⟨reason, sameSelected, state, reasonCode, commandId⟩ :=
      recoverClosed_session proceeds recovered
    rw [selected] at sameSelected
    cases sameSelected
    exact ⟨again, by rw [recovered], state, reasonCode.trans recordedReason.symm,
      commandId.trans recordedId.symm⟩

theorem samplePosition_mem : samplePosition ∈ sampleLedger.positions := List.head_mem _

/-- Nothing is carried into the sample call, so its recovery agrees with it. -/
theorem recoveredClose_agrees_iff_sample :
    CarriedRecovers sampleOptions sampleCollation sampleDigests
        (callInput sampleSetting sampleSession profitCall) sampleQuote ∧
      ∃ result again, (sampleReconcile profitCall).1 = .ok result ∧
        reconcile sampleOptions sampleCollation sampleDigests sampleEngine sampleEnvironment
            (resumed (callInput sampleSetting sampleSession profitCall) result.position 9000)
            (.error .other) (sampleReconcile profitCall).2 = (.ok again, (sampleReconcile profitCall).2) ∧
        again.session.state = .PAPER_CLOSED ∧
        again.session.reasonCode = result.session.reasonCode ∧
        again.session.closeCommandId = result.session.closeCommandId := by
  have empty : carriedReason sampleCollation sampleDigests
      (callInput sampleSetting sampleSession profitCall) = none := by decide +kernel
  have recovers : CarriedRecovers sampleOptions sampleCollation sampleDigests
      (callInput sampleSetting sampleSession profitCall) sampleQuote := by
    unfold CarriedRecovers
    rw [empty]
    exact .inr (.inr trivial)
  obtain ⟨result, returned, closes⟩ := profitCall_closes
  obtain ⟨again, agrees⟩ := (recoveredClose_agrees_iff sampleOptions sampleCollation sampleDigests
    sampleEngine [(sampleEnvironment, .open sampleEntry)] sampleEnvironment sampleEnvironment _ _ _ 9000
    _ result sampleQuote samplePosition_mem (by rfl) (Prod.ext returned rfl) closes).mpr recovers
  exact ⟨recovers, result, again, returned, agrees⟩

/-- The same call, interrupted after the close: the recovery records another reason. -/
theorem recovery_changes_reason :
    (do
      let result ← (sampleReconcile profitAndTargetCall).1
      let again ← (reconcile sampleOptions sampleCollation sampleDigests sampleEngine sampleEnvironment
        (resumed (callInput sampleSetting sampleSession profitAndTargetCall) result.position 9000)
        (.error .other) (sampleReconcile profitAndTargetCall).2).1
      return (result.requestedAction, result.session.reasonCode, again.session.reasonCode)) =
    (.ok (.CLOSE, .EXTERNAL_UNIQUE_BUYERS_TARGET_REACHED, .TAKE_PROFIT_2X_EXECUTABLE) : Checked _) := by
  decide +kernel

end SolTokenListener.Guarantees.CreationExit
