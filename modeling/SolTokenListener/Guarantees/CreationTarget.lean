import SolTokenListener.Guarantees.CreationExit

/-!
# Exit sources of a creation position

An exit for the unique-buyer target needs the buy that reached it, an exit for a creator sell
needs the sell. Both are looked up again in the trades of every call. The sell is always there
when supplies only grow; the buy is not when an earlier buy of the same wallet arrives late.
Where the source is there, the close goes through the engine unless its trigger is the context
event of the call and that event is orphaned.
-/

namespace SolTokenListener.Guarantees.CreationTarget

open Lib.Checked Lib.FirstByKey Lib.Transaction
open Source.Chain Source.PaperTrading
open Source.PaperLedger Source.PaperCommand Source.PaperTradingEngine
open Source.PaperStrategy Source.CreationEntryStrategy
open Guarantees.PaperLedger Guarantees.PaperReplay Guarantees.PaperIdempotence
open Guarantees.CreationCount Guarantees.CreationExit

variable {setting : Setting} {session : PaperStrategySessionV2} {call : ReconcileCall}
variable {options : CreationEntryOptions} {collation : Collation} {digests : Digests}
variable {input : ReconcileInput} {observed : Observation} {sellQuote : PaperExecutionQuote}
variable {reason : CreationExitReason} {trade : MarketTrade} {event sell : DomainEvent}
variable {buy : CanonicalBuy}

/-! ## Carried reasons have their sources -/

/-- A reason to exit for which the supplied trades or the count still give the source. -/
structure Sourced (input : ReconcileInput) (session : PaperStrategySessionV2)
    (reason : Option CreationExitReason) : Prop where
  creator : reason = some .CREATOR_EARLY_SELL → creatorSold input = true
  external : reason = some .EXTERNAL_UNIQUE_BUYERS_TARGET_REACHED →
    session.externalBuyTarget ≤ session.externalBuyCount

/-- What a call observes carries a reason with a source if the stored session did. -/
theorem observe_sourced (sourced : Sourced input input.session input.session.pendingExitReason)
    (facts : Observed collation digests input observed) :
    Sourced input observed.session observed.session.pendingExitReason := by
  rw [facts.carried, carriedReason]
  split
  · next crossed => exact ⟨by simp, fun _ => facts.reached.mpr crossed.2⟩
  · refine ⟨sourced.creator, fun external => facts.reached.mpr ?_⟩
    rw [targetCounted, decide_eq_true_eq]
    exact (sourced.external external).trans (Nat.le_add_right _ _)

section Reasons

variable (facts : Observed collation digests input observed)
variable (sourced : Sourced input observed.session observed.session.pendingExitReason)

include facts sourced

theorem mandatoryReason_sourced :
    Sourced input observed.session (mandatoryReason options observed) := by
  unfold mandatoryReason
  split
  · exact ⟨nofun, nofun⟩
  · split
    · exact sourced
    · next sold =>
        exact ⟨fun _ => facts.creator.mp sold, nofun⟩

theorem exitReason_sourced :
    Sourced input observed.session (exitReason options input observed sellQuote) := by
  have mandatory : Sourced input observed.session (mandatoryReason options observed) :=
    mandatoryReason_sourced facts sourced
  unfold exitReason
  cases held : mandatoryReason options observed with
  | some reason =>
    rw [held] at mandatory
    exact mandatory
  | none =>
    rw [Option.none_or]
    split
    · exact ⟨nofun, nofun⟩
    · split
      · next reached => exact ⟨nofun, fun _ => reached⟩
      · exact ⟨nofun, nofun⟩

theorem recoveredReason_sourced {proceedsRaw costRaw : Int} :
    Sourced input observed.session (recoveredReason options observed proceedsRaw costRaw) := by
  unfold recoveredReason
  split
  · exact ⟨nofun, nofun⟩
  · split
    · next sold => exact ⟨fun _ => facts.creator.mp sold, nofun⟩
    · split
      · exact ⟨nofun, nofun⟩
      · split
        · next reached => exact ⟨nofun, fun _ => reached⟩
        · exact sourced

theorem pendingFrom_sourced {pending : Option CreationExitReason}
    (source : PendingFrom options input observed pending) :
    Sourced input observed.session pending := by
  cases source with
  | carried => exact sourced
  | mandatory held => exact held ▸ mandatoryReason_sourced facts sourced
  | selected priced => exact priced ▸ exitReason_sourced facts sourced
  | recovered closed => exact closed ▸ recoveredReason_sourced facts sourced

end Reasons

/-! ## The buy that reached the target -/

/-- The target was reached by an earlier call, and the buy that reached it is no longer the one
kept for its wallet. -/
def Displaced (collation : Collation) (digests : Digests) (input : ReconcileInput) : Prop :=
  input.session.externalBuyTarget ≤ input.session.externalBuyCount ∧
    ∀ buy ∈ suppliedBuys collation digests input,
      some buy.id ≠ input.session.countedTradeIds[input.session.externalBuyTarget - 1]?

/-- Once the target is counted, its buy is one of the supplied buys, or was displaced; then nothing
was counted and the trigger is the context's unless the creator sold. -/
theorem observe_targetBuy (seen : observe options collation digests input = .ok observed)
    (counted : targetCounted collation digests input = true) :
    (∃ buy ∈ suppliedBuys collation digests input, observed.targetBuy = some buy ∧
        ¬ Displaced collation digests input) ∨
      (observed.targetBuy = none ∧ Displaced collation digests input ∧
        observed.trigger = if options.manualKillSwitch then contextTrigger input
          else observed.creatorSell.getD (contextTrigger input)) := by
  obtain ⟨state, -, counts, -, sameTarget, -, trigger⟩ := observe_counts seen
  obtain ⟨-, outcome⟩ := counts_reached counts
  by_cases before : input.session.externalBuyCount < input.session.externalBuyTarget
  · -- This call reached the target, with the last buy it counted.
    left
    rw [if_pos ⟨before, counted⟩, Prod.mk.injEq] at outcome
    have crossed := (countedNow_crosses input.session (suppliedBuys collation digests input)).mpr
      ⟨before, of_decide_eq_true counted⟩
    have isLast := List.getLast?_eq_some_getLast crossed.1
    refine ⟨_, newBuys_sublist.mem (List.mem_of_mem_take (List.mem_of_getLast? isLast)), ?_,
      fun displaced => absurd displaced.1 (Nat.not_le_of_lt before)⟩
    rw [sameTarget, outcome.2, isLast, Option.some_or]
  · have room : input.session.externalBuyTarget - input.session.externalBuyCount = 0 := by omega
    rw [countedNow, room, List.take_zero] at counts
    cases counts
    have lookup : observed.targetBuy = (suppliedBuys collation digests input).find? fun buy =>
        some buy.id = input.session.countedTradeIds[input.session.externalBuyTarget - 1]? := by
      rw [sameTarget, Option.none_or, storedTargetBuy, if_pos (Nat.le_of_not_lt before)]
    cases found : observed.targetBuy with
    | some buy =>
      rw [found] at lookup
      have isStored := List.find?_some lookup.symm
      rw [decide_eq_true_eq] at isStored
      have supplied := List.mem_of_find?_eq_some lookup.symm
      exact .inl ⟨buy, supplied, rfl, fun displaced => displaced.2 buy supplied isStored⟩
    | none =>
      rw [found] at lookup trigger
      refine .inr ⟨rfl, ⟨Nat.le_of_not_lt before, fun buy supplied same => ?_⟩, trigger⟩
      exact absurd (decide_eq_true same) (List.find?_eq_none.mp lookup.symm buy supplied)

/-- Once the target is counted, its buy is missing exactly when it was displaced. -/
theorem targetBuy_missing_iff (seen : observe options collation digests input = .ok observed)
    (counted : targetCounted collation digests input = true) :
    observed.targetBuy = none ↔ Displaced collation digests input := by
  rcases observe_targetBuy seen counted with ⟨buy, -, found, kept⟩ | ⟨missing, displaced, -⟩
  · rw [found]
    exact iff_of_false nofun kept
  · exact iff_of_true missing displaced

/-- The two errors are the only ones, and each says which source is missing. -/
theorem exitTriggerAtMs_error_iff {error : PaperError} :
    exitTriggerAtMs options input observed sellQuote reason = .error error ↔
      (reason = .CREATOR_EARLY_SELL ∧ observed.creatorSell = none ∧ error = creatorSourceMissing) ∨
        (reason = .EXTERNAL_UNIQUE_BUYERS_TARGET_REACHED ∧ observed.targetBuy = none ∧
          error = buyerSourceMissing) := by
  cases reason with
  | MANUAL_KILL_SWITCH => simp [exitTriggerAtMs, pure, Except.pure]
  | TAKE_PROFIT_2X_EXECUTABLE => simp [exitTriggerAtMs, pure, Except.pure]
  | CREATOR_EARLY_SELL =>
    cases sell : observed.creatorSell <;>
      simp [exitTriggerAtMs, sell, pure, Except.pure, throw, throwThe, MonadExceptOf.throw, eq_comm]
  | EXTERNAL_UNIQUE_BUYERS_TARGET_REACHED =>
    cases buy : observed.targetBuy <;>
      simp [exitTriggerAtMs, buy, pure, Except.pure, throw, throwThe, MonadExceptOf.throw, eq_comm]

/-! ## Runs -/

theorem creatorSold_mono {before after : PaperStrategySessionV2} {earlier later : ReconcileCall}
    (rules : SameRules before after) (more : SuppliesMore earlier later)
    (sold : creatorSold (callInput setting before earlier) = true) :
    creatorSold (callInput setting after later) = true := by
  have sameTest : ∀ facts, isCreatorExit (callInput setting before earlier) facts =
      isCreatorExit (callInput setting after later) facts := by
    intro facts
    unfold isCreatorExit
    rw [decide_eq_decide]
    simp only [callInput, rules.confirmation, rules.boundary]
  simp only [creatorSold, Bool.or_eq_true, List.any_eq_true, sameTest] at sold ⊢
  rcases sold with ⟨event, supplied, exits⟩ | ⟨trade, supplied, exits⟩
  · exact .inl ⟨event, more.1 supplied, exits⟩
  · exact .inr ⟨trade, more.2 supplied, exits⟩

/-- The reason a stored session carries has its source in the trades supplied next. -/
def CarriesSource (setting : Setting) (session : PaperStrategySessionV2) (call : ReconcileCall) : Prop :=
  Sourced (callInput setting session call) session session.pendingExitReason

theorem carriesSource_step {later : ReconcileCall} {result : CreationEntryStrategyResult}
    (carries : CarriesSource setting session call)
    (returned : runCall setting session call = .ok result) (more : SuppliesMore call later) :
    CarriesSource setting result.session later := by
  obtain ⟨observed, seen, reports⟩ := reconcile_reports returned
  have facts := observe_ok seen
  have sourced := pendingFrom_sourced facts (observe_sourced carries facts) reports.pending
  have rules := facts.rules.trans reports.buys.toSameRules
  constructor
  · intro creator
    exact creatorSold_mono rules more (sourced.creator creator)
  · intro external
    rw [reports.buys.target, reports.buys.count]
    exact sourced.external external

theorem carriesSource_run (last : ReconcileCall) {calls : List ReconcileCall} (idle : session.pendingExitReason = none)
    (grows : (calls ++ [last]).Pairwise SuppliesMore) :
    CarriesSource setting (runCalls setting session calls) last := by
  refine runCalls_preserves _ (fun _ => True) (fun _ => carriesSource_step) last grows
    (fun _ _ => trivial) fun call _ => ?_
  unfold CarriesSource
  rw [idle]
  exact ⟨nofun, nofun⟩

/-! ## Missing sources -/

section Exits

variable (setting session call observed sellQuote reason)

/-- The call has a usable quote for a position still held. -/
structure Offered : Prop where
  consistent : reconcileChecks (callInput setting session call) = .ok ()
  held : call.position.status = .PAPER_HOLDING
  quote : checkedQuote (callInput setting session call) call.quoted = .ok sellQuote

/-- The call selects an exit. -/
structure Selects : Prop extends Offered setting session call sellQuote where
  seen : observe call.options setting.collation setting.digests (callInput setting session call) =
    .ok observed
  selected : exitReason call.options (callInput setting session call) observed sellQuote = some reason

/-- The call reaches one of the two throws for a missing exit source. -/
def SourceMissing : Prop :=
  ∃ observed sellQuote reason error, Selects setting session call observed sellQuote reason ∧
    exitTriggerAtMs call.options (callInput setting session call) observed sellQuote reason =
      .error error

/-- The target buy was displaced, and neither the kill switch, nor a creator sell, nor another
stored reason, nor the multiplier goes before the target. -/
def Stranded : Prop :=
  ∃ sellQuote, Offered setting session call sellQuote ∧
    Displaced setting.collation setting.digests (callInput setting session call) ∧
    call.options.manualKillSwitch = false ∧ creatorSold (callInput setting session call) = false ∧
    (session.pendingExitReason = some .EXTERNAL_UNIQUE_BUYERS_TARGET_REACHED ∨
      session.pendingExitReason = none ∧ reachesMultiplier call.options sellQuote.minimumAmountOutRaw
        call.position.quoteCostRaw = false)

end Exits

theorem decideReconcile_selects (selects : Selects setting session call observed sellQuote reason) :
    decideReconcile call.options setting.collation setting.digests (callInput setting session call)
        call.quoted =
      planExit call.options setting.digests (callInput setting session call) observed sellQuote
        reason := by
  have holding : ¬ (callInput setting session call).position.status = .PAPER_CLOSED := by
    change ¬ call.position.status = .PAPER_CLOSED
    rw [selects.held]
    decide
  unfold decideReconcile
  rw [selects.consistent, selects.seen]
  change (if (callInput setting session call).position.status = .PAPER_CLOSED then _ else _) = _
  rw [if_neg holding, decideHolding, selects.quote]
  dsimp only
  rw [selects.selected]

/-- A displaced target leaves the stored reason to be carried. -/
theorem exitReason_displaced (facts : Observed collation digests input observed)
    (displaced : Displaced collation digests input) :
    exitReason options input observed sellQuote = some .EXTERNAL_UNIQUE_BUYERS_TARGET_REACHED ↔
      options.manualKillSwitch = false ∧ creatorSold input = false ∧
        (input.session.pendingExitReason = some .EXTERNAL_UNIQUE_BUYERS_TARGET_REACHED ∨
          input.session.pendingExitReason = none ∧ reachesMultiplier options
            sellQuote.minimumAmountOutRaw input.position.quoteCostRaw = false) := by
  have creator : observed.creatorSell = none ↔ creatorSold input = false := by
    rw [← Bool.not_eq_true, ← facts.creator, ne_eq, not_not]
  have stored : carriedReason collation digests input = input.session.pendingExitReason :=
    if_neg fun crossed => absurd displaced.1 (Nat.not_le_of_lt crossed.1)
  have reached : observed.session.externalBuyCount ≥ observed.session.externalBuyTarget :=
    facts.reached.mpr (by
      rw [targetCounted, decide_eq_true_eq]
      exact displaced.1.trans (Nat.le_add_right _ _))
  simp only [exitReason, mandatoryReason, facts.carried, stored, creator, reached, ↓reduceIte]
  cases options.manualKillSwitch <;> cases creatorSold input <;>
    cases input.session.pendingExitReason <;>
      cases reachesMultiplier options sellQuote.minimumAmountOutRaw input.position.quoteCostRaw <;> simp

/-- With the reasons carried in order, only a displaced target buy can be missing. -/
theorem sourceMissing_iff (carries : CarriesSource setting session call)
    (valid : (observe call.options setting.collation setting.digests
      (callInput setting session call)).isOk = true) :
    SourceMissing setting session call ↔ Stranded setting session call := by
  constructor
  · rintro ⟨observed, sellQuote, reason, error, selects, failed⟩
    have facts := observe_ok selects.seen
    have sourced : Sourced (callInput setting session call) observed.session (some reason) := by
      rw [← selects.selected]
      exact exitReason_sourced facts (observe_sourced carries facts)
    rcases exitTriggerAtMs_error_iff.mp failed with ⟨creator, unseen, -⟩ | ⟨external, unseen, -⟩
    · -- The sell that selected the reason is among the trades, so it was found again.
      exact absurd unseen (facts.creator.mpr (sourced.creator (congrArg some creator)))
    · subst external
      have counted := facts.reached.mp (sourced.external rfl)
      have displaced := (targetBuy_missing_iff selects.seen counted).mp unseen
      exact ⟨sellQuote, selects.toOffered, displaced,
        (exitReason_displaced facts displaced).mp selects.selected⟩
  · rintro ⟨sellQuote, offered, displaced, order⟩
    obtain ⟨observed, seen⟩ := exists_of_isOk valid
    have facts := observe_ok seen
    have selected := (@exitReason_displaced call.options _ _ _ observed sellQuote facts displaced).mpr order
    have counted : targetCounted setting.collation setting.digests (callInput setting session call) = true := by
      rw [targetCounted, decide_eq_true_eq]
      exact displaced.1.trans (Nat.le_add_right _ _)
    exact ⟨observed, sellQuote, _, _, ⟨offered, seen, selected⟩,
      exitTriggerAtMs_error_iff.mpr (.inr ⟨rfl, (targetBuy_missing_iff seen counted).mpr displaced, rfl⟩)⟩

/-- A counted target selects an exit, whatever the quote. -/
theorem exitReason_of_reached
    (reached : observed.session.externalBuyTarget ≤ observed.session.externalBuyCount) :
    ∃ reason, exitReason options input observed sellQuote = some reason := by
  unfold exitReason
  cases mandatoryReason options observed with
  | some reason => exact ⟨reason, rfl⟩
  | none =>
    rw [Option.none_or, if_pos reached]
    split <;> exact ⟨_, rfl⟩

/-! ## Triggers of a close -/

/-- An event of a supplied trade of the position's pair, confirmed and not orphaned. -/
structure LiveEvent (digests : Digests) (input : ReconcileInput) (event : DomainEvent) : Prop where
  source : (∃ trade ∈ input.launchTrades, trade.event = event ∧
      trade.trade.launchMint = input.candidate.mint) ∨
    ∃ trade ∈ input.marketTrades, marketTrigger digests trade = .ok event ∧
      trade.mint = input.candidate.mint
  live : event.confirmationStatus ≠ .orphaned

theorem marketTrigger_ok (built : marketTrigger digests trade = .ok event) :
    event.mint = trade.mint ∧
      event.confirmationStatus = trade.confirmationStatus ∧ event.observedAtMs = trade.observedAtMs := by
  simp only [marketTrigger, bind_eq_ok, pure_eq_ok] at built
  obtain ⟨_, -, rfl⟩ := built
  exact ⟨rfl, rfl, rfl⟩

theorem live_of_confirmed {status : ChainConfirmationStatus} {minimum : PaperMinimumConfirmation}
    (confirmed : confirmationReached status minimum = true) : status ≠ .orphaned := by
  rintro rfl
  simp [confirmationReached] at confirmed

/-- What a filter keeps has passed its tests. -/
theorem filter_keeps {α : Type} {accepted : Bool} {cursor : ChainCursor}
    {build : Checked (Option α)} {item : α}
    (selected : (do if ← afterEntry input accepted cursor then build else return none) =
      .ok (some item)) : accepted = true ∧ build = .ok (some item) := by
  obtain ⟨after, tested, selected⟩ := bind_eq_ok.mp selected
  split at selected
  · next isAfter =>
      have both := afterEntry_ok tested
      rw [isAfter, eq_comm, Bool.and_eq_true] at both
      exact ⟨both.1, selected⟩
  · cases selected

theorem externalBuy_live {facts : TradeFacts} (passed : isExternalBuy input facts = true) :
    facts.mint = input.candidate.mint ∧ facts.confirmationStatus ≠ .orphaned := by
  simp only [isExternalBuy, decide_eq_true_eq] at passed
  obtain ⟨-, -, -, mint, -, -, confirmed⟩ := passed
  exact ⟨mint, live_of_confirmed confirmed⟩

theorem creatorSell_live {facts : TradeFacts} (passed : isCreatorSell input facts = true) :
    facts.mint = input.candidate.mint ∧ facts.confirmationStatus ≠ .orphaned := by
  simp only [isCreatorSell, decide_eq_true_eq] at passed
  obtain ⟨-, -, mint, -, confirmed⟩ := passed
  exact ⟨mint, live_of_confirmed confirmed⟩

/-- The event built from a live market trade is live. -/
theorem marketTrigger_live (supplied : trade ∈ input.marketTrades)
    (built : marketTrigger digests trade = .ok event)
    (passed : (marketFacts trade).mint = input.candidate.mint ∧
      (marketFacts trade).confirmationStatus ≠ .orphaned) : LiveEvent digests input event :=
  ⟨.inr ⟨trade, supplied, built, passed.1⟩, (marketTrigger_ok built).2.1 ▸ passed.2⟩

theorem launchBuy_live {trade : BondingCurveTradeObservedEvent}
    (supplied : trade ∈ input.launchTrades) (selected : launchBuy input trade = .ok (some buy)) :
    LiveEvent digests input buy.trigger ∧ buy.observedAtMs = buy.trigger.observedAtMs := by
  obtain ⟨passed, built⟩ := filter_keeps selected
  cases built
  obtain ⟨mint, live⟩ := externalBuy_live passed
  exact ⟨⟨.inl ⟨trade, supplied, rfl, mint⟩, live⟩, rfl⟩

theorem marketBuy_live (supplied : trade ∈ input.marketTrades)
    (selected : marketBuy digests input trade = .ok (some buy)) :
    LiveEvent digests input buy.trigger ∧ buy.observedAtMs = buy.trigger.observedAtMs := by
  obtain ⟨passed, selected⟩ := filter_keeps selected
  simp only [bind_eq_ok, pure_eq_ok, Option.some.injEq] at selected
  obtain ⟨event, built, rfl⟩ := selected
  exact ⟨marketTrigger_live supplied built (externalBuy_live passed),
    (marketTrigger_ok built).2.2.symm⟩

theorem launchSell_live {trade : BondingCurveTradeObservedEvent}
    (supplied : trade ∈ input.launchTrades) (selected : launchSell input trade = .ok (some sell)) :
    LiveEvent digests input sell := by
  obtain ⟨passed, built⟩ := filter_keeps selected
  cases built
  obtain ⟨mint, live⟩ := creatorSell_live passed
  exact ⟨.inl ⟨trade, supplied, rfl, mint⟩, live⟩

theorem marketSell_live (supplied : trade ∈ input.marketTrades)
    (selected : marketSell digests input trade = .ok (some sell)) :
    LiveEvent digests input sell := by
  obtain ⟨passed, selected⟩ := filter_keeps selected
  simp only [bind_eq_ok, pure_eq_ok, Option.some.injEq] at selected
  obtain ⟨event, built, rfl⟩ := selected
  exact marketTrigger_live supplied built (creatorSell_live passed)

theorem canonicalBuys_live {canonical : List CanonicalBuy}
    (listed : canonicalBuys collation digests input = .ok canonical) (member : buy ∈ canonical) :
    LiveEvent digests input buy.trigger ∧ buy.observedAtMs = buy.trigger.observedAtMs := by
  simp only [canonicalBuys, qualifyingBuys, bind_eq_ok, pure_eq_ok] at listed
  obtain ⟨buys, ⟨launched, launchedOk, marketed, marketedOk, rfl⟩, rfl⟩ := listed
  have collected := (List.perm_insertionSort (buyNotAfter collation) _).mem_iff.mp
    (firstByKey_sublist.mem member)
  rcases List.mem_append.mp collected with isLaunch | isMarket
  · obtain ⟨trade, supplied, selected⟩ := mem_collect launchedOk isLaunch
    exact launchBuy_live supplied selected
  · obtain ⟨trade, supplied, selected⟩ := mem_collect marketedOk isMarket
    exact marketBuy_live supplied selected

theorem earliestCreatorSell_live
    (found : earliestCreatorSell collation digests input = .ok (some sell)) :
    LiveEvent digests input sell := by
  simp only [earliestCreatorSell, bind_eq_ok] at found
  obtain ⟨launched, launchedOk, marketed, marketedOk, found⟩ := found
  have head : ((launched ++ marketed).insertionSort (sellNotAfter collation)).head? = some sell := by
    split at found
    · simp only [bind_eq_ok, pure_eq_ok] at found
      obtain ⟨_, -, found⟩ := found
      exact found
    · exact pure_eq_ok.mp found
  have collected := (List.perm_insertionSort (sellNotAfter collation) _).mem_iff.mp
    (List.mem_of_head? head)
  rcases List.mem_append.mp collected with isLaunch | isMarket
  · obtain ⟨trade, supplied, selected⟩ := mem_collect launchedOk isLaunch
    exact launchSell_live supplied selected
  · obtain ⟨trade, supplied, selected⟩ := mem_collect marketedOk isMarket
    exact marketSell_live supplied selected

/-- The close of this call would be triggered by its context event, not by a trade. -/
def ContextTriggers (options : CreationEntryOptions) (collation : Collation) (digests : Digests)
    (input : ReconcileInput) : Prop :=
  options.manualKillSwitch = true ∨ creatorSold input = false ∧ Displaced collation digests input

/-- Once the target is counted, the trigger is the context event or a live event of a trade. -/
theorem observe_trigger (seen : observe options collation digests input = .ok observed)
    (counted : targetCounted collation digests input = true) :
    (observed.trigger = contextTrigger input ∧ ContextTriggers options collation digests input) ∨
      (LiveEvent digests input observed.trigger ∧ ¬ ContextTriggers options collation digests input) := by
  have facts := observe_ok seen
  obtain ⟨state, listed, -, -, -, found, trigger⟩ := observe_counts seen
  cases running : options.manualKillSwitch with
  | true =>
    rw [running, if_pos rfl] at trigger
    exact .inl ⟨trigger, .inl running⟩
  | false =>
    rw [running, if_neg Bool.false_ne_true] at trigger
    cases sale : observed.creatorSell with
    | some sell =>
      have sold := facts.creator.mp (by rw [sale]; exact Option.some_ne_none sell)
      rw [sale] at trigger found
      refine .inr ⟨trigger ▸ earliestCreatorSell_live found, ?_⟩
      rintro (killed | ⟨unsold, -⟩)
      · exact absurd (running.symm.trans killed) Bool.false_ne_true
      · exact absurd (unsold.symm.trans sold) Bool.false_ne_true
    | none =>
      have unsold : creatorSold input = false := by
        rw [← Bool.not_eq_true, ← facts.creator, sale, ne_eq, not_not]
      rcases observe_targetBuy seen counted with ⟨buy, supplied, isTarget, kept⟩ |
        ⟨-, displaced, fallback⟩
      · rw [sale, isTarget] at trigger
        refine .inr ⟨trigger ▸ (canonicalBuys_live listed supplied).1, ?_⟩
        rintro (killed | ⟨-, displaced⟩)
        · exact absurd (running.symm.trans killed) Bool.false_ne_true
        · exact kept displaced
      · rw [running, if_neg Bool.false_ne_true, sale] at fallback
        exact .inl ⟨fallback, .inr ⟨unsold, displaced⟩⟩

/-! ## The engine's close -/

section Closing

variable (setting session call sellQuote)

/-- After the call, the ledger has the position closed. -/
def Closes : Prop :=
  ∃ closed ∈ (reconcile call.options setting.collation setting.digests setting.engine call.env
      (callInput setting session call) call.quoted call.ledger).2.positions,
    closed.id = call.position.id ∧ closed.status = .PAPER_CLOSED

/-- The time of the trigger a call would exit on. -/
def exitTime : Checked (Option Int) := do
  let observed ← observe call.options setting.collation setting.digests (callInput setting session call)
  match exitReason call.options (callInput setting session call) observed sellQuote with
  | none => return none
  | some reason =>
    exitTriggerAtMs call.options (callInput setting session call) observed sellQuote reason

/-- The quote is no older than the trigger. -/
def Fresh : Prop :=
  ∀ triggerAtMs, exitTime setting session call sellQuote = .ok (some triggerAtMs) →
    triggerAtMs ≤ sellQuote.observedAtMs

/-- The close would be triggered by the context event of the call, which is orphaned. -/
def OrphanedContext : Prop :=
  ContextTriggers call.options setting.collation setting.digests (callInput setting session call) ∧
    (contextTrigger (callInput setting session call)).confirmationStatus = .orphaned

/-- The database takes the rows of the close that the call plans, and commits them. -/
def rowsStored : Bool :=
  match decideReconcile call.options setting.collation setting.digests
      (callInput setting session call) call.quoted with
  | .ok (.exit plan) =>
    match closeChecks setting.engine call.env plan.command with
    | .ok prepared =>
      !(validateCloseCommand prepared.snapshot call.position).isOk ||
        (exec (do
          let position ← closeHeld setting.engine prepared call.position
          query
          return position) ⟨call.ledger, call.env.queriesLeft⟩).1.isOk
    | .error _ => true
  | _ => true

/-- The surroundings in which the engine can close the position at this quote: it is in paper mode,
its clock and its database work, the position is stored for the candidate's pair, and quote, times and
events are valid. -/
structure EngineReady : Prop where
  paperMode : setting.engine.executionMode = .paper
  reachable : ∃ history, call.ledger = runCommands setting.engine .empty history
  stored : call.position ∈ call.ledger.positions
  readable : decodePosition call.position = .ok call.position
  pair : call.position.mint = setting.candidate.mint ∧
    call.position.quoteAsset.mint = setting.candidate.quoteAsset.mint
  quote : validatePaperQuote sellQuote = .ok () ∧ (quoteBigints sellQuote).all fitsNumeric = true
  clock : isTimestampMs (call.env.clock 0) = true
  manual : isTimestampMs call.nowMs = true ∧ session.pendingExitTriggerAtMs.all isTimestampMs = true
  context : snapshotTrigger (contextTrigger (callInput setting session call)) =
      .ok (contextTrigger (callInput setting session call)) ∧
    (contextTrigger (callInput setting session call)).mint = setting.candidate.mint
  launch : ∀ trade ∈ call.launchTrades, snapshotTrigger trade.event = .ok trade.event ∧
    trade.event.mint = trade.trade.launchMint
  market : ∀ trade ∈ call.marketTrades, ∀ event, marketTrigger setting.digests trade = .ok event →
    snapshotTrigger event = .ok event
  database : call.env.queriesLeft = none
  rows : rowsStored setting session call = true

end Closing

theorem EngineReady.usable (ready : EngineReady setting session call sellQuote)
    (live : LiveEvent setting.digests (callInput setting session call) event) :
    snapshotTrigger event = .ok event ∧ event.mint = setting.candidate.mint := by
  rcases live.source with ⟨trade, supplied, rfl, mint⟩ | ⟨trade, supplied, built, mint⟩
  · obtain ⟨valid, same⟩ := ready.launch trade supplied
    exact ⟨valid, same.trans mint⟩
  · exact ⟨ready.market trade supplied event built, (marketTrigger_ok built).1.trans mint⟩

theorem EngineReady.invariant (ready : EngineReady setting session call sellQuote) :
    LedgerInvariant call.ledger := by
  obtain ⟨history, reachable⟩ := ready.reachable
  rw [reachable]
  exact ledgerInvariant_run setting.engine history ledgerInvariant_empty

theorem snapshotTrigger_observedAt (valid : snapshotTrigger event = .ok event) :
    isTimestampMs event.observedAtMs = true := by
  simp only [snapshotTrigger, bind_eq_ok, domainChecked_eq_ok, assertValidTimestampMs,
    require_eq_ok] at valid
  obtain ⟨_, -, _, -, _, observedAt, -⟩ := valid
  exact observedAt

variable {triggerAtMs : Option Int}

/-- The time of the exit is valid, and is there unless the exit is manual. -/
theorem exitTriggerAtMs_valid (ready : EngineReady setting session call sellQuote)
    (selects : Selects setting session call observed sellQuote reason)
    (counted : targetCounted setting.collation setting.digests (callInput setting session call) = true)
    (triggered : exitTriggerAtMs call.options (callInput setting session call) observed sellQuote reason =
      .ok triggerAtMs) :
    (triggerAtMs = none → reason = .MANUAL_KILL_SWITCH) ∧ triggerAtMs.all isTimestampMs = true := by
  obtain ⟨state, listed, counts, sameSession, -, found, -⟩ := observe_counts selects.seen
  cases reason with
  | MANUAL_KILL_SWITCH =>
    have stored : observed.session.pendingExitTriggerAtMs = session.pendingExitTriggerAtMs := by
      rw [sameSession]
      exact counts.manualTrigger
    obtain ⟨now, before⟩ := ready.manual
    simp only [exitTriggerAtMs, manualExitTriggerAtMs, stored, pure_eq_ok] at triggered
    refine ⟨fun _ => rfl, ?_⟩
    rw [← triggered]
    split
    · cases previous : session.pendingExitTriggerAtMs with
      | some manualAtMs => rwa [previous] at before
      | none =>
        rw [Option.none_or]
        split
        · rfl
        · exact now
    · rfl
  | TAKE_PROFIT_2X_EXECUTABLE =>
    simp only [exitTriggerAtMs, pure_eq_ok] at triggered
    subst triggered
    refine ⟨by simp, ?_⟩
    have valid := ready.quote.1
    simp only [validatePaperQuote, bind_eq_ok, domainChecked_eq_ok, assertValidTimestampMs,
      require_eq_ok, Unique.exists_iff] at valid
    exact valid.2.2.2.2.2.2.2.2.2.2.1
  | CREATOR_EARLY_SELL =>
    simp only [exitTriggerAtMs] at triggered
    split at triggered
    · cases triggered
    · next sell isSell =>
        cases triggered
        rw [isSell] at found
        exact ⟨by simp, snapshotTrigger_observedAt (ready.usable (earliestCreatorSell_live found)).1⟩
  | EXTERNAL_UNIQUE_BUYERS_TARGET_REACHED =>
    simp only [exitTriggerAtMs] at triggered
    split at triggered
    · cases triggered
    · next buy isTarget =>
        cases triggered
        rcases observe_targetBuy selects.seen counted with ⟨other, supplied, same, -⟩ | ⟨missing, -⟩
        · cases isTarget.symm.trans same
          obtain ⟨live, observedAt⟩ := canonicalBuys_live listed supplied
          refine ⟨by simp, ?_⟩
          rw [Option.all_some, observedAt]
          exact snapshotTrigger_observedAt (ready.usable live).1
        · cases isTarget.symm.trans missing

/-- The command a fresh quote is submitted with. -/
def exitCommand (call : ReconcileCall) (observed : Observation) (sellQuote : PaperExecutionQuote)
    (reason : CreationExitReason) (triggerAtMs : Option Int) : ClosePaperPositionCommand :=
  ⟨call.position.id, observed.trigger, sellQuote, reason.text, triggerAtMs⟩

theorem decideReconcile_exits (selects : Selects setting session call observed sellQuote reason)
    (triggered : exitTriggerAtMs call.options (callInput setting session call) observed sellQuote reason =
      .ok triggerAtMs) (fresh : triggerAtMs.any (sellQuote.observedAtMs < ·) = false) :
    decideReconcile call.options setting.collation setting.digests (callInput setting session call)
        call.quoted =
      .ok (.exit ⟨observed, reason, triggerAtMs, sellQuote,
        exitCommand call observed sellQuote reason triggerAtMs⟩) := by
  rw [decideReconcile_selects selects, planExit, triggered]
  simp only [bind, Except.bind, fresh, Bool.false_eq_true, if_false]
  rfl

theorem reason_not_blank (reason : CreationExitReason) : isBlank reason.text = false := by
  cases reason <;> decide

/-- A command whose body and commit return, returns. -/
theorem runCommand_commits {α : Type} {env : Environment} {checks : Checked α}
    {body : α → PaperTx PaperPosition} {ledger : Ledger} {prepared : α} {returned : PaperPosition}
    (accepted : checks = .ok prepared)
    (run : (exec (do let value ← body prepared; query; return value) ⟨ledger, env.queriesLeft⟩).1 =
      .ok returned) : (runCommand env checks body ledger).1 = .ok returned := by
  have committed : transact (do let value ← body prepared; query; return value)
      ⟨ledger, env.queriesLeft⟩ = (.ok returned, _) := transact_ok.mpr (Prod.ext run rfl)
  rw [accepted]
  simp only [runCommand, transactPaper, committed]

section Planned

variable (ready : EngineReady setting session call sellQuote)
variable (selects : Selects setting session call observed sellQuote reason)
variable (counted :
  targetCounted setting.collation setting.digests (callInput setting session call) = true)
variable (triggered : exitTriggerAtMs call.options (callInput setting session call) observed sellQuote
  reason = .ok triggerAtMs)
variable (fresh : triggerAtMs.any (sellQuote.observedAtMs < ·) = false)
variable (live : observed.trigger.confirmationStatus ≠ .orphaned)

include ready selects counted

theorem observed_trigger_usable : snapshotTrigger observed.trigger = .ok observed.trigger ∧
    observed.trigger.mint = setting.candidate.mint := by
  rcases observe_trigger selects.seen counted with ⟨context, -⟩ | ⟨event, -⟩
  · rw [context]
    exact ready.context
  · exact ready.usable event

include fresh in
theorem exitCommand_checked :
    closeChecks setting.engine call.env (exitCommand call observed sellQuote reason triggerAtMs) =
      .ok ⟨exitCommand call observed sellQuote reason triggerAtMs,
        closeCommandHash setting.engine (exitCommand call observed sellQuote reason triggerAtMs),
        call.env.clock 0⟩ := by
  have usable := (observed_trigger_usable ready selects counted).1
  simp only [closeChecks, requirePaperMode, snapshotCloseCommand, hashValue, bind_eq_ok, pure_eq_ok,
    require_eq_ok, domainChecked_eq_ok, assertValidTimestampMs, Unique.exists_iff]
  exact ⟨ready.paperMode, _, ⟨_, usable, rfl⟩, ready.quote.1, fresh, _, ⟨ready.quote.2, rfl⟩,
    ready.clock, rfl⟩

include triggered live in
theorem exitCommand_valid :
    validateCloseCommand (exitCommand call observed sellQuote reason triggerAtMs) call.position =
      .ok () := by
  obtain ⟨timed, times⟩ := exitTriggerAtMs_valid ready selects counted triggered
  obtain ⟨mint, quoteMint⟩ := ready.pair
  have quoted := selects.quote
  simp only [checkedQuote, bind_eq_ok, require_eq_ok, pure_eq_ok, Unique.exists_iff] at quoted
  obtain ⟨same, -, ⟨input, output, amount⟩, rfl⟩ := quoted
  have exitAt : validateExitTriggerAt (exitCommand call observed same reason triggerAtMs)
      call.position = .ok () := by
    unfold validateExitTriggerAt
    split
    · split
      · next none =>
          rw [require_eq_ok, exitCommand, timed none]
          rfl
      · next exitAtMs some =>
          rw [show triggerAtMs = _ from some] at times
          rw [domainChecked_eq_ok, assertValidTimestampMs, require_eq_ok]
          exact times
    · rfl
  simp only [validateCloseCommand, rejectOrphanedTrigger, exitAt, bind_eq_ok, require_eq_ok,
    Unique.exists_iff]
  exact ⟨live, trivial, (observed_trigger_usable ready selects counted).2.trans mint.symm,
    reason_not_blank reason, input.trans mint.symm, output.trans quoteMint.symm, amount⟩

include triggered fresh live in
/-- The engine closes the position on a planned exit whose trigger is not orphaned. -/
theorem closePosition_returns : ∃ closed, (closePosition setting.engine call.env
    (exitCommand call observed sellQuote reason triggerAtMs) call.ledger).1 = .ok closed := by
  have checks := exitCommand_checked ready selects counted fresh
  have rows := ready.rows
  simp only [rowsStored, decideReconcile_exits selects triggered fresh, checks,
    exitCommand_valid ready selects counted triggered live, Except.isOk, Except.toBool, Bool.not_true,
    Bool.false_or] at rows
  obtain ⟨closed, returned⟩ := exists_of_isOk rows
  refine ⟨closed, runCommand_commits checks ?_⟩
  rw [exec_bind] at returned ⊢
  have body : exec (closeTransaction setting.engine call.env
      ⟨exitCommand call observed sellQuote reason triggerAtMs, closeCommandHash setting.engine
        (exitCommand call observed sellQuote reason triggerAtMs), call.env.clock 0⟩)
      ⟨call.ledger, call.env.queriesLeft⟩ = exec (closeHeld setting.engine
        ⟨exitCommand call observed sellQuote reason triggerAtMs, closeCommandHash setting.engine
          (exitCommand call observed sellQuote reason triggerAtMs), call.env.clock 0⟩ call.position)
      ⟨call.ledger, call.env.queriesLeft⟩ := by
    unfold closeTransaction
    change exec (findPosition call.position.id >>= _) _ = _
    rw [exec_bind_of_ok (findPosition_stored ready.database ready.invariant.identities ready.stored
      ready.readable)]
    dsimp only
    rw [if_neg (not_not.mpr selects.held)]
  rw [body]
  exact returned

end Planned

/-- The position is closed by the call exactly if the engine accepts a close that it plans. -/
theorem closes_iff (ready : EngineReady setting session call sellQuote)
    (held : call.position.status = .PAPER_HOLDING) :
    Closes setting session call ↔ ∃ plan closed, decideReconcile call.options setting.collation
        setting.digests (callInput setting session call) call.quoted = .ok (.exit plan) ∧
      (closePosition setting.engine call.env plan.command call.ledger).1 = .ok closed := by
  -- In the ledger before the call, the position is held and no other row has its id.
  have unchanged : ¬ ∃ closed ∈ call.ledger.positions,
      closed.id = call.position.id ∧ closed.status = .PAPER_CLOSED := by
    rintro ⟨closed, member, identity, isClosed⟩
    cases List.inj_on_of_nodup_map ready.invariant.identities member ready.stored identity
    cases held.symm.trans isClosed
  unfold Closes reconcile
  split
  · next failed =>
      refine iff_of_false unchanged ?_
      rintro ⟨_, _, planned, -⟩
      cases failed.symm.trans planned
  · next settled =>
      refine iff_of_false unchanged ?_
      rintro ⟨_, _, planned, -⟩
      cases settled.symm.trans planned
  · next plan planned =>
      split
      · next error after refused =>
          rw [runCommand_error refused]
          refine iff_of_false unchanged ?_
          rintro ⟨_, _, same, closed⟩
          cases planned.symm.trans same
          cases (congrArg Prod.fst refused).symm.trans closed
      · next position after closed =>
          refine iff_of_true ?_ ⟨plan, position, planned, congrArg Prod.fst closed⟩
          obtain ⟨-, _, -, ⟨isClosed, -⟩ | ⟨notClosed, decided⟩⟩ := decideReconcile_ok planned
          · cases held.symm.trans isClosed
          · rcases decideHolding_ok notClosed decided with ⟨_, same, -⟩ | ⟨_, same, exits⟩
            · cases same
            · cases same
              obtain ⟨-, stored, _, -, rfl⟩ := closePosition_held ready.invariant ready.stored held
                (by rw [exits.command]; rfl) closed
              exact ⟨_, stored, rfl, rfl⟩

/-- On a counted target, a fresh quote closes the position exactly if the call is not stranded and
its trigger is not orphaned. -/
theorem closes_of_reached (carries : CarriesSource setting session call)
    (seen : observe call.options setting.collation setting.digests (callInput setting session call) =
      .ok observed)
    (offered : Offered setting session call sellQuote)
    (counted : targetCounted setting.collation setting.digests (callInput setting session call) = true)
    (fresh : Fresh setting session call sellQuote) (ready : EngineReady setting session call sellQuote) :
    Closes setting session call ↔
      ¬ Stranded setting session call ∧ ¬ OrphanedContext setting session call := by
  obtain ⟨reason, selected⟩ : ∃ reason, exitReason call.options (callInput setting session call) observed
      sellQuote = some reason := exitReason_of_reached ((observe_ok seen).reached.mpr counted)
  have selects : Selects setting session call observed sellQuote reason := ⟨offered, seen, selected⟩
  rw [closes_iff ready offered.held, ← sourceMissing_iff carries (by rw [seen]; rfl)]
  cases found : exitTriggerAtMs call.options (callInput setting session call) observed sellQuote
      reason with
  | error error =>
    refine iff_of_false ?_ fun present => present.1 ⟨observed, sellQuote, reason, error, selects, found⟩
    rintro ⟨plan, _, planned, -⟩
    rw [decideReconcile_selects selects, planExit, found] at planned
    cases planned
  | ok triggerAtMs =>
    have newer : triggerAtMs.any (sellQuote.observedAtMs < ·) = false := by
      cases triggerAtMs with
      | none => rfl
      | some exitAtMs =>
        have time : exitTime setting session call sellQuote = .ok (some exitAtMs) := by
          rw [exitTime, seen]
          change (match exitReason _ _ observed _ with | none => _ | some reason => _) = _
          rw [selected]
          exact found
        simpa using fresh exitAtMs time
    have exits := decideReconcile_exits selects found newer
    have present : ¬ SourceMissing setting session call := by
      rintro ⟨_, _, _, error, others, failed⟩
      cases selects.seen.symm.trans others.seen
      cases selects.quote.symm.trans others.quote
      cases selects.selected.symm.trans others.selected
      cases found.symm.trans failed
    have orphaned : OrphanedContext setting session call ↔
        observed.trigger.confirmationStatus = .orphaned := by
      rcases observe_trigger seen counted with ⟨context, triggers⟩ | ⟨event, trades⟩
      · rw [context]
        exact and_iff_right triggers
      · exact iff_of_false (fun context => trades context.1) event.live
    rw [orphaned, and_iff_right present]
    constructor
    · rintro ⟨plan, closed, planned, returned⟩
      cases exits.symm.trans planned
      exact (closePosition_held ready.invariant ready.stored offered.held rfl (Prod.ext returned rfl)).1
    · intro live
      obtain ⟨closed, returned⟩ := closePosition_returns ready selects counted found newer live
      exact ⟨_, closed, exits, returned⟩

/-- Both wallets are counted while no quote is available. -/
def unquotedCall : ReconcileCall :=
  sampleCall [sampleTrade "t1" "w1" 12, sampleTrade "t2" "w2" 20] (.error .other)

/-- A quote below the multiplier. -/
def lowQuote : PaperExecutionQuote := { sampleQuote with minimumAmountOutRaw := 1500 }

/-- An earlier buy of the second wallet arrives late, with a quote. -/
def lateTradeCall : ReconcileCall :=
  sampleCall [sampleTrade "t0" "w2" 14, sampleTrade "t1" "w1" 12, sampleTrade "t2" "w2" 20] (.ok lowQuote)

/-- The same trades again, with a quote. -/
def quotedCall : ReconcileCall :=
  sampleCall [sampleTrade "t1" "w1" 12, sampleTrade "t2" "w2" 20] (.ok lowQuote)

theorem quotedCall_ready :
    EngineReady sampleSetting (runCalls sampleSetting sampleSession [unquotedCall]) quotedCall lowQuote where
  paperMode := rfl
  reachable := ⟨[(sampleEnvironment, .open sampleEntry)], rfl⟩
  stored := samplePosition_mem
  readable := by decide +kernel
  pair := by decide +kernel
  quote := by decide +kernel
  clock := by decide
  manual := by decide +kernel
  context := by decide +kernel
  launch := by
    intro trade supplied
    cases supplied
  market := by
    intro trade supplied event built
    simp only [marketTrigger, bind_eq_ok, pure_eq_ok] at built
    obtain ⟨id, -, rfl⟩ := built
    simp only [quotedCall, sampleCall, List.mem_cons, List.not_mem_nil, or_false] at supplied
    rcases supplied with rfl | rfl <;> rfl
  database := rfl
  rows := by decide +kernel

end SolTokenListener.Guarantees.CreationTarget
