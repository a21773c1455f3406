import Mathlib.Data.List.Dedup
import SolTokenListener.Source.CreationEntryStrategy
import SolTokenListener.Guarantees.PaperIdempotence

/-!
# The unique-buyer count of a creation session

The loop counts wallets one at a time over a sorted list with one buy per wallet, and every
call starts again from the stored session. The count is compared with the number of distinct
wallets among the qualifying buys of all supplied trades, a definition that knows neither the
sort nor the loop.
-/

namespace SolTokenListener.Guarantees.CreationCount

open Lib.Checked Lib.FirstByKey
open Source.Chain Source.PaperTrading
open Source.PaperLedger Source.PaperTradingEngine
open Source.PaperStrategy Source.CreationEntryStrategy
open Guarantees.PaperIdempotence

variable {options : CreationEntryOptions} {collation : Collation} {digests : Digests}
variable {input : ReconcileInput} {engine : Engine} {env : Environment} {ledger : Ledger}
variable {quoted : Except QuoteFailure PaperExecutionQuote} {observed : Observation}
variable {session : PaperStrategySessionV2} {result : CreationEntryStrategyResult}
variable {call later : ReconcileCall} {position : PaperPosition}

/-! ## Sessions along a call -/

/-- The fields that decide which buys count. -/
structure SameRules (before after : PaperStrategySessionV2) : Prop where
  target : after.externalBuyTarget = before.externalBuyTarget
  minimumAmount : after.externalMinimumBuyAmountRaw = before.externalMinimumBuyAmountRaw
  confirmation : after.minimumConfirmation = before.minimumConfirmation
  boundary : after.entryBoundary = before.entryBoundary

/-- The same rules, and the same buys counted. -/
structure SameBuys (before after : PaperStrategySessionV2) : Prop extends
    SameRules before after where
  count : after.externalBuyCount = before.externalBuyCount
  tradeIds : after.countedTradeIds = before.countedTradeIds
  wallets : after.countedBuyerWallets = before.countedBuyerWallets

theorem SameRules.trans {first second third : PaperStrategySessionV2}
    (left : SameRules first second) (right : SameRules second third) : SameRules first third :=
  ⟨right.target.trans left.target, right.minimumAmount.trans left.minimumAmount,
    right.confirmation.trans left.confirmation, right.boundary.trans left.boundary⟩

theorem SameRules.refl (session : PaperStrategySessionV2) : SameRules session session :=
  ⟨rfl, rfl, rfl, rfl⟩

/-- What a created session takes over from its input. -/
theorem createCreationEntrySession_ok {create : CreateCreationEntrySessionInput}
    (created : createCreationEntrySession digests create = .ok session) :
    session.externalBuyTarget = create.externalBuyTarget ∧
      session.externalBuyCount = create.externalBuyCount ∧
      session.countedTradeIds = create.countedTradeIds ∧
      session.countedBuyerWallets = create.countedBuyerWallets ∧
      session.externalMinimumBuyAmountRaw = create.externalMinimumBuyAmountRaw ∧
      session.minimumConfirmation = create.minimumConfirmation ∧
      session.entryBoundary = create.entryBoundary ∧
      session.state = create.state ∧ session.reasonCode = create.reasonCode ∧
      session.pendingExitReason = create.pendingExitReason ∧
      session.closeCommandId = (do
        let reason ← create.pendingExitReason
        let positionId ← create.positionId
        return creationExitCommandId digests positionId reason) := by
  simp only [createCreationEntrySession, bind_eq_ok, pure_eq_ok] at created
  obtain ⟨_, _, _, _, _, _, _, _, _, _, _, _, _, _, rfl⟩ := created
  exact ⟨rfl, rfl, rfl, rfl, rfl, rfl, rfl, rfl, rfl, rfl, rfl⟩

variable {candidate : TradingCandidateV1} {next : PaperStrategySessionV2}

theorem updateSession_buys (updated : updateSession digests candidate next = .ok session) :
    SameBuys next session := by
  obtain ⟨target, count, ids, wallets, minimum, confirmation, boundary, -⟩ :=
    createCreationEntrySession_ok updated
  exact ⟨⟨target, minimum, confirmation, boundary⟩, count, ids, wallets⟩

variable {counted : List PaperExternalBuyEvidenceV2}
variable {trigger : DomainEvent} {action : RequestedAction}

theorem strategyResult_ok
    (built : strategyResult digests session counted position trigger action = .ok result) :
    result.session = session ∧ result.requestedAction = action ∧ result.position = position := by
  simp only [strategyResult, bind_eq_ok, pure_eq_ok] at built
  obtain ⟨_, _, rfl⟩ := built
  exact ⟨rfl, rfl, rfl⟩

section Reported

variable (options digests input quoted observed)

/-- Where the pending reason of a reported session comes from. -/
inductive PendingFrom : Option CreationExitReason → Prop where
  | carried : PendingFrom observed.session.pendingExitReason
  | mandatory {reason : CreationExitReason} (held : mandatoryReason options observed = some reason) :
      PendingFrom (some reason)
  | selected {sellQuote : PaperExecutionQuote} {reason : CreationExitReason}
      (priced : exitReason options input observed sellQuote = some reason) : PendingFrom (some reason)
  | recovered {proceedsRaw costRaw : Int} {reason : CreationExitReason}
      (closed : recoveredReason options observed proceedsRaw costRaw = some reason) :
      PendingFrom (some reason)

/-- The one way out of `reconcile` that does not create the session again: no usable quote for a
held position, and no exit to wait for. -/
structure KeepsCounted : Prop where
  held : input.position.status ≠ .PAPER_CLOSED
  unquoted : (checkedQuote input quoted).isOk = false
  idle : mandatoryReason options observed = none

/-- A result reports the buys its call observed, in a session created again or left as counted. -/
structure Reports (result : CreationEntryStrategyResult) : Prop where
  buys : SameBuys observed.session result.session
  pending : PendingFrom options input observed result.session.pendingExitReason
  origin : (∃ next, updateSession digests input.candidate next = .ok result.session) ∨
    KeepsCounted options input quoted observed ∧ result.session = observed.session

/-- A decision to exit: the quote, the reason and its trigger were all there. -/
structure PlannedExit (plan : ExitPlan) : Prop where
  seen : plan.observed = observed
  quote : checkedQuote input quoted = .ok plan.sellQuote
  reason : exitReason options input observed plan.sellQuote = some plan.reason
  trigger : exitTriggerAtMs options input observed plan.sellQuote plan.reason = .ok plan.exitTriggerAtMs
  command : plan.command = ⟨input.position.id, observed.trigger, plan.sellQuote, plan.reason.text,
    plan.exitTriggerAtMs⟩

end Reported

/-- The end of every branch but one: the session is created again and reported. -/
theorem saved_ok (saved : (do
      let session ← updateSession digests input.candidate next
      strategyResult digests session counted position trigger action) = .ok result)
    (same : SameBuys observed.session next)
    (source : PendingFrom options input observed next.pendingExitReason) :
    Reports options digests input quoted observed result ∧ result.requestedAction = action := by
  simp only [bind_eq_ok] at saved
  obtain ⟨session, updated, built⟩ := saved
  obtain ⟨rules, count, tradeIds, wallets⟩ := updateSession_buys updated
  obtain ⟨-, -, -, -, -, -, -, -, -, pending, -⟩ := createCreationEntrySession_ok updated
  obtain ⟨sameSession, sameAction, -⟩ := strategyResult_ok built
  refine ⟨⟨?_, ?_, ?_⟩, sameAction⟩ <;> rw [sameSession]
  · exact ⟨same.toSameRules.trans rules, count.trans same.count, tradeIds.trans same.tradeIds,
      wallets.trans same.wallets⟩
  · rw [pending]
    exact source
  · exact .inl ⟨next, updated⟩

theorem recoverClosed_ok (recovered : recoverClosed options digests input observed = .ok result) :
    Reports options digests input quoted observed result ∧ result.requestedAction = .NONE := by
  unfold recoverClosed at recovered
  split at recovered
  · split at recovered
    · cases recovered
    · next reason closed =>
        exact saved_ok recovered ⟨⟨rfl, rfl, rfl, rfl⟩, rfl, rfl, rfl⟩ (.recovered closed)
  · cases recovered

theorem exitPending_ok {reason : CreationExitReason} {triggerAtMs : Option Int}
    {evidence : PaperStrategyErrorEvidence}
    (source : PendingFrom options input observed (some reason))
    (waiting : exitPending digests input observed reason triggerAtMs evidence = .ok result) :
    Reports options digests input quoted observed result ∧ result.requestedAction = .NONE :=
  saved_ok waiting ⟨⟨rfl, rfl, rfl, rfl⟩, rfl, rfl, rfl⟩ source

theorem quoteUnavailable_ok {failure : QuoteFailure} (held : input.position.status ≠ .PAPER_CLOSED)
    (failed : checkedQuote input quoted = .error failure)
    (kept : quoteUnavailable options digests input observed failure = .ok result) :
    Reports options digests input quoted observed result ∧ result.requestedAction = .NONE := by
  unfold quoteUnavailable at kept
  split at kept
  · next idle =>
      obtain ⟨sameSession, sameAction, -⟩ := strategyResult_ok kept
      refine ⟨⟨?_, ?_, .inr ⟨⟨held, by rw [failed]; rfl, idle⟩, sameSession⟩⟩, sameAction⟩ <;>
        rw [sameSession]
      · exact ⟨SameRules.refl _, rfl, rfl, rfl⟩
      · exact .carried
  · next reason held => exact exitPending_ok (.mandatory held) kept

theorem completeExit_ok {plan : ExitPlan}
    (source : PendingFrom options input plan.observed (some plan.reason))
    (completed : completeExit options digests input plan position = .ok result) :
    Reports options digests input quoted plan.observed result ∧ result.requestedAction = .CLOSE := by
  simp only [completeExit] at completed
  rw [bind_eq_ok] at completed
  obtain ⟨_, -, saved⟩ := completed
  exact saved_ok saved ⟨⟨rfl, rfl, rfl, rfl⟩, rfl, rfl, rfl⟩ source

variable {decision : Reconciliation}

/-- Whatever is decided about a held position, it is decided on what was observed. -/
theorem decideHolding_ok (held : input.position.status ≠ .PAPER_CLOSED)
    (decided : decideHolding options digests input observed quoted = .ok decision) :
    (∃ result, decision = .settled result ∧ Reports options digests input quoted observed result ∧
        result.requestedAction = .NONE) ∨
      ∃ plan, decision = .exit plan ∧ PlannedExit options input quoted observed plan := by
  unfold decideHolding at decided
  split at decided
  · next failure failed =>
      simp only [bind_eq_ok, pure_eq_ok] at decided
      obtain ⟨result, kept, rfl⟩ := decided
      exact .inl ⟨result, rfl, quoteUnavailable_ok held failed kept⟩
  · next sellQuote consistent =>
      split at decided
      · simp only [bind_eq_ok, pure_eq_ok] at decided
        obtain ⟨result, watched, rfl⟩ := decided
        exact .inl ⟨result, rfl, saved_ok watched ⟨⟨rfl, rfl, rfl, rfl⟩, rfl, rfl, rfl⟩ .carried⟩
      · next reason selected =>
          simp only [planExit, bind_eq_ok] at decided
          obtain ⟨triggerAtMs, triggered, decided⟩ := decided
          split at decided
          · simp only [bind_eq_ok, pure_eq_ok] at decided
            obtain ⟨result, pending, rfl⟩ := decided
            exact .inl ⟨result, rfl, exitPending_ok (.selected selected) pending⟩
          · simp only [pure_eq_ok] at decided
            subst decided
            exact .inr ⟨_, rfl, rfl, consistent, selected, triggered, rfl⟩

theorem decideReconcile_ok
    (decided : decideReconcile options collation digests input quoted = .ok decision) :
    reconcileChecks input = .ok () ∧ ∃ observed, observe options collation digests input = .ok observed ∧
      ((input.position.status = .PAPER_CLOSED ∧ ∃ result, decision = .settled result ∧
          recoverClosed options digests input observed = .ok result) ∨
        (input.position.status ≠ .PAPER_CLOSED ∧
          decideHolding options digests input observed quoted = .ok decision)) := by
  simp only [decideReconcile, bind_eq_ok] at decided
  obtain ⟨_, checked, observed, seen, decided⟩ := decided
  refine ⟨checked, observed, seen, ?_⟩
  split at decided
  · next closed =>
      simp only [bind_eq_ok, pure_eq_ok] at decided
      obtain ⟨result, recovered, rfl⟩ := decided
      exact .inl ⟨closed, result, rfl, recovered⟩
  · next held => exact .inr ⟨held, decided⟩

/-- The two ways a call returns: with nothing to do in the ledger, or with a close. -/
theorem reconcile_ok {after : Ledger}
    (returned : reconcile options collation digests engine env input quoted ledger = (.ok result,
      after)) :
    reconcileChecks input = .ok () ∧ ∃ observed, observe options collation digests input = .ok observed ∧
      ((Reports options digests input quoted observed result ∧ result.requestedAction = .NONE ∧
          after = ledger) ∨
        ∃ plan position, input.position.status ≠ .PAPER_CLOSED ∧
          PlannedExit options input quoted observed plan ∧
          closePosition engine env plan.command ledger = (.ok position, after) ∧
          completeExit options digests input plan position = .ok result) := by
  unfold reconcile at returned
  split at returned
  · cases returned
  · next settled decided =>
      cases returned
      obtain ⟨checked, observed, seen, branch⟩ := decideReconcile_ok decided
      refine ⟨checked, observed, seen, .inl ?_⟩
      rcases branch with ⟨-, recovered, same, closed⟩ | ⟨notClosed, held⟩
      · cases same
        obtain ⟨reports, action⟩ := recoverClosed_ok closed
        exact ⟨reports, action, rfl⟩
      · rcases decideHolding_ok notClosed held with ⟨kept, same, reports, action⟩ | ⟨_, same, -⟩
        · cases same
          exact ⟨reports, action, rfl⟩
        · cases same
  · next plan decided =>
      obtain ⟨checked, observed, seen, branch⟩ := decideReconcile_ok decided
      refine ⟨checked, observed, seen, .inr ?_⟩
      rcases branch with ⟨-, recovered, same, -⟩ | ⟨notClosed, held⟩
      · cases same
      · rcases decideHolding_ok notClosed held with ⟨_, same, -⟩ | ⟨_, same, planned⟩
        · cases same
        · cases same
          split at returned
          · cases returned
          · next position final closed =>
              simp only [Prod.mk.injEq] at returned
              obtain ⟨completed, rfl⟩ := returned
              exact ⟨plan, position, notClosed, planned, closed, completed⟩

theorem reconcile_reports
    (returned : (reconcile options collation digests engine env input quoted ledger).1 = .ok result) :
    ∃ observed, observe options collation digests input = .ok observed ∧
      Reports options digests input quoted observed result := by
  obtain ⟨-, observed, seen, ⟨reports, -, -⟩ | ⟨plan, _, -, planned, -, completed⟩⟩ :=
    reconcile_ok (Prod.ext returned rfl)
  · exact ⟨observed, seen, reports⟩
  · have sameObserved := planned.seen
    subst sameObserved
    exact ⟨plan.observed, seen, (completeExit_ok (.selected planned.reason) completed).1⟩

/-! ## The counting loop -/

/-- Trade ids with the wallet that made the trade. -/
abbrev Identities := List (String × String)

/-- No id stands for trades of two wallets. -/
def Identify (identities : Identities) : Prop :=
  ∀ left ∈ identities, ∀ right ∈ identities, left.1 = right.1 → left.2 = right.2

def countedIdentities (session : PaperStrategySessionV2) : Identities :=
  session.countedTradeIds.zip session.countedBuyerWallets

/-- The buys of a list that a session has not counted: of a new wallet, and one for each new
trade id. -/
def newBuys (session : PaperStrategySessionV2) (buys : List CanonicalBuy) : List CanonicalBuy :=
  firstByKey (·.id) session.countedTradeIds
    (buys.filter fun buy => buy.trader ∉ session.countedBuyerWallets)

/-- The new buys up to the target. -/
def countedNow (session : PaperStrategySessionV2) (buys : List CanonicalBuy) : List CanonicalBuy :=
  (newBuys session buys).take (session.externalBuyTarget - session.externalBuyCount)

/-- The checks that an accepted buy has passed. -/
structure AcceptedBuy (session : PaperStrategySessionV2) (buy : ExternalBuyInput) : Prop where
  tradeId : text buy.tradeId "counted trade id" = .ok ()
  trader : text buy.trader "buyer wallet" = .ok ()
  observed : isTimestampMs buy.observedAtMs = true
  boundary : ∃ boundary, session.entryBoundary = some boundary ∧ boundary.slot < buy.cursor.slot

/-- Counting a list of buys one after the other, each of them new and the target not reached. -/
inductive CountsTo (digests : Digests) (candidate : TradingCandidateV1) :
    CountState → List CanonicalBuy → CountState → Prop where
  | done (state : CountState) : CountsTo digests candidate state [] state
  | count {state final : CountState} {buy : CanonicalBuy} {rest : List CanonicalBuy}
      (evidence : PaperExternalBuyEvidenceV2)
      (fresh : ¬ (buy.id ∈ state.session.countedTradeIds ∨
        buy.trader ∈ state.session.countedBuyerWallets ∨
        state.session.externalBuyCount = state.session.externalBuyTarget))
      (accepted : AcceptedBuy state.session (buyInput candidate buy))
      (later : CountsTo digests candidate {
        session := countedSession digests state.session (buyInput candidate buy) fresh
        counted := state.counted ++ [evidence]
        trigger := buy.trigger
        targetBuy := if state.session.externalBuyCount + 1 = state.session.externalBuyTarget then
          some buy else state.targetBuy } rest final) :
      CountsTo digests candidate state (buy :: rest) final

variable {buys : List CanonicalBuy}

section Loop

variable {state final : CountState}

@[simp] theorem domainChecked_eq_ok {α : Type} {step : Except DomainError α} {value : α} :
    domainChecked step = .ok value ↔ step = .ok value := by
  cases step <;> simp [domainChecked]

/-- An accepted buy is skipped, or has been checked and is counted. -/
theorem countUniqueExternalBuy_ok {buy : ExternalBuyInput} {result : CountUniqueExternalBuyResult}
    (counted : countUniqueExternalBuy digests session buy = .ok result) :
    ((buy.tradeId ∈ session.countedTradeIds ∨ buy.trader ∈ session.countedBuyerWallets ∨
          session.externalBuyCount = session.externalBuyTarget) ∧ result.session = session ∧
        result.evidence = none ∧
        result.targetReached = decide (session.externalBuyCount = session.externalBuyTarget)) ∨
      ∃ fresh evidence, result.session = countedSession digests session buy fresh ∧
        result.evidence = some evidence ∧
        result.targetReached = decide (session.externalBuyCount + 1 = session.externalBuyTarget) ∧
        AcceptedBuy session buy := by
  simp only [countUniqueExternalBuy, validateExternalBuy, isStrictlyAfterPaperEntry, bind_eq_ok,
    domainChecked_eq_ok, require_eq_ok, assertValidTimestampMs, Unique.exists_iff] at counted
  obtain ⟨⟨tradeId, _, after, ⟨_, inside⟩, ⟨rfl, _⟩, observed⟩, trader, _, counted⟩ := counted
  split at counted
  · next known =>
      simp only [pure_eq_ok] at counted
      subst counted
      exact .inl ⟨known, rfl, rfl, rfl⟩
  · next fresh =>
      have named : text buy.tradeId "counted trade id" = .ok () := by
        simp only [text, require_eq_ok] at tradeId ⊢
        exact tradeId
      have bounded : ∃ boundary, session.entryBoundary = some boundary ∧
          boundary.slot < buy.cursor.slot := by
        split at inside
        · cases inside
        · next boundary found =>
            simp only [bind_eq_ok, pure_eq_ok, Unique.exists_iff, decide_eq_true_eq] at inside
            exact ⟨boundary, found, inside.2⟩
      have accepted : AcceptedBuy session buy := ⟨named, trader, observed, bounded⟩
      refine .inr ⟨fresh, ?_⟩
      split at counted <;> simp only [bind_eq_ok, pure_eq_ok, Unique.exists_iff] at counted
      · obtain ⟨_, rfl⟩ := counted
        exact ⟨_, rfl, rfl, rfl, accepted⟩
      · subst counted
        exact ⟨_, rfl, rfl, rfl, accepted⟩

theorem newBuys_known {buy : CanonicalBuy} (known : buy.id ∈ session.countedTradeIds ∨
    buy.trader ∈ session.countedBuyerWallets) : newBuys session (buy :: buys) = newBuys session buys := by
  unfold newBuys
  by_cases wallet : buy.trader ∈ session.countedBuyerWallets
  · rw [List.filter_cons_of_neg (by simpa using wallet)]
  · rw [List.filter_cons_of_pos (by simpa using wallet), firstByKey,
      if_pos (known.resolve_right wallet)]

theorem newBuys_fresh {buy : CanonicalBuy}
    (fresh : ¬ (buy.id ∈ session.countedTradeIds ∨ buy.trader ∈ session.countedBuyerWallets ∨
      session.externalBuyCount = session.externalBuyTarget))
    (alone : buy.trader ∉ buys.map (·.trader)) :
    newBuys session (buy :: buys) =
      buy :: newBuys (countedSession digests session (buyInput candidate buy) fresh) buys := by
  rw [not_or, not_or] at fresh
  unfold newBuys
  rw [List.filter_cons_of_pos (by simpa using fresh.2.1), firstByKey, if_neg fresh.1]
  congr 1
  -- No other buy of the list is of this wallet, so counting it changes nothing for the others.
  have sameBuys : (buys.filter fun other => other.trader ∉ session.countedBuyerWallets ++ [buy.trader]) =
      buys.filter fun other => other.trader ∉ session.countedBuyerWallets := by
    refine List.filter_congr fun other member => ?_
    have differs : other.trader ≠ buy.trader := fun same => alone (same ▸ List.mem_map_of_mem member)
    simp [differs]
  change _ = firstByKey _ (session.countedTradeIds ++ [buy.id]) (buys.filter fun other =>
    other.trader ∉ session.countedBuyerWallets ++ [buy.trader])
  rw [sameBuys]
  exact firstByKey_congr fun id => by simp [or_comm]

/-- The loop counts the new buys of its list, in order, up to the target. -/
theorem countBuys_countsTo :
    ∀ {state : CountState}, countBuys digests candidate state buys = .ok final →
      (buys.map (·.trader)).Nodup →
      CountsTo digests candidate state (countedNow state.session buys) final := by
  -- Induction on the list: a buy is skipped, or is counted now, or the loop breaks.
  induction buys with
  | nil =>
    intro state counted _
    simp only [countBuys, pure_eq_ok] at counted
    subst counted
    rw [countedNow, newBuys, List.filter_nil, firstByKey, List.take_nil]
    exact .done state
  | cons buy rest ih =>
    intro state counted distinct
    rw [List.map_cons, List.nodup_cons] at distinct
    simp only [countBuys, bind_eq_ok] at counted
    obtain ⟨result, once, counted⟩ := counted
    rcases countUniqueExternalBuy_ok once with ⟨why, same, none, reached⟩ |
      ⟨fresh, evidence, same, some, reached, accepted⟩
    · simp only [none, reached, same, Option.toList_none, List.append_nil, Option.isSome_none,
        Bool.false_eq_true, ↓reduceIte, decide_eq_true_eq] at counted
      split at counted
      · next full =>
          cases counted
          rw [countedNow, full, Nat.sub_self, List.take_zero]
          exact .done state
      · next below =>
          rw [countedNow, newBuys_known (why.imp_right fun other => other.resolve_right below)]
          exact ih counted distinct.2
    · have room : state.session.externalBuyTarget - state.session.externalBuyCount =
          state.session.externalBuyTarget - (state.session.externalBuyCount + 1) + 1 := by
        have within := state.session.withinTarget
        rw [not_or, not_or] at fresh
        have below : state.session.externalBuyCount ≠ state.session.externalBuyTarget := fresh.2.2
        omega
      rw [countedNow, @newBuys_fresh digests _ candidate _ _ fresh distinct.1,
        room, List.take_succ_cons]
      refine .count evidence fresh accepted ?_
      simp only [some, reached, same, Option.toList_some, Option.isSome_some, ↓reduceIte,
        decide_eq_true_eq] at counted
      split at counted
      · next full =>
          cases counted
          rw [full, Nat.sub_self, List.take_zero, if_pos rfl]
          exact .done _
      · next below =>
          rw [if_neg below]
          exact ih counted distinct.2

section Counted

variable (counts : CountsTo digests candidate state buys final)

include counts

theorem CountsTo.rules : SameRules state.session final.session := by
  induction counts with
  | done => exact SameRules.refl _
  | count evidence fresh accepted later ih => exact ⟨ih.target, ih.minimumAmount, ih.confirmation, ih.boundary⟩

theorem CountsTo.manualTrigger :
    final.session.pendingExitTriggerAtMs = state.session.pendingExitTriggerAtMs := by
  induction counts with
  | done => rfl
  | count evidence fresh accepted later ih => exact ih

theorem CountsTo.tradeIds :
    final.session.countedTradeIds = state.session.countedTradeIds ++ buys.map (·.id) := by
  induction counts with
  | done => exact (List.append_nil _).symm
  | count evidence fresh accepted later ih =>
    rw [ih]
    exact List.append_assoc _ _ _

theorem CountsTo.wallets :
    final.session.countedBuyerWallets = state.session.countedBuyerWallets ++ buys.map (·.trader) := by
  induction counts with
  | done => exact (List.append_nil _).symm
  | count evidence fresh accepted later ih =>
    rw [ih]
    exact List.append_assoc _ _ _

theorem CountsTo.total :
    final.session.externalBuyCount = state.session.externalBuyCount + buys.length := by
  rw [← final.session.walletsCounted, counts.wallets, List.length_append, state.session.walletsCounted,
    List.length_map]

/-- The buy that reaches the target sets the reason and is the target buy. -/
theorem CountsTo.target : (final.session.pendingExitReason, final.targetBuy) =
      if buys ≠ [] ∧ final.session.externalBuyCount = final.session.externalBuyTarget then
        (some .EXTERNAL_UNIQUE_BUYERS_TARGET_REACHED, buys.getLast?)
      else (state.session.pendingExitReason, state.targetBuy) := by
  induction counts with
  | done => simp
  | @count state final buy rest evidence fresh accepted later ih =>
    cases rest with
    | nil =>
      cases later
      simp only [countedSession]
      grind
    | cons next others =>
      -- The next buy was counted as well, so this one did not reach the target.
      have below : state.session.externalBuyCount + 1 ≠ state.session.externalBuyTarget := by
        cases later with
        | count _ open_ => exact fun full => open_ (.inr (.inr full))
      simp only [ih, countedSession, below]
      simp

end Counted

theorem wallet_of_counted {id : String} (counted : id ∈ session.countedTradeIds) :
    ∃ wallet ∈ session.countedBuyerWallets, (id, wallet) ∈ countedIdentities session := by
  obtain ⟨index, bound, rfl⟩ := List.mem_iff_getElem.mp counted
  have within : index < session.countedBuyerWallets.length := by
    rw [session.walletsCounted, ← session.tradesCounted]
    exact bound
  refine ⟨session.countedBuyerWallets[index], List.getElem_mem _, ?_⟩
  rw [countedIdentities, List.mem_iff_getElem]
  exact ⟨index, by simp [bound, within], by simp⟩

theorem countedIdentities_wallets (session : PaperStrategySessionV2) :
    (countedIdentities session).map (·.2) = session.countedBuyerWallets := by
  rw [countedIdentities]
  apply List.map_snd_zip
  rw [session.walletsCounted, session.tradesCounted]

theorem CountsTo.identities (counts : CountsTo digests candidate state buys final) :
    countedIdentities final.session =
      countedIdentities state.session ++ buys.map fun buy => (buy.id, buy.trader) := by
  have sizes : state.session.countedTradeIds.length = state.session.countedBuyerWallets.length := by
    rw [state.session.tradesCounted, state.session.walletsCounted]
  rw [countedIdentities, counts.tradeIds, counts.wallets, List.zip_append sizes, List.zip_map']
  rfl

theorem newBuys_sublist : (newBuys session buys).Sublist buys :=
  firstByKey_sublist.trans List.filter_sublist

/-- When ids identify, the new buys miss no wallet of the list. -/
theorem newBuys_complete {identities : Identities} (identified : Identify identities)
    (listed : ∀ buy ∈ buys, (buy.id, buy.trader) ∈ identities)
    (known : countedIdentities session ⊆ identities) (buy : CanonicalBuy) (member : buy ∈ buys) :
    buy.trader ∈ session.countedBuyerWallets ++ (newBuys session buys).map (·.trader) := by
  rw [List.mem_append]
  by_cases wallet : buy.trader ∈ session.countedBuyerWallets
  · exact .inl wallet
  by_cases trade : buy.id ∈ session.countedTradeIds
  · obtain ⟨counted, isCounted, identity⟩ := wallet_of_counted trade
    have same : counted = buy.trader := identified _ (known identity) _ (listed buy member) rfl
    exact .inl (same ▸ isCounted)
  · -- Another buy with this id may have been kept instead, but then it is of the same wallet.
    have candidates : buy ∈ buys.filter fun other => other.trader ∉ session.countedBuyerWallets :=
      List.mem_filter.mpr ⟨member, by simpa using wallet⟩
    obtain ⟨kept, isKept, sameId⟩ := List.mem_map.mp ((@key_mem_firstByKey _ _ _ (·.id) _ _ _).mpr
      ⟨List.mem_map_of_mem candidates, trade⟩)
    have same := identified _ (listed kept (newBuys_sublist.mem isKept)) _ (listed buy member) sameId
    exact .inr (List.mem_map.mpr ⟨kept, isKept, same⟩)

end Loop

/-! ## Qualifying buys -/

/-- A buy of the position's pair by another wallet than the creator: large enough, confirmed
enough, and in a later slot than the entry. -/
def isQualifyingBuy (input : ReconcileInput) (facts : TradeFacts) : Bool :=
  facts.kind = .BUY ∧ facts.trader ≠ some input.creator ∧
    facts.mint = input.candidate.mint ∧ facts.quoteMint = input.candidate.quoteAsset.mint ∧
    input.session.externalMinimumBuyAmountRaw ≤ facts.quoteAmountRaw ∧
    confirmationReached facts.confirmationStatus input.session.minimumConfirmation ∧
    input.session.entryBoundary.any fun boundary => boundary.slot < facts.cursor.slot

def qualifyingIdentity (input : ReconcileInput) (id : String) (facts : TradeFacts) :
    Option (String × String) :=
  if isQualifyingBuy input facts then facts.trader.map fun trader => (id, trader) else none

def qualifyingIdentities (input : ReconcileInput) : Identities :=
  input.launchTrades.filterMap (fun event =>
    qualifyingIdentity input event.trade.id (launchFacts event)) ++
  input.marketTrades.filterMap fun trade => qualifyingIdentity input trade.id (marketFacts trade)

/-- The distinct wallets with a qualifying buy in the supplied trades. -/
def uniqueExternalWallets (input : ReconcileInput) : List String :=
  ((qualifyingIdentities input).map (·.2)).dedup

theorem afterEntry_ok {accepted after : Bool} {cursor : ChainCursor}
    (tested : afterEntry input accepted cursor = .ok after) :
    after = (accepted && input.session.entryBoundary.any fun boundary =>
      boundary.slot < cursor.slot) := by
  unfold afterEntry at tested
  split at tested
  · next accepts =>
      simp only [isStrictlyAfterPaperEntry, bind_eq_ok] at tested
      obtain ⟨_, -, tested⟩ := tested
      split at tested
      · cases tested
      · next boundary present =>
          simp only [bind_eq_ok, pure_eq_ok] at tested
          obtain ⟨_, -, rfl⟩ := tested
          simp [accepts, present]
  · next rejects =>
      cases tested
      simp [rejects]

/-- The code's tests, read as a qualifying buy with a known trader. -/
theorem qualifyingIdentity_eq (id : String) (facts : TradeFacts) :
    qualifyingIdentity input id facts =
      if (isExternalBuy input facts && input.session.entryBoundary.any fun boundary =>
        boundary.slot < facts.cursor.slot) then some (id, facts.trader.getD "") else none := by
  cases trader : facts.trader with
  | none => simp [qualifyingIdentity, isExternalBuy, trader]
  | some wallet =>
    simp only [qualifyingIdentity, isQualifyingBuy, isExternalBuy, trader, Option.map_some,
      Option.getD_some, not_lt]
    congr 1
    grind

variable {choice : Option CanonicalBuy}

theorem launchBuy_ok {event : BondingCurveTradeObservedEvent}
    (selected : launchBuy input event = .ok choice) :
    choice.map (fun buy => (buy.id, buy.trader)) =
      qualifyingIdentity input event.trade.id (launchFacts event) := by
  simp only [launchBuy, bind_eq_ok] at selected
  obtain ⟨after, tested, selected⟩ := selected
  rw [qualifyingIdentity_eq, ← afterEntry_ok tested]
  split at selected <;> · cases selected; simp_all

theorem marketBuy_ok {trade : MarketTrade} (selected : marketBuy digests input trade = .ok choice) :
    choice.map (fun buy => (buy.id, buy.trader)) =
      qualifyingIdentity input trade.id (marketFacts trade) := by
  simp only [marketBuy, bind_eq_ok] at selected
  obtain ⟨after, tested, selected⟩ := selected
  rw [qualifyingIdentity_eq, ← afterEntry_ok tested]
  split at selected
  · simp only [bind_eq_ok, pure_eq_ok] at selected
    obtain ⟨_, -, rfl⟩ := selected
    simp_all
  · cases selected
    simp_all

theorem qualifyingBuys_identities (collected : qualifyingBuys digests input = .ok buys) :
    buys.map (fun buy => (buy.id, buy.trader)) = qualifyingIdentities input := by
  simp only [qualifyingBuys, bind_eq_ok, pure_eq_ok] at collected
  obtain ⟨launched, launchedOk, marketed, marketedOk, rfl⟩ := collected
  rw [List.map_append, map_collect (fun _ _ selected => launchBuy_ok selected) launchedOk,
    map_collect (fun _ _ selected => marketBuy_ok selected) marketedOk]
  rfl

variable {canonical : List CanonicalBuy}

/-- The canonical buys are qualifying buys, and are one for every qualifying wallet. -/
theorem canonicalBuys_ok (listed : canonicalBuys collation digests input = .ok canonical) :
    (∀ buy ∈ canonical, (buy.id, buy.trader) ∈ qualifyingIdentities input) ∧
      (∀ wallet, wallet ∈ canonical.map (·.trader) ↔ wallet ∈ uniqueExternalWallets input) ∧
      (canonical.map (·.trader)).Nodup := by
  simp only [canonicalBuys, bind_eq_ok, pure_eq_ok] at listed
  obtain ⟨buys, collected, rfl⟩ := listed
  have identities := qualifyingBuys_identities collected
  have sorted := List.perm_insertionSort (buyNotAfter collation) buys
  refine ⟨?_, ?_, firstByKey_nodup⟩
  · intro buy member
    rw [← identities]
    exact List.mem_map.mpr ⟨buy, sorted.mem_iff.mp (firstByKey_sublist.mem member), rfl⟩
  · intro wallet
    rw [key_mem_firstByKey, (sorted.map _).mem_iff, uniqueExternalWallets, List.mem_dedup,
      ← identities, List.map_map]
    simp [Function.comp_def]

/-- The canonical buys of the supplied trades; none if a trade is refused. -/
def suppliedBuys (collation : Collation) (digests : Digests) (input : ReconcileInput) :
    List CanonicalBuy :=
  (canonicalBuys collation digests input).toOption.getD []

/-- What a call observes: its canonical buys were listed and the new ones counted. -/
theorem observe_counts (seen : observe options collation digests input = .ok observed) :
    ∃ state, canonicalBuys collation digests input = .ok (suppliedBuys collation digests input) ∧
      CountsTo digests input.candidate ⟨input.session, [], contextTrigger input, none⟩
        (countedNow input.session (suppliedBuys collation digests input)) state ∧
      observed.session = state.session ∧
      observed.targetBuy = state.targetBuy.or
        (storedTargetBuy state.session (suppliedBuys collation digests input)) ∧
      earliestCreatorSell collation digests input = .ok observed.creatorSell ∧
      observed.trigger = if options.manualKillSwitch then contextTrigger input
        else observed.creatorSell.getD ((observed.targetBuy.map (·.trigger)).getD state.trigger) := by
  simp only [observe, bind_eq_ok, pure_eq_ok] at seen
  obtain ⟨canonical, listed, state, counted, sell, found, rfl⟩ := seen
  have supplied : suppliedBuys collation digests input = canonical := by
    rw [suppliedBuys, listed]
    rfl
  rw [supplied]
  exact ⟨state, listed, countBuys_countsTo counted (canonicalBuys_ok listed).2.2, rfl, rfl, found, rfl⟩

theorem countedNow_qualify (listed : canonicalBuys collation digests input = .ok canonical) :
    (countedNow input.session canonical).map (fun buy => (buy.id, buy.trader)) ⊆
      qualifyingIdentities input := by
  intro identity member
  obtain ⟨buy, isCounted, rfl⟩ := List.mem_map.mp member
  exact (canonicalBuys_ok listed).1 buy (newBuys_sublist.mem (List.mem_of_mem_take isCounted))

/-- What one call counts, from what the session had counted before. -/
theorem observe_counted (identified : Identify (qualifyingIdentities input))
    (known : countedIdentities input.session ⊆ qualifyingIdentities input)
    (seen : observe options collation digests input = .ok observed) :
    SameRules input.session observed.session ∧
      countedIdentities observed.session ⊆ qualifyingIdentities input ∧
      observed.session.externalBuyCount =
        min observed.session.externalBuyTarget (uniqueExternalWallets input).length := by
  obtain ⟨state, listed, counts, same, -⟩ := observe_counts seen
  obtain ⟨qualifying, wallets, -⟩ := canonicalBuys_ok listed
  rw [same]
  have knownAfter : countedIdentities state.session ⊆ qualifyingIdentities input := by
    rw [counts.identities]
    exact List.append_subset.mpr ⟨known, countedNow_qualify listed⟩
  refine ⟨counts.rules, knownAfter, ?_⟩
  have distinct := state.session.distinctWallets
  have length := state.session.walletsCounted
  have within := state.session.withinTarget
  -- Counted wallets are qualifying wallets, so there are at most as many of them.
  have qualifyingWallets : state.session.countedBuyerWallets ⊆ uniqueExternalWallets input := by
    rw [← countedIdentities_wallets]
    intro wallet member
    obtain ⟨identity, isCounted, rfl⟩ := List.mem_map.mp member
    exact List.mem_dedup.mpr (List.mem_map.mpr ⟨identity, knownAfter isCounted, rfl⟩)
  have atMost := (List.subperm_of_subset distinct qualifyingWallets).length_le
  have total := counts.total
  have target := counts.rules.target
  by_cases room : (newBuys input.session (suppliedBuys collation digests input)).length ≤
      input.session.externalBuyTarget - input.session.externalBuyCount
  · have uniqueCounted : uniqueExternalWallets input ⊆ state.session.countedBuyerWallets := by
      intro wallet member
      obtain ⟨buy, buyMember, rfl⟩ := List.mem_map.mp ((wallets wallet).mpr member)
      rw [counts.wallets, countedNow, List.take_of_length_le room]
      exact newBuys_complete identified qualifying known buy buyMember
    have atLeast := (List.subperm_of_subset (List.nodup_dedup _) uniqueCounted).length_le
    change (uniqueExternalWallets input).length ≤ _ at atLeast
    omega
  · rw [countedNow, List.length_take_of_le (by omega)] at total
    have before := input.session.withinTarget
    change state.session.externalBuyTarget = input.session.externalBuyTarget at target
    change _ = input.session.externalBuyCount + _ at total
    omega

/-! ## Runs of calls -/

/-- What stays the same over all calls for one position. -/
structure Setting where
  collation : Collation
  digests : Digests
  engine : Engine
  candidate : TradingCandidateV1
  creator : String

/-- One call of `reconcile`, with the surroundings it finds. -/
structure ReconcileCall where
  options : CreationEntryOptions
  position : PaperPosition
  launchTrades : List BondingCurveTradeObservedEvent
  marketTrades : List MarketTrade
  nowMs : Int
  contextEvent : Option DomainEvent
  quoted : Except QuoteFailure PaperExecutionQuote
  env : Environment
  ledger : Ledger

def callInput (setting : Setting) (session : PaperStrategySessionV2) (call : ReconcileCall) :
    ReconcileInput where
  candidate := setting.candidate
  session := session
  position := call.position
  creator := setting.creator
  launchTrades := call.launchTrades
  marketTrades := call.marketTrades
  nowMs := call.nowMs
  contextEvent := call.contextEvent

def runCall (setting : Setting) (session : PaperStrategySessionV2) (call : ReconcileCall) :
    Checked CreationEntryStrategyResult :=
  (reconcile call.options setting.collation setting.digests setting.engine call.env
    (callInput setting session call) call.quoted call.ledger).1

/-- The stored session after a sequence of calls; a call that throws stores nothing. -/
def runCalls (setting : Setting) (session : PaperStrategySessionV2) :
    List ReconcileCall → PaperStrategySessionV2
  | [] => session
  | call :: rest =>
    match runCall setting session call with
    | .ok result => runCalls setting result.session rest
    | .error _ => runCalls setting session rest

/-- Every trade supplied to the earlier call is supplied again. -/
def SuppliesMore (earlier later : ReconcileCall) : Prop :=
  earlier.launchTrades ⊆ later.launchTrades ∧ earlier.marketTrades ⊆ later.marketTrades

/-- The ids of all supplied trades, with their traders. -/
def suppliedIdentities (call : ReconcileCall) : List (String × Option String) :=
  call.launchTrades.map (fun event => (event.trade.id, event.trade.trader)) ++
    call.marketTrades.map fun trade => (trade.id, trade.trader)

/-- Trade ids are digests of the traded instruction: one id, one trade, one trader. -/
def TradeIdsIdentify (call : ReconcileCall) : Prop :=
  ∀ left ∈ suppliedIdentities call, ∀ right ∈ suppliedIdentities call,
    left.1 = right.1 → left.2 = right.2

variable {identity : String × String} {earlier : ReconcileCall}

section Runs

variable {setting : Setting}

theorem qualifyingIdentity_trader {id : String} {facts : TradeFacts}
    (qualifies : qualifyingIdentity input id facts = some identity) :
    identity.1 = id ∧ facts.trader = some identity.2 := by
  unfold qualifyingIdentity at qualifies
  split at qualifies
  · obtain ⟨wallet, trader, rfl⟩ := Option.map_eq_some_iff.mp qualifies
    exact ⟨rfl, trader⟩
  · cases qualifies

theorem supplied_of_qualifying
    (member : identity ∈ qualifyingIdentities (callInput setting session call)) :
    (identity.1, some identity.2) ∈ suppliedIdentities call := by
  rw [qualifyingIdentities, List.mem_append, List.mem_filterMap, List.mem_filterMap] at member
  rw [suppliedIdentities, List.mem_append, List.mem_map, List.mem_map]
  rcases member with ⟨event, supplied, qualifies⟩ | ⟨trade, supplied, qualifies⟩
  · obtain ⟨sameId, trader⟩ := qualifyingIdentity_trader qualifies
    exact .inl ⟨event, supplied, Prod.ext sameId.symm trader⟩
  · obtain ⟨sameId, trader⟩ := qualifyingIdentity_trader qualifies
    exact .inr ⟨trade, supplied, Prod.ext sameId.symm trader⟩

theorem identify_of_supplied (identified : TradeIdsIdentify call) :
    Identify (qualifyingIdentities (callInput setting session call)) := by
  intro left leftMember right rightMember sameId
  exact Option.some.inj (identified _ (supplied_of_qualifying leftMember) _
    (supplied_of_qualifying rightMember) sameId)

/-- Whether a trade qualifies is a matter of the rules alone. -/
theorem qualifyingIdentity_rules {before after : PaperStrategySessionV2}
    (rules : SameRules before after) (earlier later : ReconcileCall) :
    qualifyingIdentity (callInput setting before earlier) =
      qualifyingIdentity (callInput setting after later) := by
  have sameTest : ∀ facts, isQualifyingBuy (callInput setting before earlier) facts =
      isQualifyingBuy (callInput setting after later) facts := by
    intro facts
    unfold isQualifyingBuy
    rw [decide_eq_decide]
    simp only [callInput, rules.minimumAmount, rules.confirmation, rules.boundary]
  funext id facts
  simp only [qualifyingIdentity, sameTest]

theorem qualifyingIdentities_mono {before after : PaperStrategySessionV2}
    (rules : SameRules before after) (more : SuppliesMore earlier later) :
    qualifyingIdentities (callInput setting before earlier) ⊆
      qualifyingIdentities (callInput setting after later) := by
  intro identity member
  simp only [qualifyingIdentities, qualifyingIdentity_rules rules earlier later, List.mem_append,
    List.mem_filterMap] at member ⊢
  rcases member with ⟨event, supplied, qualifies⟩ | ⟨trade, supplied, qualifies⟩
  · exact .inl ⟨event, more.1 supplied, qualifies⟩
  · exact .inr ⟨trade, more.2 supplied, qualifies⟩

theorem runCall_counted (identified : TradeIdsIdentify call)
    (known : countedIdentities session ⊆ qualifyingIdentities (callInput setting session call))
    (returned : runCall setting session call = .ok result) :
    SameRules session result.session ∧
      countedIdentities result.session ⊆ qualifyingIdentities (callInput setting session call) ∧
      result.session.externalBuyCount = min result.session.externalBuyTarget
        (uniqueExternalWallets (callInput setting session call)).length := by
  obtain ⟨observed, seen, reports⟩ := reconcile_reports returned
  have same := reports.buys
  obtain ⟨rules, knownAfter, count⟩ := observe_counted (identify_of_supplied identified) known seen
  refine ⟨rules.trans same.toSameRules, ?_, ?_⟩
  · rw [countedIdentities, same.tradeIds, same.wallets]
    exact knownAfter
  · rw [same.count, same.target]
    exact count

/-- A property of the stored session and the trades supplied next, kept by every call that
returns, holds when the last call is made. -/
theorem runCalls_preserves (holds : PaperStrategySessionV2 → ReconcileCall → Prop)
    (valid : ReconcileCall → Prop)
    (step : ∀ {session call later result}, valid call → holds session call →
      runCall setting session call = .ok result → SuppliesMore call later →
      holds result.session later)
    (last : ReconcileCall) {calls : List ReconcileCall} :
    ∀ {session : PaperStrategySessionV2}, (calls ++ [last]).Pairwise SuppliesMore →
      (∀ call ∈ calls ++ [last], valid call) → (∀ call ∈ calls ++ [last], holds session call) →
      holds (runCalls setting session calls) last := by
  induction calls with
  | nil =>
    intro session _ _ start
    exact start last (by simp)
  | cons call rest ih =>
    intro session grows allValid start
    rw [List.cons_append, List.pairwise_cons] at grows
    rw [List.cons_append, List.forall_mem_cons] at allValid start
    rw [runCalls]
    split
    · next result returned =>
        exact ih grows.2 allValid.2 fun later member =>
          step allValid.1 start.1 returned (grows.1 later member)
    · exact ih grows.2 allValid.2 start.2

/-- Under the rules of the first session, everything counted so far is a qualifying buy of the
trades supplied next. -/
def Known (setting : Setting) (start session : PaperStrategySessionV2) (call : ReconcileCall) : Prop :=
  SameRules start session ∧
    countedIdentities session ⊆ qualifyingIdentities (callInput setting session call)

theorem known_step {start : PaperStrategySessionV2} (identified : TradeIdsIdentify call)
    (known : Known setting start session call)
    (returned : runCall setting session call = .ok result) (more : SuppliesMore call later) :
    Known setting start result.session later := by
  obtain ⟨rules, knownAfter, -⟩ := runCall_counted identified known.2 returned
  exact ⟨known.1.trans rules,
    List.Subset.trans knownAfter (qualifyingIdentities_mono rules more)⟩

theorem tradeIdsIdentify_of_more (more : SuppliesMore earlier later)
    (identified : TradeIdsIdentify later) : TradeIdsIdentify earlier := by
  have supplied : suppliedIdentities earlier ⊆ suppliedIdentities later := by
    intro identity member
    rw [suppliedIdentities, List.mem_append, List.mem_map, List.mem_map] at member ⊢
    rcases member with ⟨event, member, same⟩ | ⟨trade, member, same⟩
    · exact .inl ⟨event, more.1 member, same⟩
    · exact .inr ⟨trade, more.2 member, same⟩
  intro left leftMember right rightMember sameId
  exact identified left (supplied leftMember) right (supplied rightMember) sameId

theorem countedIdentities_empty (empty : session.externalBuyCount = 0) :
    countedIdentities session = [] := by
  have none : session.countedTradeIds = [] :=
    List.eq_nil_of_length_eq_zero (session.tradesCounted.trans empty)
  rw [countedIdentities, none, List.zip_nil_left]

/-- The unique-buyer count is exact after every call of every run from an empty session. -/
theorem externalBuyCount_exact (setting : Setting) (session : PaperStrategySessionV2)
    (empty : session.externalBuyCount = 0) (calls : List ReconcileCall) (last : ReconcileCall)
    (grows : (calls ++ [last]).Pairwise SuppliesMore) (identified : TradeIdsIdentify last)
    (result : CreationEntryStrategyResult)
    (returned : runCall setting (runCalls setting session calls) last = .ok result) :
    result.session.externalBuyTarget = session.externalBuyTarget ∧
      result.session.externalBuyCount = min session.externalBuyTarget
        (uniqueExternalWallets (callInput setting session last)).length ∧
      result.session.countedBuyerWallets.length = result.session.externalBuyCount ∧
      result.session.countedBuyerWallets.Nodup ∧ result.session.countedTradeIds.Nodup := by
  have identifiedAll : ∀ call ∈ calls ++ [last], TradeIdsIdentify call := by
    intro call member
    rcases List.mem_append.mp member with earlier | isLast
    · have more := (List.pairwise_append.mp grows).2.2 call earlier last (List.mem_singleton_self _)
      exact tradeIdsIdentify_of_more more identified
    · rwa [List.mem_singleton.mp isLast]
  have knownStart : ∀ call ∈ calls ++ [last], Known setting session session call := by
    intro call _
    refine ⟨SameRules.refl _, ?_⟩
    rw [countedIdentities_empty empty]
    exact List.nil_subset _
  obtain ⟨runRules, known⟩ : Known setting session (runCalls setting session calls) last :=
    runCalls_preserves _ TradeIdsIdentify known_step last grows identifiedAll knownStart
  obtain ⟨callRules, -, count⟩ := runCall_counted identified known returned
  have rules := runRules.trans callRules
  refine ⟨rules.target, ?_, result.session.walletsCounted, result.session.distinctWallets,
    result.session.distinctTrades⟩
  have sameWallets : uniqueExternalWallets (callInput setting session last) =
      uniqueExternalWallets (callInput setting (runCalls setting session calls) last) := by
    simp only [uniqueExternalWallets, qualifyingIdentities, qualifyingIdentity_rules runRules last last]
    rfl
  rw [count, rules.target, sameWallets]

end Runs

/-! ## A position with a target of two wallets -/

def sampleCollation : Collation where
  localeCompare := compare
  consistent := inferInstance

def sampleHex : String := "0000000000000000000000000000000000000000000000000000000000000000"

def sampleDigests : Digests where
  hash := fun _ => sampleHex
  hashSession := fun _ => sampleHex
  hashLength := fun _ => by decide
  hashSessionLength := fun _ => by decide

def sampleCandidate : TradingCandidateV1 where
  id := "candidate_" ++ sampleHex
  mint := "mint"
  strategy := creationStrategy
  qualificationReportId := "report"
  asOf := ⟨"evt_1", ⟨10, 0, 0, none⟩, .confirmed, 1000⟩
  quoteAsset := ⟨"quote", 9, .SPL_TOKEN⟩
  buyQuote := some sampleOpen.buyQuote

def sampleSession : PaperStrategySessionV2 where
  id := "paper_session_" ++ sampleHex
  mint := "mint"
  quoteAsset := ⟨"quote", 9, .SPL_TOKEN⟩
  candidateId := "candidate_" ++ sampleHex
  qualificationReportId := "report"
  state := .PAPER_HOLDING
  reasonCode := .QUALIFIED_ENTRY
  positionId := some "paper_position_p"
  openCommandId := "paper_open_" ++ sampleHex
  closeCommandId := none
  entryCursor := ⟨10, 0, 0, none⟩
  externalBuyTarget := 2
  externalBuyCount := 0
  externalMinimumBuyAmountRaw := 5
  countedTradeIds := []
  countedBuyerWallets := []
  lastCountedCursor := none
  minimumConfirmation := .confirmed
  lastQuote := none
  lastError := none
  pendingExitReason := none
  pendingExitTriggerAtMs := none
  entryBoundary := some ⟨11, "buy", 2000⟩
  createdAtMs := 2000
  updatedAtMs := 2000
  purgeAfterMs := 14402000
  withinTarget := by decide
  tradesCounted := List.length_nil
  walletsCounted := List.length_nil
  distinctTrades := List.nodup_nil
  distinctWallets := List.nodup_nil

def sampleOptions : CreationEntryOptions where
  retentionMs := 14400000
  externalMinimumBuyAmountRaw := 5
  takeProfitMultiplierBps := 20000
  manualKillSwitch := false
  retention := rfl
  minimumBuyPositive := by decide
  multiplierBounds := by decide

/-- The open command of a creation position. -/
def sampleEntry : OpenPaperPositionCommand :=
  { sampleOpen with
    strategy := creationStrategy
    entryDecisionAtMs := some 1500
    entryDecisionJobId := some "job" }

def sampleLedger : Ledger :=
  runCommands sampleEngine .empty [(sampleEnvironment, .open sampleEntry)]

def samplePosition : PaperPosition := sampleLedger.positions.head (by decide)

def sampleTrade (id wallet : String) (slot : Int) : MarketTrade where
  id := id
  mint := "mint"
  quoteAsset := ⟨"quote", 9, .SPL_TOKEN⟩
  kind := .BUY
  trader := some wallet
  quoteAmountRaw := 10
  program := "program"
  signature := "signature"
  cursor := ⟨slot, 0, 0, none⟩
  confirmationStatus := .confirmed
  blockchainTimeMs := none
  observedAtMs := 3000

/-- A full-position quote for twice the cost of the position. -/
def sampleQuote : PaperExecutionQuote :=
  ⟨"sell", "mint", "quote", 490, 2100, 2000, 0, 100, 0, 4000, 21⟩

def sampleCall (trades : List MarketTrade) (quoted : Except QuoteFailure PaperExecutionQuote) :
    ReconcileCall where
  options := sampleOptions
  position := samplePosition
  launchTrades := []
  marketTrades := trades
  nowMs := 5000
  contextEvent := none
  quoted := quoted
  env := sampleEnvironment
  ledger := sampleLedger

def sampleSetting : Setting where
  collation := sampleCollation
  digests := sampleDigests
  engine := sampleEngine
  candidate := sampleCandidate
  creator := "creator"

/-- Two wallets, a repeated trade and a late one, over two calls. -/
theorem externalBuyCount_exact_sample :
    let earlier := sampleCall [sampleTrade "t1" "w1" 12] (.error .other)
    let later := sampleCall [sampleTrade "t2" "w2" 20, sampleTrade "t1" "w1" 12,
      sampleTrade "t1" "w1" 12, sampleTrade "t0" "w1" 14] (.error .other)
    ∃ result, runCall sampleSetting (runCalls sampleSetting sampleSession [earlier]) later = .ok result ∧
      result.session.externalBuyCount = min 2
        (uniqueExternalWallets (callInput sampleSetting sampleSession later)).length := by
  intro earlier later
  obtain ⟨result, returned⟩ := exists_of_isOk (by decide +kernel :
    (runCall sampleSetting (runCalls sampleSetting sampleSession [earlier]) later).isOk = true)
  have grows : ([earlier] ++ [later]).Pairwise SuppliesMore := by
    simp [earlier, later, SuppliesMore, sampleCall]
  have identified : TradeIdsIdentify later := by
    unfold TradeIdsIdentify
    decide
  exact ⟨result, returned, (externalBuyCount_exact sampleSetting sampleSession rfl [earlier] later
    grows identified result returned).2.1⟩

end SolTokenListener.Guarantees.CreationCount
