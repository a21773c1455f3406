import SolTokenListener.Guarantees.CreationExit
import SolTokenListener.Source.CreationEvidence

/-!
# When a returned session passes the constructor's checks

Counting a buy copies the session without the constructor, and sets its update time to the time the buy
was observed. A session that the constructor built again passes its checks; one that was only counted
passes them exactly if the last counted buy was observed between the session's creation and its purge and
lies after the entry cursor, and if the buy that reaches the target finds no manual trigger.
-/

namespace SolTokenListener.Guarantees.SessionInvariant

open Lib.Checked Source.Chain Source.PaperTrading Source.PaperLedger Source.PaperStrategy
open Source.PaperTradingEngine Source.CreationEntryStrategy
open Guarantees.CreationCount Guarantees.CreationExit

variable {digests : Digests} {candidate : TradingCandidateV1} {session next : PaperStrategySessionV2}

/-! ## The constructor's checks -/

/-- The checks that counting a buy cannot break. -/
structure Lasting (session : PaperStrategySessionV2) : Prop where
  position : validatePositionId session.positionId = .ok ()
  entryCursor : domainChecked (assertValidChainCursor session.entryCursor) = .ok ()
  target : boundedTarget session.externalBuyTarget = .ok ()
  tradeIds : texts "counted trade id" session.countedTradeIds = .ok ()
  created : isTimestampMs session.createdAtMs = true
  updated : isTimestampMs session.updatedAtMs = true
  purge : isTimestampMs session.purgeAfterMs = true
  error : validateLastError session.lastError = .ok ()
  minimum : 0 < session.externalMinimumBuyAmountRaw
  wallets : texts "buyer wallet" session.countedBuyerWallets = .ok ()
  boundary : ∀ boundary, session.entryBoundary = some boundary →
    validateEntryBoundary boundary = .ok () ∧
      ∀ cursor, session.lastCountedCursor = some cursor → boundary.slot < cursor.slot

/-- The checks of the constructor; those about counts and repetitions are carried by every session. -/
structure SessionChecks (session : PaperStrategySessionV2) : Prop extends Lasting session where
  ordered : session.createdAtMs ≤ session.updatedAtMs
  purged : session.updatedAtMs < session.purgeAfterMs
  after : ∀ cursor, session.lastCountedCursor = some cursor →
    compareCursors cursor session.entryCursor = .ok .gt
  manual : ∀ triggerAtMs, session.pendingExitTriggerAtMs = some triggerAtMs →
    isTimestampMs triggerAtMs = true ∧ session.pendingExitReason = some .MANUAL_KILL_SWITCH

theorem validateLastCountedCursor_ok {entryCursor : ChainCursor} {last : Option ChainCursor} :
    validateLastCountedCursor entryCursor last = .ok () ↔
      ∀ cursor, last = some cursor → compareCursors cursor entryCursor = .ok .gt := by
  cases last with
  | none => simp [validateLastCountedCursor]
  | some cursor =>
    simp only [validateLastCountedCursor, bind_eq_ok, domainChecked_eq_ok, require_eq_ok,
      Option.some.injEq, forall_eq']
    constructor
    · rintro ⟨_, _, order, compared, rfl⟩
      exact compared
    · intro compared
      refine ⟨(), ?_, _, compared, rfl⟩
      simp only [compareCursors, bind_eq_ok] at compared
      exact compared.choose_spec.1

theorem validatePendingExit_ok {input : CreateCreationEntrySessionInput} :
    validatePendingExit input = .ok () ↔ ∀ triggerAtMs, input.pendingExitTriggerAtMs = some triggerAtMs →
      isTimestampMs triggerAtMs = true ∧ input.pendingExitReason = some .MANUAL_KILL_SWITCH := by
  unfold validatePendingExit
  split
  case h_1 none => simp [none]
  case h_2 triggerAtMs found => simp [found, assertValidTimestampMs]

theorem validateSessionBoundary_ok {input : CreateCreationEntrySessionInput} :
    validateSessionBoundary input = .ok () ↔ ∀ boundary, input.entryBoundary = some boundary →
      validateEntryBoundary boundary = .ok () ∧
        ∀ cursor, input.lastCountedCursor = some cursor → boundary.slot < cursor.slot := by
  unfold validateSessionBoundary
  split
  case h_1 none => simp [none]
  case h_2 boundary found => cases input.lastCountedCursor <;> simp [found, Unique.exists_iff]

/-- For a candidate of the strategy, the constructor accepts exactly the sessions that pass the checks. -/
theorem updateSession_isOk_iff (named : isCandidateId candidate.id = true)
    (strategy : candidate.strategy = creationStrategy) :
    (∃ built, updateSession digests candidate session = .ok built) ↔ SessionChecks session := by
  have counts : CountedTrades session.externalBuyCount session.externalBuyTarget
      session.countedTradeIds := ⟨session.withinTarget, session.tradesCounted, session.distinctTrades⟩
  have buyers : session.countedBuyerWallets.length = session.externalBuyCount ∧
      session.countedBuyerWallets.Nodup := ⟨session.walletsCounted, session.distinctWallets⟩
  simp only [updateSession, createCreationEntrySession, validateSessionInput, bind_eq_ok, pure_eq_ok,
    require_eq_ok, domainChecked_eq_ok, assertValidTimestampMs, Unique.exists_iff, not_or, not_lt, not_le]
  constructor
  · rintro ⟨_, _, ⟨_, position, entryCursor, target, _, _, tradeIds, last, created, updated, purge,
      ⟨ordered, purged⟩, error, _⟩, _, _, _, minimum, wallets, manual, boundary, _⟩
    exact ⟨⟨position, domainChecked_eq_ok.mpr entryCursor, target, tradeIds, created, updated, purge,
      error, minimum, wallets, validateSessionBoundary_ok.mp boundary⟩, ordered, purged,
      validateLastCountedCursor_ok.mp last, validatePendingExit_ok.mp manual⟩
  · intro checks
    exact ⟨_, ⟨counts⟩, ⟨named, checks.position, domainChecked_eq_ok.mp checks.entryCursor,
      checks.target, ⟨counts⟩, demand_eq_ok _, checks.tradeIds,
      validateLastCountedCursor_ok.mpr checks.after, checks.created, checks.updated, checks.purge,
      ⟨checks.ordered, checks.purged⟩, checks.error, rfl⟩, strategy, ⟨buyers⟩, demand_eq_ok _,
      checks.minimum, checks.wallets, validatePendingExit_ok.mpr checks.manual,
      validateSessionBoundary_ok.mpr checks.boundary, rfl⟩

/-- A session that the constructor built passes its checks. -/
theorem updateSession_checks (built : updateSession digests candidate next = .ok session) :
    SessionChecks session := by
  have accepted := built
  simp only [updateSession, createCreationEntrySession, validateSessionInput, bind_eq_ok, pure_eq_ok,
    require_eq_ok] at built
  obtain ⟨_, ⟨_, named, _⟩, _, strategy, _, _, _, _, _, _, _, _, _, _, rfl⟩ := built
  have checks := (@updateSession_isOk_iff digests candidate next named strategy).mp ⟨_, accepted⟩
  exact ⟨⟨checks.position, checks.entryCursor, checks.target, checks.tradeIds, checks.created,
    checks.updated, checks.purge, checks.error, checks.minimum, checks.wallets, checks.boundary⟩,
    checks.ordered, checks.purged, checks.after, checks.manual⟩

/-! ## Counting a buy -/

/-- What a counted buy must meet for the session to pass the checks. -/
structure BuyFits (session : PaperStrategySessionV2) (observedAtMs : Int) (cursor : ChainCursor) :
    Prop where
  created : session.createdAtMs ≤ observedAtMs
  purge : observedAtMs < session.purgeAfterMs
  after : compareCursors cursor session.entryCursor = .ok .gt

variable {values : List String}

theorem texts_eq_ok {field : String} :
    texts field values = .ok () ↔ ∀ value ∈ values, text value field = .ok () := by
  induction values with
  | nil => simp [texts]
  | cons value rest ih =>
    simp only [texts, bind_eq_ok, Unique.exists_iff, List.forall_mem_cons, ← ih]

theorem texts_append {field value : String} (checked : texts field values = .ok ())
    (last : text value field = .ok ()) :
    texts field (values ++ [value]) = .ok () := by
  rw [texts_eq_ok] at checked ⊢
  intro any member
  rcases List.mem_append.mp member with earlier | new
  · exact checked any earlier
  · rwa [List.mem_singleton.mp new]

variable {buy : ExternalBuyInput}

theorem countedSession_lasting
    (fresh : ¬ (buy.tradeId ∈ session.countedTradeIds ∨ buy.trader ∈ session.countedBuyerWallets ∨
      session.externalBuyCount = session.externalBuyTarget)) (lasting : Lasting session)
    (accepted : AcceptedBuy session buy) :
    Lasting (countedSession digests session buy fresh) := by
  obtain ⟨tradeId, trader, observed, boundary, found, inside⟩ := accepted
  refine ⟨lasting.position, lasting.entryCursor, lasting.target, texts_append lasting.tradeIds tradeId,
    lasting.created, observed, lasting.purge, rfl, lasting.minimum,
    texts_append lasting.wallets trader, ?_⟩
  intro other isOther
  obtain rfl := Option.some.inj (found.symm.trans isOther)
  refine ⟨(lasting.boundary boundary found).1, ?_⟩
  intro cursor isLast
  rwa [← Option.some.inj isLast]

/-- The buy is counted: its trade and its wallet are new, and the target is not reached. -/
def Counts (session : PaperStrategySessionV2) (buy : ExternalBuyInput) : Prop :=
  buy.tradeId ∉ session.countedTradeIds ∧ buy.trader ∉ session.countedBuyerWallets ∧
    session.externalBuyCount ≠ session.externalBuyTarget

/-- A counted session passes the checks exactly if the buy fits and finds no manual trigger at the target. -/
theorem count_checks_iff {result : CountUniqueExternalBuyResult} (checks : SessionChecks session)
    (counted : countUniqueExternalBuy digests session buy = .ok result) :
    SessionChecks result.session ↔ (Counts session buy → BuyFits session buy.observedAtMs buy.cursor ∧
      (session.externalBuyCount + 1 = session.externalBuyTarget →
        session.pendingExitTriggerAtMs = none)) := by
  rcases countUniqueExternalBuy_ok counted with ⟨known, same, -⟩ | ⟨fresh, _, same, -, -, accepted⟩
  · rw [same]
    refine ⟨fun _ new => ?_, fun _ => checks⟩
    rcases known with trade | wallet | full
    · exact absurd trade new.1
    · exact absurd wallet new.2.1
    · exact absurd full new.2.2
  · rw [same]
    have lasting : Lasting (countedSession digests session buy fresh) :=
      countedSession_lasting fresh checks.toLasting accepted
    rw [not_or, not_or] at fresh
    constructor
    · intro after _
      refine ⟨⟨after.ordered, after.purged, after.after buy.cursor rfl⟩, ?_⟩
      intro target
      rw [Option.eq_none_iff_forall_ne_some]
      intro triggerAtMs trigger
      have manual := (after.manual triggerAtMs trigger).2
      simp [countedSession, target] at manual
    · intro fits
      obtain ⟨⟨created, purge, after⟩, free⟩ := fits fresh
      refine ⟨lasting, created, purge, ?_, ?_⟩
      · intro cursor isLast
        rwa [← Option.some.inj isLast]
      · intro triggerAtMs trigger
        obtain ⟨valid, reason⟩ := checks.manual triggerAtMs trigger
        refine ⟨valid, ?_⟩
        by_cases target : session.externalBuyCount + 1 = session.externalBuyTarget
        · cases (free target).symm.trans trigger
        · simp [countedSession, target, reason]

/-! ## Counting every buy -/

/-- What the loop leaves: the rules of the session, and the last counted buy in its update time and
cursor. -/
structure Tracks (start now : PaperStrategySessionV2) (counted : List CanonicalBuy) : Prop where
  lasting : Lasting now
  entryCursor : now.entryCursor = start.entryCursor
  created : now.createdAtMs = start.createdAtMs
  purge : now.purgeAfterMs = start.purgeAfterMs
  trigger : now.pendingExitTriggerAtMs = start.pendingExitTriggerAtMs
  reason : now.pendingExitReason = none → start.pendingExitReason = none
  last : (counted = [] ∧ now = start) ∨ ∃ buy, counted.getLast? = some buy ∧
    now.updatedAtMs = buy.observedAtMs ∧ now.lastCountedCursor = some buy.cursor

theorem tracks_of_counts {state final : CountState} {buys : List CanonicalBuy}
    (counts : CountsTo digests candidate state buys final) (lasting : Lasting state.session) :
    Tracks state.session final.session buys := by
  induction counts with
  | done => exact ⟨lasting, rfl, rfl, rfl, rfl, id, .inl ⟨rfl, rfl⟩⟩
  | @count state final buy rest evidence fresh accepted later ih =>
    obtain ⟨lastingAfter, entryCursor, created, purge, trigger, reason, last⟩ :=
      ih (countedSession_lasting fresh lasting accepted)
    refine ⟨lastingAfter, entryCursor, created, purge, trigger, ?_, .inr ?_⟩
    · intro none
      have before := reason none
      simp only [countedSession] at before
      split at before
      · cases before
      · exact before
    · rcases last with ⟨rfl, same⟩ | ⟨other, isLast, updated, cursor⟩
      · rw [same]
        exact ⟨buy, rfl, rfl, rfl⟩
      · refine ⟨other, ?_, updated, cursor⟩
        rw [List.getLast?_cons, isLast]
        rfl

/-- The last counted buy, when there is one, fits the session. -/
def LastBuyFits (session : PaperStrategySessionV2) (counted : List CanonicalBuy) : Prop :=
  ∀ buy, counted.getLast? = some buy → BuyFits session buy.observedAtMs buy.cursor

/-- Without a pending exit, the session the loop leaves passes the checks exactly if its last buy fits. -/
theorem Tracks.checks_iff {start now : PaperStrategySessionV2} {counted : List CanonicalBuy}
    (tracks : Tracks start now counted) (checks : SessionChecks start)
    (idle : now.pendingExitReason = none) : SessionChecks now ↔ LastBuyFits start counted := by
  rcases tracks.last with ⟨rfl, rfl⟩ | ⟨buy, isLast, updated, cursor⟩
  · refine ⟨fun _ buy isLast => ?_, fun _ => checks⟩
    rw [List.getLast?_nil] at isLast
    cases isLast
  constructor
  · rintro passed other isOther
    obtain rfl := Option.some.inj (isLast.symm.trans isOther)
    refine ⟨?_, ?_, ?_⟩
    · rw [← updated, ← tracks.created]
      exact passed.ordered
    · rw [← updated, ← tracks.purge]
      exact passed.purged
    · rw [← tracks.entryCursor]
      exact passed.after _ cursor
  · intro fits
    obtain ⟨created, purge, after⟩ := fits buy isLast
    refine ⟨tracks.lasting, by rwa [updated, tracks.created], by rwa [updated, tracks.purge], ?_, ?_⟩
    · intro other isOther
      obtain rfl := Option.some.inj (cursor.symm.trans isOther)
      rwa [tracks.entryCursor]
    · intro triggerAtMs trigger
      rw [tracks.trigger] at trigger
      have reason := (checks.manual triggerAtMs trigger).2
      rw [tracks.reason idle] at reason
      cases reason

/-! ## Reconciliation -/

variable {options : CreationEntryOptions} {quoted : Except QuoteFailure PaperExecutionQuote}
variable {collation : Collation}

section Reconcile

variable {engine : Engine} {env : Environment} {input : ReconcileInput} {ledger after : Ledger}
  {result : CreationEntryStrategyResult} {observed : Observation}

/-- When `reconcile` returns a session that passes the checks: if the position is held, no quote is
usable and no exit is due, then the last buy counted now fits. -/
def ReconcileFits (options : CreationEntryOptions) (collation : Collation) (digests : Digests)
    (input : ReconcileInput) (quoted : Except QuoteFailure PaperExecutionQuote) : Prop :=
  input.position.status ≠ .PAPER_CLOSED → (checkedQuote input quoted).isOk = false →
    options.manualKillSwitch = false → creatorSold input = false →
    carriedReason collation digests input = none →
      LastBuyFits input.session (countedNow input.session (suppliedBuys collation digests input))

/-- No exit is due exactly if nothing in the input asks for one. -/
theorem mandatoryReason_eq_none (facts : Observed collation digests input observed) :
    mandatoryReason options observed = none ↔ options.manualKillSwitch = false ∧
      creatorSold input = false ∧ carriedReason collation digests input = none := by
  have creator : observed.creatorSell = none ↔ creatorSold input = false := by
    rw [← Bool.not_eq_true, ← facts.creator, ne_eq, not_not]
  simp only [mandatoryReason, facts.carried, creator]
  cases options.manualKillSwitch <;> cases creatorSold input <;> simp

/-- Without a usable quote or an exit that is due, a held position keeps the session as counted. -/
theorem reconcile_keeps (keeps : KeepsCounted options input quoted observed)
    (seen : observe options collation digests input = .ok observed)
    (returned : reconcile options collation digests engine env input quoted ledger = (.ok result, after)) :
    result.session = observed.session := by
  obtain ⟨held, unquoted, idle⟩ := keeps
  cases priced : checkedQuote input quoted with
  | ok sellQuote =>
    rw [priced] at unquoted
    cases unquoted
  | error failure =>
    obtain ⟨checked, -⟩ := reconcile_ok returned
    unfold reconcile decideReconcile at returned
    simp only [checked, seen, held, ↓reduceIte, decideHolding, priced, quoteUnavailable, idle, bind,
      Except.bind] at returned
    split at returned
    · cases returned
    · next settled built =>
      split at built <;> cases built
      rename_i reported
      rw [← Except.ok.inj (Prod.mk.inj returned).1]
      exact (strategyResult_ok reported).1
    · next plan built =>
      split at built <;> cases built

theorem reconcile_checks_iff (checks : SessionChecks input.session)
    (returned : reconcile options collation digests engine env input quoted ledger = (.ok result, after)) :
    SessionChecks result.session ↔ ReconcileFits options collation digests input quoted := by
  obtain ⟨observed, seen, reports⟩ := reconcile_reports (congrArg Prod.fst returned)
  have facts := observe_ok seen
  have due := @mandatoryReason_eq_none digests options collation input observed facts
  by_cases keeps : KeepsCounted options input quoted observed
  · obtain ⟨running, unsold, empty⟩ := due.mp keeps.idle
    obtain ⟨state, -, counts, same, -⟩ := observe_counts seen
    have idle : state.session.pendingExitReason = none := by rw [← same, facts.carried, empty]
    rw [reconcile_keeps keeps seen returned, same,
      (tracks_of_counts counts checks.toLasting).checks_iff checks idle]
    exact ⟨fun fits _ _ _ _ _ => fits, fun fits => fits keeps.held keeps.unquoted running unsold empty⟩
  · obtain ⟨next, built⟩ := reports.origin.resolve_right fun kept => keeps kept.1
    refine ⟨fun _ held unquoted running unsold empty => ?_, fun _ => updateSession_checks built⟩
    exact absurd ⟨held, unquoted, due.mpr ⟨running, unsold, empty⟩⟩ keeps

theorem saved_checks {counted : List PaperExternalBuyEvidenceV2} {position : PaperPosition}
    {trigger : DomainEvent} {action : RequestedAction}
    (saved : (do
      let session ← updateSession digests candidate next
      strategyResult digests session counted position trigger action) = .ok result) :
    SessionChecks result.session := by
  simp only [bind_eq_ok] at saved
  obtain ⟨session, built, returned⟩ := saved
  rw [(strategyResult_ok returned).1]
  exact updateSession_checks built

end Reconcile

section Evidence

variable {engine : Engine} {env : Environment} {input : EvidenceInput} {ledger after : Ledger}
  {result : CreationEntryStrategyResult}

theorem reconcileEvidence_checks_iff
    (returned : reconcileEvidence options collation digests engine env input quoted ledger =
      (.ok result, after)) :
    SessionChecks result.session ↔ ∀ baseline, evidenceBaseline digests input = .ok baseline →
      input.position.status = .PAPER_HOLDING →
        ReconcileFits options collation digests (evidenceCall input baseline) quoted := by
  unfold reconcileEvidence at returned
  split at returned
  · cases returned
  split at returned
  · cases returned
  next baseline built =>
  have checks : SessionChecks (evidenceCall input baseline).session := updateSession_checks built
  split at returned
  case isTrue held =>
    rw [reconcile_checks_iff checks returned]
    constructor
    · intro fits other builtOther _
      obtain rfl := Except.ok.inj (built.symm.trans builtOther)
      exact fits
    · intro fits
      exact fits baseline built held
  case isFalse other =>
    refine ⟨fun _ _ _ held => absurd held other, fun _ => ?_⟩
    split at returned
    · cases returned
    split at returned
    · have closed := congrArg Prod.fst returned
      simp only [evidenceClosed] at closed
      split at closed
      · exact saved_checks closed
      · cases closed
    · split at returned
      · cases returned
      · have retracted := congrArg Prod.fst returned
        simp only [evidenceRetracted] at retracted
        split at retracted
        · exact saved_checks retracted
        · cases retracted

end Evidence

/-- A session returned by counting, by reconciliation or by evidence reconciliation passes the
constructor's checks exactly if it was built again or the last counted buy fits it. -/
theorem returned_session_checks_iff (digests : Digests) :
    (∀ session buy result, SessionChecks session →
      countUniqueExternalBuy digests session buy = .ok result →
        (SessionChecks result.session ↔ (Counts session buy →
          BuyFits session buy.observedAtMs buy.cursor ∧
            (session.externalBuyCount + 1 = session.externalBuyTarget →
              session.pendingExitTriggerAtMs = none)))) ∧
    (∀ options collation engine env input quoted ledger result after,
      SessionChecks input.session →
      reconcile options collation digests engine env input quoted ledger = (.ok result, after) →
        (SessionChecks result.session ↔ ReconcileFits options collation digests input quoted)) ∧
    ∀ options collation engine env input quoted ledger result after,
      SessionChecks input.session →
      reconcileEvidence options collation digests engine env input quoted ledger = (.ok result, after) →
        (SessionChecks result.session ↔ ∀ baseline, evidenceBaseline digests input = .ok baseline →
          input.position.status = .PAPER_HOLDING →
            ReconcileFits options collation digests (evidenceCall input baseline) quoted) := by
  refine ⟨?_, ?_, ?_⟩
  · intro session buy result checks counted
    exact count_checks_iff checks counted
  · intro options collation engine env input quoted ledger result after checks returned
    exact reconcile_checks_iff checks returned
  · intro options collation engine env input quoted ledger result after _ returned
    exact reconcileEvidence_checks_iff returned

section Samples

theorem sampleSession_checks : SessionChecks sampleSession :=
  (@updateSession_isOk_iff sampleDigests sampleCandidate sampleSession (by decide) rfl).mp
    (exists_of_isOk (by decide +kernel))

/-- A buy in the slot after the entry boundary, observed at this time. -/
def sampleBuy (observedAtMs : Int) : ExternalBuyInput where
  tradeId := "t1"
  mint := "mint"
  quoteMint := "quote"
  trader := "w1"
  quoteAmountRaw := 10
  cursor := ⟨12, 0, 0, none⟩
  confirmationStatus := .confirmed
  observedAtMs := observedAtMs

theorem returned_session_checks_sample :
    ∃ result, countUniqueExternalBuy sampleDigests sampleSession (sampleBuy 3000) = .ok result ∧
      SessionChecks result.session := by
  obtain ⟨result, counted⟩ := exists_of_isOk (by decide +kernel :
    (countUniqueExternalBuy sampleDigests sampleSession (sampleBuy 3000)).isOk = true)
  refine ⟨result, counted, ((returned_session_checks_iff sampleDigests).1 _ _ _ sampleSession_checks counted).mpr ?_⟩
  intro _
  exact ⟨⟨by decide, by decide, rfl⟩, fun _ => rfl⟩

/-- A held position whose quote fails, and a buy that was observed before the session was created: the
returned session was updated before its creation. -/
theorem updated_before_creation :
    SessionChecks sampleSession ∧
      ∃ result, runCall sampleSetting sampleSession (sampleCall
          [{ sampleTrade "t1" "w1" 12 with observedAtMs := 1000 }] (.error .other)) = .ok result ∧
        result.session.updatedAtMs < result.session.createdAtMs := by
  refine ⟨sampleSession_checks, ?_⟩
  have early : (runCall sampleSetting sampleSession (sampleCall
      [{ sampleTrade "t1" "w1" 12 with observedAtMs := 1000 }] (.error .other))).map
        (fun result => decide (result.session.updatedAtMs < result.session.createdAtMs)) =
      .ok true := by decide +kernel
  revert early
  generalize runCall _ _ _ = returned
  intro early
  cases returned with
  | error error => cases early
  | ok result => exact ⟨result, rfl, of_decide_eq_true (Except.ok.inj early)⟩

end Samples

end SolTokenListener.Guarantees.SessionInvariant
