import Mathlib.Data.Int.ConditionallyCompleteOrder
import Mathlib.Data.Prod.Lex
import Mathlib.Data.String.Basic
import Mathlib.Tactic.Positivity
import SolTokenListener.Source.FastExit

/-!
# The early exit is its rule over the set of trades

The decision folds over an unsorted list with a running latest trade and a list of wallets. On
well-formed trades with distinct event ids it is one rule over the set of trades: the order of the
list does not matter, the latest trade is the last in the cursor order, and prices compare as exact
rationals. A list with more than `MAXIMUM_TRADES` trades is dropped, and a position without cost takes
no profit; the rule is stated up to these.
-/

namespace SolTokenListener.Guarantees.FastExitRule

open Lib.Checked Lib.Utf16Text Source.FastExit

/-! ## The rule -/

/-- The order of trades on chain; event ids only separate trades at one position. -/
def cursorKey (trade : FastExitTrade) : ℤ ×ₗ ℤ ×ₗ ℤ ×ₗ ℤ ×ₗ List ℕ :=
  toLex (trade.slot, toLex (trade.transactionIndex, toLex (trade.instructionIndex,
    toLex (trade.innerInstructionIndex.getD (-1), units trade.eventId))))

def IsCreatorSell (facts : FastExitFacts) (trade : FastExitTrade) : Prop :=
  trade.kind = .sell ∧ trade.trader.isSome ∧ trade.trader = facts.creator

/-- A trade of others that gives a price. -/
def GivesPrice (facts : FastExitFacts) (trade : FastExitTrade) : Prop :=
  trade.trader ≠ some facts.walletPublicKey ∧ 0 < trade.baseAmountRaw

/-- The cursor-latest trade of others values what remains at the take-profit multiple of its cost. -/
def TakesProfit (facts : FastExitFacts) (policy : FastExitPolicy) (trades : Finset FastExitTrade) :
    Prop :=
  0 < facts.quoteCostRaw ∧ ∃ last ∈ trades, GivesPrice facts last ∧
    (∀ trade ∈ trades, GivesPrice facts trade → cursorKey trade ≤ cursorKey last) ∧
    (facts.quoteCostRaw : ℚ) * policy.takeProfitBps / 10000 ≤
      (facts.remainingBaseRaw : ℚ) * last.quoteAmountRaw / last.baseAmountRaw

def IsExternalBuy (facts : FastExitFacts) (policy : FastExitPolicy) (trade : FastExitTrade) : Prop :=
  trade.kind = .buy ∧ trade.trader ≠ facts.creator ∧ trade.trader ≠ some facts.walletPublicKey ∧
    policy.externalMinimumBuyRaw ≤ trade.quoteAmountRaw

instance {facts : FastExitFacts} {policy : FastExitPolicy} {trade : FastExitTrade} :
    Decidable (IsExternalBuy facts policy trade) := inferInstanceAs (Decidable (_ ∧ _ ∧ _ ∧ _))

def externalBuyers (facts : FastExitFacts) (policy : FastExitPolicy) (trades : Finset FastExitTrade) :
    Finset String :=
  (trades.filter (IsExternalBuy facts policy)).biUnion fun trade => trade.trader.toFinset

open Classical in
/-- The first true rule decides. -/
noncomputable def fastExitRule (facts : FastExitFacts) (policy : FastExitPolicy)
    (trades : Finset FastExitTrade) : Option FastExitReason :=
  if facts.envelopeState = "REVOKED" then some .envelopeRevoked
  else if ∃ trade ∈ trades, IsCreatorSell facts trade then some .creatorSold
  else if TakesProfit facts policy trades then some .takeProfit
  else if policy.externalBuyersTarget ≤ (externalBuyers facts policy trades).card then
    some .externalBuyers
  else none

/-! ## Well-formed input -/

structure WellFormed (facts : FastExitFacts) (policy : FastExitPolicy) : Prop where
  policy : (policyFrom policy).isOk = true
  state : facts.envelopeState ∈ ENVELOPE_STATES
  wallet : isCanonicalSolanaPublicKey facts.walletPublicKey = true
  remaining : 0 ≤ facts.remainingBaseRaw ∧ facts.remainingBaseRaw ≤ U64_MAX
  cost : 0 ≤ facts.quoteCostRaw ∧ facts.quoteCostRaw ≤ U64_MAX

structure WellFormedTrades (trades : List FastExitTrade) : Prop where
  each : ∀ trade ∈ trades, (tradeFrom trade).isOk = true
  distinct : (trades.map (·.eventId)).Nodup
  few : trades.length ≤ MAXIMUM_TRADES

def withTrades (facts : FastExitFacts) (trades : List FastExitTrade) : FastExitFacts :=
  { facts with trades := some trades }

variable {facts : FastExitFacts} {policy : FastExitPolicy} {trades : List FastExitTrade}

section Checks

variable {trade : FastExitTrade}

theorem publicKey_eq_ok {value key : String} :
    publicKey value = .ok key ↔ isCanonicalSolanaPublicKey value = true ∧ value = key := by
  simp only [publicKey, bind_eq_ok, require_eq_ok, pure_eq_ok, exists_and_left, exists_const]

theorem amount_eq_ok {value result : Int} :
    amount value = .ok result ↔ (0 ≤ value ∧ value ≤ U64_MAX) ∧ value = result := by
  simp only [amount, bind_eq_ok, require_eq_ok, pure_eq_ok, exists_and_left, exists_const]

theorem index_same {value result : Int} (ok : index value = .ok result) : value = result := by
  simp only [index, bind_eq_ok, require_eq_ok, pure_eq_ok] at ok
  exact ok.choose_spec.2

theorem policyFrom_same {rules : FastExitPolicy} (ok : policyFrom policy = .ok rules) :
    rules = policy := by
  simp only [policyFrom, bind_eq_ok, require_eq_ok, pure_eq_ok] at ok
  obtain ⟨-, -, -, -, minimumBuy, readMinimum, -, -, rfl⟩ := ok
  rw [← (amount_eq_ok.mp readMinimum).2]

theorem tradeFrom_same {result : FastExitTrade} (ok : tradeFrom trade = .ok result) :
    result = trade := by
  simp only [tradeFrom, bind_eq_ok, require_eq_ok, pure_eq_ok] at ok
  obtain ⟨-, -, trader, readTrader, base, readBase, quote, readQuote, slot, readSlot,
    transactionIndex, readTransaction, instructionIndex, readInstruction, inner, readInner, rfl⟩ := ok
  rw [mapM_same (fun _ _ ok => (publicKey_eq_ok.mp ok).2.symm) readTrader, ← (amount_eq_ok.mp readBase).2,
    ← (amount_eq_ok.mp readQuote).2, ← (amount_eq_ok.mp readSlot).2, ← index_same readTransaction,
    ← index_same readInstruction, mapM_same (fun _ _ ok => (index_same ok).symm) readInner]

theorem tradeFrom_eq_ok (isOk : (tradeFrom trade).isOk = true) : tradeFrom trade = .ok trade := by
  obtain ⟨result, checked⟩ := exists_of_isOk isOk
  rw [checked, tradeFrom_same checked]

theorem trader_canonical {trader : String} (isOk : (tradeFrom trade).isOk = true)
    (isTrader : trade.trader = some trader) : isCanonicalSolanaPublicKey trader = true := by
  have ok := tradeFrom_eq_ok isOk
  simp only [tradeFrom, isTrader, bind_eq_ok] at ok
  obtain ⟨-, -, key, readKey, -⟩ := ok
  obtain ⟨checked, isChecked, -⟩ := bind_eq_ok.mp
    (show (publicKey trader >>= fun checked => pure (some checked)) = .ok key from readKey)
  exact (publicKey_eq_ok.mp isChecked).1

theorem tradesFrom_eq_ok (wellFormed : WellFormedTrades trades) :
    tradesFrom trades = .ok trades := by
  have each : ∀ list : List FastExitTrade, (∀ trade ∈ list, (tradeFrom trade).isOk = true) →
      list.mapM tradeFrom = .ok list := by
    intro list
    induction list with
    | nil => exact fun _ => rfl
    | cons trade rest ih =>
      intro isOk
      obtain ⟨first, others⟩ := List.forall_mem_cons.mp isOk
      rw [List.mapM_cons, tradeFrom_eq_ok first, ih others]
      rfl
  unfold tradesFrom
  rw [require, if_pos wellFormed.few, each trades wellFormed.each]
  rfl

/-- The creator as the decision knows it. -/
def knownCreator (facts : FastExitFacts) : Option String :=
  facts.creator.bind fun creator => (publicKey creator).toOption

theorem knownCreator_eq_some {trader : String} (canonical : isCanonicalSolanaPublicKey trader = true) :
    knownCreator facts = some trader ↔ facts.creator = some trader := by
  unfold knownCreator
  cases facts.creator with
  | none => simp
  | some creator =>
    rw [Option.bind_some, Option.some.injEq]
    cases checked : publicKey creator with
    | error fault =>
      refine iff_of_false nofun ?_
      rintro rfl
      rw [publicKey_eq_ok.mpr ⟨canonical, rfl⟩] at checked
      cases checked
    | ok key =>
      rw [(publicKey_eq_ok.mp checked).2]
      exact ⟨fun same => Option.some.inj same, fun same => congrArg some same⟩

theorem factsFrom_withTrades (wellFormed : WellFormed facts policy) (trades : List FastExitTrade) :
    factsFrom (withTrades facts trades) = .ok { facts with
      creator := knownCreator facts, trades := (tradesFrom trades).toOption } := by
  unfold factsFrom withTrades
  simp only [publicKey_eq_ok.mpr ⟨wellFormed.wallet, rfl⟩, amount_eq_ok.mpr ⟨wellFormed.remaining, rfl⟩,
    amount_eq_ok.mpr ⟨wellFormed.cost, rfl⟩]
  rfl

end Checks

/-! ## The folds -/

section Folds

theorem compareCursor_pos (left right : FastExitTrade) :
    0 < compareCursor left right ↔ cursorKey right < cursorKey left := by
  have ids : before right.eventId left.eventId = true ↔ units right.eventId < units left.eventId :=
    decide_eq_true_iff
  unfold compareCursor cursorKey
  simp only [Prod.Lex.toLex_lt_toLex]
  split
  · split <;> omega
  next slots =>
  split
  · omega
  next transactions =>
  split
  · omega
  next instructions =>
  split
  · omega
  next inners =>
  -- At one position on chain only the event ids are left.
  rw [not_not] at slots transactions instructions inners
  simp only [slots, transactions, instructions, inners, lt_irrefl, true_and, false_or]
  split
  · next same => simp [same]
  split
  · next isBefore => exact iff_of_true Int.one_pos (ids.mp isBefore)
  · next notBefore => exact iff_of_false (by decide) (mt ids.mpr notBefore)

instance {trade : FastExitTrade} : Decidable (GivesPrice facts trade) :=
  inferInstanceAs (Decidable (_ ∧ _))

/-- The loop keeps what `argmax` keeps. -/
theorem keepLatest_argmax : trades.foldl (keepLatest facts.walletPublicKey) none =
    (trades.filter (GivesPrice facts ·)).argmax cursorKey := by
  unfold List.argmax
  generalize (none : Option FastExitTrade) = last
  induction trades generalizing last with
  | nil => rfl
  | cons trade rest ih =>
    rw [List.foldl_cons, ih]
    by_cases price : GivesPrice facts trade
    · rw [List.filter_cons, if_pos (decide_eq_true price), List.foldl_cons]
      have skip : ¬ (trade.trader = some facts.walletPublicKey ∨ trade.baseAmountRaw ≤ 0) := by
        rintro (own | empty)
        · exact price.1 own
        · exact absurd price.2 (not_lt.mpr empty)
      unfold keepLatest
      rw [if_neg skip]
      cases last with
      | none => rfl
      | some kept =>
        dsimp only [List.argAux]
        simp only [gt_iff_lt, compareCursor_pos]
    · have skip : trade.trader = some facts.walletPublicKey ∨ trade.baseAmountRaw ≤ 0 := by
        by_contra neither
        exact price ⟨fun own => neither (.inl own), not_le.mp fun empty => neither (.inr empty)⟩
      rw [List.filter_cons, if_neg (by simpa using price)]
      unfold keepLatest
      rw [if_pos skip]

theorem cursorKey_inj {first second : FastExitTrade} (distinct : (trades.map (·.eventId)).Nodup)
    (isFirst : first ∈ trades) (isSecond : second ∈ trades)
    (same : cursorKey first = cursorKey second) : first = second := by
  have ids : units first.eventId = units second.eventId :=
    congrArg (fun key => (ofLex (ofLex (ofLex (ofLex key).2).2).2).2) same
  exact List.inj_on_of_nodup_map distinct isFirst isSecond (units_injective ids)

/-- The test without division is the comparison of the two rationals. -/
theorem profit_iff {cost bps remaining quote base : Int} (positive : 0 < base) :
    cost * bps * base ≤ remaining * quote * BPS_DENOMINATOR ↔
      (cost : ℚ) * bps / 10000 ≤ (remaining : ℚ) * quote / base := by
  have positive : (0 : ℚ) < base := by exact_mod_cast positive
  rw [div_le_div_iff₀ (by norm_num) positive]
  unfold BPS_DENOMINATOR
  exact_mod_cast Iff.rfl

theorem takesProfit_iff (distinct : (trades.map (·.eventId)).Nodup) (creator : Option String)
    (known : Option (List FastExitTrade)) :
    takesProfit { facts with creator := creator, trades := known } policy trades = true ↔
      TakesProfit facts policy trades.toFinset := by
  unfold takesProfit TakesProfit
  rw [decide_eq_true_iff]
  refine and_congr_right fun _ => ?_
  dsimp only
  rw [keepLatest_argmax, Option.any_eq_true]
  simp only [List.mem_toFinset, decide_eq_true_eq]
  constructor
  · rintro ⟨last, isLast, profit⟩
    obtain ⟨member, price⟩ := List.mem_filter.mp (List.argmax_mem isLast)
    have price : GivesPrice facts last := of_decide_eq_true price
    refine ⟨last, member, price, fun trade isTrade gives => ?_, (profit_iff price.2).mp profit⟩
    exact List.le_of_mem_argmax (List.mem_filter.mpr ⟨isTrade, decide_eq_true gives⟩) isLast
  · rintro ⟨last, member, price, latest, profit⟩
    have quoted : last ∈ trades.filter (GivesPrice facts ·) :=
      List.mem_filter.mpr ⟨member, decide_eq_true price⟩
    cases found : (trades.filter (GivesPrice facts ·)).argmax cursorKey with
    | none =>
      rw [List.argmax_eq_none.mp found] at quoted
      cases quoted
    | some kept =>
      obtain ⟨isKept, gives⟩ := List.mem_filter.mp (List.argmax_mem found)
      have same : kept = last := cursorKey_inj distinct isKept member
        (le_antisymm (latest kept isKept (of_decide_eq_true gives))
          (List.le_of_mem_argmax quoted found))
      rw [same]
      exact ⟨last, rfl, (profit_iff price.2).mpr profit⟩

theorem addBuyer_spec (input : FastExitFacts) (policy : FastExitPolicy) (trades : List FastExitTrade)
    {buyers : List String} (nodup : buyers.Nodup) :
    (trades.foldl (addBuyer input policy) buyers).Nodup ∧
      ∀ wallet, wallet ∈ trades.foldl (addBuyer input policy) buyers ↔ wallet ∈ buyers ∨
        ∃ trade ∈ trades, IsExternalBuy input policy trade ∧ trade.trader = some wallet := by
  induction trades generalizing buyers with
  | nil => simpa using nodup
  | cons trade rest ih =>
    have added : (addBuyer input policy buyers trade).Nodup ∧
        ∀ wallet, wallet ∈ addBuyer input policy buyers trade ↔ wallet ∈ buyers ∨
          (IsExternalBuy input policy trade ∧ trade.trader = some wallet) := by
      unfold addBuyer IsExternalBuy
      cases isTrader : trade.trader with
      | none => simpa using nodup
      | some trader =>
        dsimp only
        split
        · next skip =>
            refine ⟨nodup, fun wallet => (or_iff_left ?_).symm⟩
            rintro ⟨⟨buys, notCreator, notOwn, enough⟩, -⟩
            rcases skip with notBuy | isCreator | isOwn | small
            · exact notBuy buys
            · exact notCreator isCreator
            · exact notOwn (congrArg some isOwn)
            · omega
        · next keep =>
            simp only [not_or, not_not, not_lt] at keep
            obtain ⟨buys, notCreator, notOwn, enough⟩ := keep
            refine ⟨nodup.insert, fun wallet => ?_⟩
            rw [List.mem_insert_iff, or_comm]
            refine or_congr_right ⟨?_, ?_⟩
            · rintro rfl
              exact ⟨⟨buys, notCreator, fun own => notOwn (Option.some.inj own), enough⟩, rfl⟩
            · rintro ⟨-, same⟩
              exact (Option.some.inj same).symm
    obtain ⟨restNodup, restMem⟩ := ih added.1
    refine ⟨restNodup, fun wallet => ?_⟩
    rw [List.foldl_cons, restMem, added.2]
    simp only [List.mem_cons, exists_eq_or_imp, or_assoc]

theorem buyers_card {input : FastExitFacts}
    (external : ∀ trade ∈ trades, trade.trader.isSome →
      (IsExternalBuy input policy trade ↔ IsExternalBuy facts policy trade)) :
    (trades.foldl (addBuyer input policy) []).length =
      (externalBuyers facts policy trades.toFinset).card := by
  obtain ⟨nodup, members⟩ := addBuyer_spec input policy trades List.nodup_nil
  rw [← List.toFinset_card_of_nodup nodup]
  congr 1
  ext wallet
  rw [List.mem_toFinset, members, externalBuyers, Finset.mem_biUnion]
  simp only [List.not_mem_nil, false_or, Finset.mem_filter, List.mem_toFinset, Option.mem_toFinset,
    Option.mem_def]
  constructor
  · rintro ⟨trade, member, buys, isTrader⟩
    exact ⟨trade, ⟨member, (external trade member (by rw [isTrader]; rfl)).mp buys⟩, isTrader⟩
  · rintro ⟨trade, ⟨member, buys⟩, isTrader⟩
    exact ⟨trade, member, (external trade member (by rw [isTrader]; rfl)).mpr buys, isTrader⟩

end Folds

/-! ## The decision -/

section Decision

variable {more : List FastExitTrade}

/-- The facts as the decision reads them. -/
def readFacts (facts : FastExitFacts) (trades : List FastExitTrade) : FastExitFacts :=
  { facts with creator := knownCreator facts, trades := some trades }

theorem creatorSold_iff (wellFormed : WellFormedTrades trades) :
    creatorSold (readFacts facts trades) trades = true ↔
      ∃ trade ∈ trades.toFinset, IsCreatorSell facts trade := by
  have known : ∀ trade ∈ trades, trade.trader.isSome →
      (trade.trader = knownCreator facts ↔ trade.trader = facts.creator) := by
    intro trade member hasTrader
    obtain ⟨trader, isTrader⟩ := Option.isSome_iff_exists.mp hasTrader
    rw [isTrader, eq_comm, knownCreator_eq_some (trader_canonical (wellFormed.each trade member) isTrader),
      eq_comm]
  unfold creatorSold IsCreatorSell readFacts
  simp only [decide_eq_true_eq, List.any_eq_true, List.mem_toFinset]
  constructor
  · rintro ⟨hasCreator, trade, member, sells, isCreator⟩
    have hasTrader : trade.trader.isSome = true := by rw [isCreator]; exact hasCreator
    exact ⟨trade, member, sells, hasTrader, (known trade member hasTrader).mp isCreator⟩
  · rintro ⟨trade, member, sells, hasTrader, isCreator⟩
    have same := (known trade member hasTrader).mpr isCreator
    exact ⟨same ▸ hasTrader, trade, member, sells, same⟩

theorem externalBuy_read (wellFormed : WellFormedTrades trades) :
    ∀ trade ∈ trades, trade.trader.isSome →
      (IsExternalBuy (readFacts facts trades) policy trade ↔ IsExternalBuy facts policy trade) := by
  intro trade member hasTrader
  obtain ⟨trader, isTrader⟩ := Option.isSome_iff_exists.mp hasTrader
  have canonical := trader_canonical (wellFormed.each trade member) isTrader
  have creator : trade.trader ≠ knownCreator facts ↔ trade.trader ≠ facts.creator := by
    rw [isTrader, ne_comm, ne_eq, knownCreator_eq_some canonical, ← ne_eq, ne_comm]
  unfold IsExternalBuy readFacts
  rw [creator]

/-- The decision on trades that were read. -/
def decideOn (input : FastExitFacts) (rules : FastExitPolicy) (trades : List FastExitTrade) :
    Option FastExitReason :=
  if creatorSold input trades then some .creatorSold
  else if takesProfit input rules trades then some .takeProfit
  else if rules.externalBuyersTarget ≤ (trades.foldl (addBuyer input rules) []).length then
    some .externalBuyers
  else none

theorem decideFastExit_revoked (wellFormed : WellFormed facts policy)
    (revoked : facts.envelopeState = "REVOKED") :
    decideFastExit (withTrades facts trades) policy = .ok (some .envelopeRevoked) := by
  obtain ⟨rules, isRules⟩ := exists_of_isOk wellFormed.policy
  have state : (withTrades facts trades).envelopeState ∈ ENVELOPE_STATES := wellFormed.state
  have isRevoked : (withTrades facts trades).envelopeState = "REVOKED" := revoked
  refine bind_eq_ok.mpr ⟨rules, isRules, bind_eq_ok.mpr ⟨(), require_eq_ok.mpr state, ?_⟩⟩
  rw [if_pos isRevoked]
  rfl

/-- The decision reads the trades, or holds when it cannot. -/
theorem decideFastExit_read (wellFormed : WellFormed facts policy)
    (notRevoked : facts.envelopeState ≠ "REVOKED") :
    decideFastExit (withTrades facts trades) policy =
      .ok ((tradesFrom trades).toOption.bind fun read => decideOn (readFacts facts read) policy read) := by
  obtain ⟨rules, isRules⟩ := exists_of_isOk wellFormed.policy
  cases policyFrom_same isRules
  have state : (withTrades facts trades).envelopeState ∈ ENVELOPE_STATES := wellFormed.state
  have running : (withTrades facts trades).envelopeState ≠ "REVOKED" := notRevoked
  refine bind_eq_ok.mpr ⟨policy, isRules, bind_eq_ok.mpr ⟨(), require_eq_ok.mpr state, ?_⟩⟩
  rw [if_neg running, factsFrom_withTrades wellFormed]
  cases (tradesFrom trades).toOption with
  | none => rfl
  | some read =>
    change (if creatorSold (readFacts facts read) read then pure (some FastExitReason.creatorSold)
      else if takesProfit (readFacts facts read) policy read then pure (some .takeProfit)
      else if policy.externalBuyersTarget ≤
          (read.foldl (addBuyer (readFacts facts read) policy) []).length then
        pure (some .externalBuyers)
      else pure none) = Except.ok (decideOn (readFacts facts read) policy read)
    unfold decideOn
    split
    · rfl
    split
    · rfl
    split <;> rfl

theorem decideFastExit_eq (wellFormed : WellFormed facts policy) (list : WellFormedTrades trades) :
    decideFastExit (withTrades facts trades) policy =
      .ok (fastExitRule facts policy trades.toFinset) := by
  by_cases revoked : facts.envelopeState = "REVOKED"
  · rw [decideFastExit_revoked wellFormed revoked, fastExitRule, if_pos revoked]
  · rw [decideFastExit_read wellFormed revoked, tradesFrom_eq_ok list, fastExitRule, if_neg revoked]
    refine congrArg Except.ok ?_
    change decideOn (readFacts facts trades) policy trades = _
    unfold decideOn
    rw [buyers_card (externalBuy_read list)]
    by_cases sold : ∃ trade ∈ trades.toFinset, IsCreatorSell facts trade
    · rw [if_pos sold, if_pos ((creatorSold_iff list).mpr sold)]
    rw [if_neg sold, if_neg (mt (creatorSold_iff list).mp sold)]
    have profit : takesProfit (readFacts facts trades) policy trades = true ↔
        TakesProfit facts policy trades.toFinset :=
      takesProfit_iff list.distinct (knownCreator facts) (some trades)
    by_cases takes : TakesProfit facts policy trades.toFinset
    · rw [if_pos takes, if_pos (profit.mpr takes)]
    · rw [if_neg takes, if_neg (mt profit.mp takes)]

/-- The rule of well-formed trades depends on their set, and an exit for the creator's sale or for
external buyers is not withdrawn when trades are added. -/
theorem fastExitRule_mono (facts : FastExitFacts) (policy : FastExitPolicy)
    {fewer other : Finset FastExitTrade} (subset : fewer ⊆ other) :
    (fastExitRule facts policy fewer = some .creatorSold →
      fastExitRule facts policy other = some .creatorSold) ∧
    (fastExitRule facts policy fewer = some .externalBuyers →
      fastExitRule facts policy other ≠ none) := by
  by_cases revoked : facts.envelopeState = "REVOKED"
  · simp [fastExitRule, revoked]
  constructor
  · intro sold
    have seller : ∃ trade ∈ fewer, IsCreatorSell facts trade := by
      by_contra noSeller
      rw [fastExitRule, if_neg revoked, if_neg noSeller] at sold
      split at sold
      · cases sold
      · split at sold <;> cases sold
    obtain ⟨trade, member, sells⟩ := seller
    rw [fastExitRule, if_neg revoked, if_pos ⟨trade, subset member, sells⟩]
  · intro bought
    have enough : policy.externalBuyersTarget ≤ (externalBuyers facts policy fewer).card := by
      by_contra few
      rw [fastExitRule, if_neg revoked, if_neg few] at bought
      split at bought
      · cases bought
      · split at bought <;> cases bought
    have grows : (externalBuyers facts policy fewer).card ≤ (externalBuyers facts policy other).card :=
      Finset.card_le_card (Finset.biUnion_subset_biUnion_of_subset_left _
        (Finset.filter_subset_filter _ subset))
    have still : policy.externalBuyersTarget ≤ (externalBuyers facts policy other).card := by omega
    rw [fastExitRule, if_neg revoked, if_pos still]
    split
    · nofun
    · split <;> nofun

/-- The decision is the rule over the set of trades, whatever their order, and it keeps an exit for
the creator's sale or for external buyers when trades are added. -/
theorem decideFastExit_reference (wellFormed : WellFormed facts policy) (list : WellFormedTrades trades) :
    decideFastExit (withTrades facts trades) policy =
      .ok (fastExitRule facts policy trades.toFinset) ∧
    (∀ shuffled : List FastExitTrade, shuffled.Perm trades →
      decideFastExit (withTrades facts shuffled) policy =
        decideFastExit (withTrades facts trades) policy) ∧
    ∀ more, WellFormedTrades more → trades ⊆ more →
      (decideFastExit (withTrades facts trades) policy = .ok (some .creatorSold) →
        decideFastExit (withTrades facts more) policy = .ok (some .creatorSold)) ∧
      (decideFastExit (withTrades facts trades) policy = .ok (some .externalBuyers) →
        decideFastExit (withTrades facts more) policy ≠ .ok none) := by
  refine ⟨decideFastExit_eq wellFormed list, ?_, ?_⟩
  · intro shuffled perm
    have shuffledList : WellFormedTrades shuffled :=
      ⟨fun trade member => list.each trade (perm.mem_iff.mp member),
        (perm.map _).nodup_iff.mpr list.distinct, perm.length_eq ▸ list.few⟩
    rw [decideFastExit_eq wellFormed list, decideFastExit_eq wellFormed shuffledList,
      List.toFinset_eq_of_perm _ _ perm]
  · intro more moreList subset
    have grows : trades.toFinset ⊆ more.toFinset := fun trade member =>
      List.mem_toFinset.mpr (subset (List.mem_toFinset.mp member))
    obtain ⟨sold, bought⟩ := fastExitRule_mono facts policy grows
    rw [decideFastExit_eq wellFormed list, decideFastExit_eq wellFormed moreList]
    exact ⟨fun isSold => congrArg Except.ok (sold (Except.ok.inj isSold)),
      fun isBought isHold => bought (Except.ok.inj isBought) (Except.ok.inj isHold)⟩

/-- A list that is too long is dropped with everything in it. -/
theorem decideFastExit_tooMany (wellFormed : WellFormed facts policy)
    (notRevoked : facts.envelopeState ≠ "REVOKED") (long : MAXIMUM_TRADES < trades.length) :
    decideFastExit (withTrades facts trades) policy = .ok none := by
  have dropped : tradesFrom trades = .error INVALID_INPUT := by
    unfold tradesFrom
    rw [require, if_neg (Nat.not_le.mpr long)]
    rfl
  rw [decideFastExit_read wellFormed notRevoked, dropped]
  rfl

end Decision

/-! ### Where the rule stops -/

def samplePolicy : FastExitPolicy := ⟨20000, 1, 1000000⟩

def sampleFacts (quoteCostRaw : Int) : FastExitFacts where
  envelopeState := "ACTIVE"
  creator := some "So11111111111111111111111111111111111111112"
  walletPublicKey := "11111111111111111111111111111111"
  remainingBaseRaw := 10
  quoteCostRaw := quoteCostRaw
  trades := none

def sampleSell (trader : Option String) (event : Nat) : FastExitTrade where
  eventId := toString event
  kind := .sell
  trader := trader
  baseAmountRaw := 1
  quoteAmountRaw := 2
  slot := 7
  transactionIndex := 0
  instructionIndex := 0
  innerInstructionIndex := none

theorem sampleWallet_canonical : isCanonicalSolanaPublicKey "11111111111111111111111111111111" = true := by
  decide +kernel

theorem sampleCreator_checked :
    (sampleFacts 10).creator.mapM publicKey = .ok (sampleFacts 10).creator := by
  decide +kernel

theorem sampleFacts_wellFormed {quoteCostRaw : Int} (cost : 0 ≤ quoteCostRaw ∧ quoteCostRaw ≤ U64_MAX) :
    WellFormed (sampleFacts quoteCostRaw) samplePolicy :=
  ⟨by decide, by simp [sampleFacts, ENVELOPE_STATES], sampleWallet_canonical,
    show (0 : Int) ≤ 10 ∧ (10 : Int) ≤ U64_MAX by decide, cost⟩

theorem toString_short {event : Nat} (small : event < 1000000) : (toString event).utf8ByteSize ≤ 24 := by
  have bytes : ∀ chars : List Char, String.utf8Len chars ≤ 4 * chars.length := by
    intro chars
    induction chars with
    | nil => simp
    | cons c rest ih =>
      have size := c.utf8Size_le_four
      simp only [String.utf8Len_cons, List.length_cons]
      omega
  have digits : (Nat.toDigits 10 event).length ≤ 6 :=
    (Nat.length_toDigits_le_iff (by decide) (by decide)).mpr small
  rw [Nat.toString_eq_ofList_toDigits, String.utf8ByteSize_ofList]
  exact (bytes _).trans (by omega)

theorem sampleSell_wellFormed {event : Nat} (small : event < 1000000) :
    tradeFrom (sampleSell (sampleFacts 10).creator event) =
      .ok (sampleSell (sampleFacts 10).creator event) := by
  have given : toString event ≠ "" := fun empty => Nat.toDigits_ne_nil (b := 10) (n := event) (by
    rw [← String.toList_ofList (l := Nat.toDigits 10 event), ← Nat.toString_eq_ofList_toDigits, empty]
    rfl)
  have id : toString event ≠ "" ∧ (toString event).utf8ByteSize ≤ MAXIMUM_EVENT_ID_BYTES :=
    ⟨given, (toString_short small).trans (by decide)⟩
  refine bind_eq_ok.mpr ⟨(), require_eq_ok.mpr id, bind_eq_ok.mpr ⟨(sampleFacts 10).creator, ?_, ?_⟩⟩
  · exact sampleCreator_checked
  · rfl

def sampleTrades : List FastExitTrade :=
  [sampleSell none 1, sampleSell (sampleFacts 10).creator 2, sampleSell none 3]

theorem decideFastExit_reference_creatorSold :
    WellFormed (sampleFacts 10) samplePolicy ∧ WellFormedTrades sampleTrades ∧
      decideFastExit (withTrades (sampleFacts 10) sampleTrades) samplePolicy = .ok (some .creatorSold) := by
  have facts : WellFormed (sampleFacts 10) samplePolicy := sampleFacts_wellFormed (by decide)
  have list : WellFormedTrades sampleTrades := ⟨by decide +kernel, by decide +kernel, by decide⟩
  have sold : fastExitRule (sampleFacts 10) samplePolicy sampleTrades.toFinset = some .creatorSold := by
    rw [fastExitRule, if_neg (by decide), if_pos]
    exact ⟨sampleSell (sampleFacts 10).creator 2, by simp [sampleTrades], rfl, rfl, rfl⟩
  exact ⟨facts, list, sold ▸ (decideFastExit_reference facts list).1⟩

/-- A position without cost takes no profit at any price, and the sale of the creator goes unseen in a
list of more than `MAXIMUM_TRADES` trades. -/
theorem freeEntry_and_longList_hold :
    (WellFormed (sampleFacts 0) samplePolicy ∧ WellFormedTrades [sampleSell none 1] ∧
      (((sampleFacts 0).quoteCostRaw : ℚ) * samplePolicy.takeProfitBps / 10000 ≤
        ((sampleFacts 0).remainingBaseRaw : ℚ) * (sampleSell none 1).quoteAmountRaw /
          (sampleSell none 1).baseAmountRaw) ∧
      decideFastExit (withTrades (sampleFacts 0) [sampleSell none 1]) samplePolicy = .ok none) ∧
    ∃ trades : List FastExitTrade, (∀ trade ∈ trades, (tradeFrom trade).isOk = true) ∧
      (trades.map (·.eventId)).Nodup ∧ (∃ trade ∈ trades, IsCreatorSell (sampleFacts 10) trade) ∧
      decideFastExit (withTrades (sampleFacts 10) trades) samplePolicy = .ok none := by
  refine ⟨⟨sampleFacts_wellFormed (by decide), ⟨by decide +kernel, by simp, by decide⟩,
    by norm_num [sampleFacts, sampleSell], by decide +kernel⟩,
    (List.range 100001).map (sampleSell (sampleFacts 10).creator), ?_, ?_, ?_, ?_⟩
  · intro trade member
    obtain ⟨event, inRange, rfl⟩ := List.mem_map.mp member
    have small := List.mem_range.mp inRange
    rw [sampleSell_wellFormed (by omega)]
    rfl
  · rw [List.map_map]
    refine List.nodup_range.map fun first second same => ?_
    have digits : Nat.toDigits 10 first = Nat.toDigits 10 second := by
      simpa [sampleSell] using congrArg String.toList same
    rw [← Nat.ofDigitChars_ten_toDigits (n := first), digits, Nat.ofDigitChars_ten_toDigits]
  · exact ⟨sampleSell (sampleFacts 10).creator 0, List.mem_map.mpr ⟨0, List.mem_range.mpr (by decide), rfl⟩,
      rfl, rfl, rfl⟩
  · refine decideFastExit_tooMany (sampleFacts_wellFormed (by decide)) (by decide) ?_
    rw [List.length_map, List.length_range]
    decide

end SolTokenListener.Guarantees.FastExitRule
