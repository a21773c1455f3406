import SolTokenListener.Lib.ConstantProduct
import SolTokenListener.Source.PumpSwapQuote

/-!
# PumpSwap quotes are sound

For every pool, fee state and request: an accepted quote keeps its bounds, and anything else is
refused with the quote error. The source does not say what a trade leaves in the pool; the product
of the reserves is bounded for whatever the pool keeps of the input beyond what was priced, and for
whatever it pays out up to the gross amount. The LP fee of a sale stays in the vault, so the gross
amount itself may exceed it by that fee.
-/

namespace SolTokenListener.Guarantees.PumpSwapQuote

open Lib.Checked Lib.ConstantProduct
open Source.PumpSwapQuote

variable {value numerator denominator amountRaw basisPoints amountInRaw amountOutRaw : Int}
variable {accepted : Unit} {result : TradeResult}

/-! ## Refusals -/

/-- Whatever is thrown is the quote error. -/
def OnlyQuoteErrors {α : Type} (result : Quoted α) : Prop :=
  ∀ exception, result = .error exception → exception.isQuoteError = true

section Refusals

variable {α β : Type}

theorem onlyQuoteErrors_pure (value : α) : OnlyQuoteErrors (pure value : Quoted α) := nofun

theorem onlyQuoteErrors_refuse (message : String) : OnlyQuoteErrors (refuse message : Quoted α) := by
  intro exception thrown
  cases thrown
  rfl

theorem onlyQuoteErrors_accept {condition : Prop} [Decidable condition] {message : String} :
    OnlyQuoteErrors (accept condition message) := by
  intro exception thrown
  obtain ⟨-, rfl⟩ := require_eq_error.mp thrown
  rfl

theorem onlyQuoteErrors_bind {step : Quoted α} {next : α → Quoted β} (first : OnlyQuoteErrors step)
    (rest : ∀ value, step = .ok value → OnlyQuoteErrors (next value)) :
    OnlyQuoteErrors (step >>= next) := by
  cases step with
  | error exception =>
    intro other thrown
    cases thrown
    exact first exception rfl
  | ok value => exact rest value rfl

theorem onlyQuoteErrors_bigintDiv (nonzero : denominator ≠ 0) :
    OnlyQuoteErrors (bigintDiv numerator denominator) := by
  unfold bigintDiv
  rw [if_neg nonzero]
  exact onlyQuoteErrors_pure _

end Refusals

/-! ## Divisions and fees -/

theorem bigintDiv_ok (nonneg : 0 ≤ numerator) (ok : bigintDiv numerator denominator = .ok value) :
    value = numerator / denominator := by
  unfold bigintDiv at ok
  split at ok
  · cases ok
  · rw [← Int.tdiv_eq_ediv_of_nonneg nonneg]
    exact (pure_eq_ok.mp ok).symm

/-- The fee of an amount at a rate, rounded up to a whole unit. -/
def IsFee (amountRaw basisPoints feeRaw : Int) : Prop :=
  amountRaw * basisPoints ≤ feeRaw * 10000 ∧ feeRaw * 10000 < amountRaw * basisPoints + 10000

theorem ceilDiv_ok (ok : ceilDiv numerator denominator = .ok value) :
    0 ≤ numerator ∧ 0 < denominator ∧ numerator ≤ value * denominator ∧
      value * denominator < numerator + denominator := by
  unfold ceilDiv at ok
  split at ok
  · cases ok
  · next valid =>
      obtain ⟨nonneg, positive⟩ : 0 ≤ numerator ∧ 0 < denominator := by omega
      refine ⟨nonneg, positive, ?_⟩
      split at ok
      · next isZero =>
          cases pure_eq_ok.mp ok
          omega
      · have isValue := bigintDiv_ok (by omega) ok
        have floor := Int.ediv_mul_le (numerator + denominator - 1) positive.ne'
        have next := Int.lt_ediv_add_one_mul_self (numerator + denominator - 1) positive
        rw [← isValue] at floor next
        rw [Int.add_mul] at next
        omega

theorem fee_ok (ok : fee amountRaw basisPoints = .ok value) :
    0 ≤ amountRaw * basisPoints ∧ IsFee amountRaw basisPoints value := by
  obtain ⟨nonneg, -, below, above⟩ := ceilDiv_ok ok
  exact ⟨nonneg, below, above⟩

theorem isFee_nonneg (nonneg : 0 ≤ amountRaw * basisPoints)
    (isFee : IsFee amountRaw basisPoints value) : 0 ≤ value := by
  have := isFee.1
  omega

theorem isFee_mono {lower higher lowerFee higherFee : Int} (nonneg : 0 ≤ basisPoints)
    (isLower : IsFee lower basisPoints lowerFee) (isHigher : IsFee higher basisPoints higherFee)
    (ordered : lower ≤ higher) : lowerFee ≤ higherFee := by
  have scaled := mul_le_mul_of_nonneg_right ordered nonneg
  have above := isLower.2
  have below := isHigher.1
  omega

theorem onlyQuoteErrors_ceilDiv (numerator denominator : Int) :
    OnlyQuoteErrors (ceilDiv numerator denominator) := by
  unfold ceilDiv
  split
  · exact onlyQuoteErrors_refuse _
  · next valid =>
      split
      · exact onlyQuoteErrors_pure _
      · exact onlyQuoteErrors_bigintDiv (by omega)

/-- The three fees of an amount, each rounded up. -/
structure AreFees (rates : FeeRates) (amountRaw lp protocol creator : Int) : Prop where
  ofLp : IsFee amountRaw rates.lpFeeBps lp
  ofProtocol : IsFee amountRaw rates.protocolFeeBps protocol
  ofCreator : IsFee amountRaw rates.creatorFeeBps creator
  nonneg : 0 ≤ lp ∧ 0 ≤ protocol ∧ 0 ≤ creator

variable {rates : FeeRates}

theorem totalFees_ok (ok : totalFees rates amountRaw = .ok value) :
    ∃ lp protocol creator, AreFees rates amountRaw lp protocol creator ∧
      value = lp + protocol + creator := by
  simp only [totalFees, bind_eq_ok, pure_eq_ok] at ok
  obtain ⟨lp, isLp, protocol, isProtocol, creator, isCreator, rfl⟩ := ok
  obtain ⟨lpNonneg, lpFee⟩ := fee_ok isLp
  obtain ⟨protocolNonneg, protocolFee⟩ := fee_ok isProtocol
  obtain ⟨creatorNonneg, creatorFee⟩ := fee_ok isCreator
  exact ⟨lp, protocol, creator, ⟨lpFee, protocolFee, creatorFee, isFee_nonneg lpNonneg lpFee,
    isFee_nonneg protocolNonneg protocolFee, isFee_nonneg creatorNonneg creatorFee⟩, rfl⟩

/-! ## What validation accepts -/

structure ValidRates (rates : FeeRates) : Prop where
  lp : 0 ≤ rates.lpFeeBps
  protocol : 0 ≤ rates.protocolFeeBps
  creator : 0 ≤ rates.creatorFeeBps

structure ValidRequest (request : PumpSwapQuoteRequest) (state : PumpSwapFeeState) : Prop where
  amount : 0 < request.amountInRaw
  base : 0 < request.reserves.baseReservesRaw
  quote : 0 < request.reserves.effectiveQuoteReservesRaw
  slippage : 0 ≤ request.slippageBps ∧ request.slippageBps ≤ 10000
  stateRates : ValidRates state.toFeeRates
  tierRates : ∀ tier ∈ state.tiers, ValidRates tier.toFeeRates

theorem validateRates_ok (ok : validateRates rates = .ok accepted) :
    ValidRates rates := by
  obtain ⟨lp, protocol, creator⟩ := require_eq_ok.mp ok
  exact ⟨lp.1, protocol.1, creator.1⟩

theorem validateTiers_ok {tiers : List PumpSwapFeeTier} {previous : Option Int}
    (ok : validateTiers previous tiers = .ok accepted) :
    ∀ tier ∈ tiers, ValidRates tier.toFeeRates := by
  induction tiers generalizing previous with
  | nil => exact fun _ member => absurd member List.not_mem_nil
  | cons tier rest ih =>
    simp only [validateTiers, bind_eq_ok] at ok
    obtain ⟨_, rates, _, -, others⟩ := ok
    intro other member
    rcases List.mem_cons.mp member with rfl | later
    · exact validateRates_ok rates
    · exact ih others other later

variable {request : PumpSwapQuoteRequest} {state : PumpSwapFeeState} {observedAtMs : Option Int}

theorem validate_ok (ok : validate request state observedAtMs = .ok accepted) :
    ValidRequest request state := by
  simp only [validate, accept, bind_eq_ok, require_eq_ok] at ok
  obtain ⟨_, -, _, -, _, ⟨amount, base, quote⟩, _, slippage, _, -, _, rates, tiers⟩ := ok
  exact ⟨amount, base, quote, slippage, validateRates_ok rates, validateTiers_ok tiers⟩

section Validated

theorem selectFees_ok (ok : selectFees request state = .ok rates) :
    rates = state.toFeeRates ∨ ∃ tier ∈ state.tiers, rates = tier.toFeeRates := by
  unfold selectFees at ok
  split at ok
  · exact .inl (pure_eq_ok.mp ok).symm
  · obtain ⟨marketCapRaw, -, picked⟩ := bind_eq_ok.mp ok
    rw [← pure_eq_ok.mp picked]
    generalize isChosen : (List.getLast? _).or state.tiers.head? = chosen
    cases chosen with
    | none => exact .inl rfl
    | some tier =>
      refine .inr ⟨tier, ?_, rfl⟩
      rcases Option.or_eq_some_iff.mp isChosen with last | ⟨-, first⟩
      · exact (List.mem_filter.mp (List.mem_of_getLast? last)).1
      · exact List.mem_of_head? first

theorem chargedRates_ok (valid : ValidRequest request state)
    (ok : chargedRates request state = .ok rates) : ValidRates rates := by
  simp only [chargedRates, accept, bind_eq_ok, require_eq_ok, pure_eq_ok] at ok
  obtain ⟨fees, picked, _, -, rfl⟩ := ok
  have selected : ValidRates fees := by
    rcases selectFees_ok picked with rfl | ⟨tier, member, rfl⟩
    · exact valid.stateRates
    · exact valid.tierRates tier member
  refine ⟨selected.lp, selected.protocol, ?_⟩
  dsimp only
  split
  · exact selected.creator
  · rfl

/-! ## BUY -/

/-- The priced input and its fees fit the input, also when the rounded fees had to be paid out of
what was first priced. -/
theorem effectiveQuote_ok {effective feesRaw : Int} (valid : ValidRates rates)
    (ok : effectiveQuote amountInRaw rates = .ok (effective, feesRaw)) :
    effective + feesRaw ≤ amountInRaw ∧ ∃ lp protocol creator,
      AreFees rates effective lp protocol creator ∧ feesRaw = lp + protocol + creator := by
  simp only [effectiveQuote, bind_eq_ok] at ok
  obtain ⟨first, -, firstFees, charged, ok⟩ := ok
  obtain ⟨lp, protocol, creator, fees, isFirst⟩ := totalFees_ok charged
  split at ok
  · next tooMuch =>
      simp only [bind_eq_ok, pure_eq_ok, Prod.mk.injEq] at ok
      obtain ⟨loweredFees, recharged, rfl, rfl⟩ := ok
      obtain ⟨lp', protocol', creator', fees', rfl⟩ := totalFees_ok recharged
      refine ⟨?_, lp', protocol', creator', fees', rfl⟩
      -- A lower priced input costs no more in fees than the first one did.
      have lowered : first - (first + firstFees - amountInRaw) ≤ first := by omega
      have lpLess := isFee_mono valid.lp fees'.ofLp fees.ofLp lowered
      have protocolLess := isFee_mono valid.protocol fees'.ofProtocol fees.ofProtocol lowered
      have creatorLess := isFee_mono valid.creator fees'.ofCreator fees.ofCreator lowered
      omega
  · next fits =>
      simp only [pure_eq_ok, Prod.mk.injEq] at ok
      obtain ⟨rfl, rfl⟩ := ok
      exact ⟨by omega, lp, protocol, creator, fees, isFirst⟩

/-- A BUY that prices `effective` of its input. The pool keeps at least what was priced: with or
without the unit held back and the fees that stay in it. -/
structure BuySound (request : PumpSwapQuoteRequest) (rates : FeeRates)
    (amountOutRaw feesRaw effective : Int) : Prop where
  fees : ∃ lp protocol creator, AreFees rates effective lp protocol creator ∧
    feesRaw = lp + protocol + creator
  spends : effective + feesRaw ≤ request.amountInRaw
  positive : 0 < amountOutRaw
  below : amountOutRaw < request.reserves.baseReservesRaw
  product : ∀ kept, effective - 1 ≤ kept →
    request.reserves.effectiveQuoteReservesRaw * request.reserves.baseReservesRaw ≤
      (request.reserves.effectiveQuoteReservesRaw + kept) *
        (request.reserves.baseReservesRaw - amountOutRaw)

theorem buy_priced (valid : ValidRequest request state) (ratesValid : ValidRates rates)
    (ok : buy request rates = .ok result) :
    ∃ effective, 1 < effective ∧ effective + result.feesRaw ≤ request.amountInRaw ∧
      (∃ lp protocol creator, AreFees rates effective lp protocol creator ∧
        result.feesRaw = lp + protocol + creator) ∧
      0 < result.amountOutRaw ∧
      result.amountOutRaw = swapOut request.reserves.effectiveQuoteReservesRaw
        request.reserves.baseReservesRaw (effective - 1) := by
  simp only [buy, accept, bind_eq_ok, require_eq_ok, pure_eq_ok] at ok
  obtain ⟨⟨effective, feesRaw⟩, priced, _, large, amountOutRaw, swapped, _, positive, rfl⟩ := ok
  obtain ⟨spends, fees⟩ := effectiveQuote_ok ratesValid priced
  have nonneg : 0 ≤ request.reserves.baseReservesRaw * (effective - 1) :=
    mul_nonneg valid.base.le (by omega)
  exact ⟨effective, large, spends, fees, positive, bigintDiv_ok nonneg swapped⟩

theorem buy_sound (valid : ValidRequest request state) (ratesValid : ValidRates rates)
    (ok : buy request rates = .ok result) :
    ∃ effective, BuySound request rates result.amountOutRaw result.feesRaw effective := by
  obtain ⟨effective, large, spends, fees, positive, priced⟩ := buy_priced valid ratesValid ok
  have inputNonneg : 0 ≤ effective - 1 := by omega
  refine ⟨effective, fees, spends, positive, ?_, fun kept keeps => ?_⟩
  · rw [priced]
    exact swapOut_lt valid.quote valid.base inputNonneg
  · exact product_le valid.quote valid.base inputNonneg keeps priced.le

/-! ## SELL -/

/-- A SELL of gross amount `gross`. The LP fee stays in the pool, the rest leaves it. -/
structure SellSound (request : PumpSwapQuoteRequest) (rates : FeeRates)
    (amountOutRaw feesRaw gross lp protocol creator : Int) : Prop where
  priced : gross = swapOut request.reserves.baseReservesRaw
    request.reserves.effectiveQuoteReservesRaw request.amountInRaw
  fees : AreFees rates gross lp protocol creator ∧ feesRaw = lp + protocol + creator
  whole : amountOutRaw + feesRaw = gross
  positive : 0 < amountOutRaw
  leaves : gross - lp ≤ request.reserves.quoteVaultAmountRaw
  fits : amountOutRaw ≤ request.reserves.quoteVaultAmountRaw
  product : ∀ paid, paid ≤ gross →
    request.reserves.baseReservesRaw * request.reserves.effectiveQuoteReservesRaw ≤
      (request.reserves.baseReservesRaw + request.amountInRaw) *
        (request.reserves.effectiveQuoteReservesRaw - paid)

theorem sell_sound (valid : ValidRequest request state) (ok : sell request rates = .ok result) :
    ∃ gross lp protocol creator,
      SellSound request rates result.amountOutRaw result.feesRaw gross lp protocol creator := by
  simp only [sell, bind_eq_ok] at ok
  obtain ⟨gross, swapped, lp, isLp, protocol, isProtocol, creator, isCreator, ok⟩ := ok
  obtain ⟨lpNonneg, lpFee⟩ := fee_ok isLp
  obtain ⟨protocolNonneg, protocolFee⟩ := fee_ok isProtocol
  obtain ⟨creatorNonneg, creatorFee⟩ := fee_ok isCreator
  have fees : AreFees rates gross lp protocol creator :=
    ⟨lpFee, protocolFee, creatorFee, isFee_nonneg lpNonneg lpFee,
      isFee_nonneg protocolNonneg protocolFee, isFee_nonneg creatorNonneg creatorFee⟩
  split at ok
  · cases ok
  · next available =>
      simp only [accept, bind_eq_ok, require_eq_ok, pure_eq_ok] at ok
      obtain ⟨_, positive, rfl⟩ := ok
      have nonneg : 0 ≤ request.reserves.effectiveQuoteReservesRaw * request.amountInRaw :=
        mul_nonneg valid.quote.le valid.amount.le
      have priced := bigintDiv_ok nonneg swapped
      obtain ⟨-, someProtocol, someCreator⟩ := fees.nonneg
      refine ⟨gross, lp, protocol, creator, priced, ⟨fees, rfl⟩, by dsimp only; omega, positive,
        by omega, by dsimp only; omega, fun paid pays => ?_⟩
      exact product_le valid.base valid.quote valid.amount.le le_rfl (pays.trans priced.le)

/-! ## The bounds of a quote -/

theorem impact_ok {inputIsQuote : Bool} {baseRaw quoteRaw : Int}
    (ok : impact inputIsQuote amountInRaw amountOutRaw baseRaw quoteRaw = .ok value) :
    0 ≤ value ∧ value ≤ 10000 := by
  obtain ⟨rounded, divided, rfl⟩ : ∃ rounded, ceilDiv _ _ = .ok rounded ∧ min rounded 10000 = value := by
    simpa only [impact, bind_eq_ok, pure_eq_ok] using ok
  obtain ⟨lostNonneg, positive, below, -⟩ := ceilDiv_ok divided
  have : 0 ≤ rounded := nonneg_of_mul_nonneg_left (lostNonneg.trans below) positive
  omega

theorem minimumAmountOut_le {slippageBps minimum : Int} (positive : 0 < amountOutRaw)
    (slippage : 0 ≤ slippageBps ∧ slippageBps ≤ 10000)
    (ok : bigintDiv (amountOutRaw * (10000 - slippageBps)) 10000 = .ok minimum) :
    minimum ≤ amountOutRaw := by
  have nonneg : 0 ≤ amountOutRaw * (10000 - slippageBps) := mul_nonneg positive.le (by omega)
  rw [bigintDiv_ok nonneg ok]
  refine Int.ediv_le_of_le_mul (by omega) ?_
  exact mul_le_mul_of_nonneg_left (by omega) positive.le

/-! ## Every refusal is the quote error -/

theorem onlyQuoteErrors_validateTiers (previous : Option Int) (tiers : List PumpSwapFeeTier) :
    OnlyQuoteErrors (validateTiers previous tiers) := by
  induction tiers generalizing previous with
  | nil => exact onlyQuoteErrors_pure ()
  | cons tier rest ih =>
    refine onlyQuoteErrors_bind onlyQuoteErrors_accept fun _ _ => ?_
    exact onlyQuoteErrors_bind onlyQuoteErrors_accept fun _ _ => ih _

theorem onlyQuoteErrors_validate (observedAtMs : Option Int) :
    OnlyQuoteErrors (validate request state observedAtMs) := by
  unfold validate
  repeat refine onlyQuoteErrors_bind onlyQuoteErrors_accept fun _ _ => ?_
  exact onlyQuoteErrors_validateTiers none state.tiers

theorem onlyQuoteErrors_fee (amountRaw basisPoints : Int) :
    OnlyQuoteErrors (fee amountRaw basisPoints) := onlyQuoteErrors_ceilDiv _ _

theorem onlyQuoteErrors_totalFees (amountRaw : Int) : OnlyQuoteErrors (totalFees rates amountRaw) := by
  unfold totalFees
  repeat refine onlyQuoteErrors_bind (onlyQuoteErrors_fee _ _) fun _ _ => ?_
  exact onlyQuoteErrors_pure _

theorem onlyQuoteErrors_chargedRates (valid : ValidRequest request state) :
    OnlyQuoteErrors (chargedRates request state) := by
  refine onlyQuoteErrors_bind ?_ fun _ _ =>
    onlyQuoteErrors_bind onlyQuoteErrors_accept fun _ _ => onlyQuoteErrors_pure _
  unfold selectFees
  split
  · exact onlyQuoteErrors_pure _
  · exact onlyQuoteErrors_bind (onlyQuoteErrors_bigintDiv valid.base.ne') fun _ _ =>
      onlyQuoteErrors_pure _

theorem onlyQuoteErrors_effectiveQuote (valid : ValidRates rates) :
    OnlyQuoteErrors (effectiveQuote amountInRaw rates) := by
  obtain ⟨lp, protocol, creator⟩ := valid
  refine onlyQuoteErrors_bind (onlyQuoteErrors_bigintDiv (by omega)) fun _ _ => ?_
  refine onlyQuoteErrors_bind (onlyQuoteErrors_totalFees _) fun _ _ => ?_
  split
  · exact onlyQuoteErrors_bind (onlyQuoteErrors_totalFees _) fun _ _ => onlyQuoteErrors_pure _
  · exact onlyQuoteErrors_pure _

theorem onlyQuoteErrors_trade (valid : ValidRequest request state) (ratesValid : ValidRates rates) :
    OnlyQuoteErrors (trade request rates) := by
  have quotePositive := valid.quote
  have basePositive := valid.base
  have amountPositive := valid.amount
  unfold trade
  split
  · refine onlyQuoteErrors_bind (onlyQuoteErrors_effectiveQuote ratesValid) fun priced _ => ?_
    refine onlyQuoteErrors_bind onlyQuoteErrors_accept fun _ large => ?_
    have large := require_eq_ok.mp large
    refine onlyQuoteErrors_bind (onlyQuoteErrors_bigintDiv (by omega)) fun _ _ => ?_
    exact onlyQuoteErrors_bind onlyQuoteErrors_accept fun _ _ => onlyQuoteErrors_pure _
  · refine onlyQuoteErrors_bind (onlyQuoteErrors_bigintDiv (by omega)) fun _ _ => ?_
    repeat refine onlyQuoteErrors_bind (onlyQuoteErrors_fee _ _) fun _ _ => ?_
    dsimp only
    split
    · intro exception thrown
      cases thrown
      rfl
    · exact onlyQuoteErrors_bind onlyQuoteErrors_accept fun _ _ => onlyQuoteErrors_pure _

theorem onlyQuoteErrors_createPumpSwapQuote (libraries : QuoteLibraries) (observedAtMs : Option Int) :
    OnlyQuoteErrors (createPumpSwapQuote libraries request state observedAtMs) := by
  refine onlyQuoteErrors_bind (onlyQuoteErrors_validate observedAtMs) fun _ accepted => ?_
  have valid := validate_ok accepted
  refine onlyQuoteErrors_bind (onlyQuoteErrors_chargedRates valid) fun rates charged => ?_
  refine onlyQuoteErrors_bind (onlyQuoteErrors_trade valid (chargedRates_ok valid charged)) fun _ _ => ?_
  refine onlyQuoteErrors_bind (onlyQuoteErrors_bigintDiv (by decide)) fun _ _ => ?_
  refine onlyQuoteErrors_bind ?_ fun _ _ => onlyQuoteErrors_pure _
  exact onlyQuoteErrors_bind (onlyQuoteErrors_ceilDiv _ _) fun _ _ => onlyQuoteErrors_pure _

/-! ## Soundness -/

/-- What an accepted quote guarantees at the rates it charges. -/
structure QuoteSound (request : PumpSwapQuoteRequest) (rates : FeeRates) (quote : MarketQuote) :
    Prop where
  buys : request.inputIsQuote = true →
    ∃ effective, BuySound request rates quote.amountOutRaw quote.feesRaw effective
  sells : request.inputIsQuote = false → ∃ gross lp protocol creator,
    SellSound request rates quote.amountOutRaw quote.feesRaw gross lp protocol creator
  minimum : quote.minimumAmountOutRaw ≤ quote.amountOutRaw
  impact : 0 ≤ quote.priceImpactBps ∧ quote.priceImpactBps ≤ 10000

/-- What an accepted quote was made of. -/
theorem createPumpSwapQuote_ok {libraries : QuoteLibraries} {quote : MarketQuote}
    (ok : createPumpSwapQuote libraries request state observedAtMs = .ok quote) :
    ValidRequest request state ∧ ∃ rates, chargedRates request state = .ok rates ∧
      trade request rates = .ok ⟨quote.amountOutRaw, quote.feesRaw⟩ ∧
      bigintDiv (quote.amountOutRaw * (10000 - request.slippageBps)) 10000 =
        .ok quote.minimumAmountOutRaw ∧
      impact request.inputIsQuote request.amountInRaw quote.amountOutRaw
        request.reserves.baseReservesRaw request.reserves.effectiveQuoteReservesRaw =
        .ok quote.priceImpactBps := by
  simp only [createPumpSwapQuote, bind_eq_ok, pure_eq_ok] at ok
  obtain ⟨_, accepted, rates, charged, result, traded, minimum, isMinimum, priceImpact, isImpact, rfl⟩ := ok
  exact ⟨validate_ok accepted, rates, charged, traded, isMinimum, isImpact⟩

theorem trade_sound {feesRaw : Int} (valid : ValidRequest request state)
    (ratesValid : ValidRates rates) (ok : trade request rates = .ok ⟨amountOutRaw, feesRaw⟩) :
    0 < amountOutRaw ∧
      (request.inputIsQuote = true → ∃ effective,
        BuySound request rates amountOutRaw feesRaw effective) ∧
      (request.inputIsQuote = false → ∃ gross lp protocol creator,
        SellSound request rates amountOutRaw feesRaw gross lp protocol creator) := by
  unfold trade at ok
  split at ok
  · next isBuy =>
      obtain ⟨effective, sound⟩ := buy_sound valid ratesValid ok
      exact ⟨sound.positive, fun _ => ⟨effective, sound⟩, fun isSell => by simp [isBuy] at isSell⟩
  · next isSell =>
      obtain ⟨gross, lp, protocol, creator, sound⟩ := sell_sound valid ok
      exact ⟨sound.positive, fun isBuy => absurd isBuy isSell,
        fun _ => ⟨gross, lp, protocol, creator, sound⟩⟩

end Validated

/-- Every request is either quoted soundly or refused with the quote error. -/
theorem createPumpSwapQuote_sound (libraries : QuoteLibraries) (request : PumpSwapQuoteRequest)
    (state : PumpSwapFeeState) (observedAtMs : Option Int) :
    match createPumpSwapQuote libraries request state observedAtMs with
    | .ok quote => ∃ rates, chargedRates request state = .ok rates ∧ QuoteSound request rates quote
    | .error exception => exception.isQuoteError = true := by
  split
  · next quote ok =>
      obtain ⟨valid, rates, charged, traded, minimum, isImpact⟩ := createPumpSwapQuote_ok ok
      obtain ⟨positive, buys, sells⟩ := trade_sound valid (chargedRates_ok valid charged) traded
      exact ⟨rates, charged, buys, sells, minimumAmountOut_le positive valid.slippage minimum,
        impact_ok isImpact⟩
  · next exception thrown => exact onlyQuoteErrors_createPumpSwapQuote libraries observedAtMs _ thrown

def sampleLibraries : QuoteLibraries := { sha256Hex := id, jsonStringify := String.join }

def samplePool : CanonicalMarketPool := { address := "pool", baseMint := "base", quoteMint := "quote" }

/-- A vault that holds less than the effective reserves. -/
def sampleReserves : MarketReserves where
  pool := "pool"
  baseReservesRaw := 1000
  quoteVaultAmountRaw := 998
  effectiveQuoteReservesRaw := 2000
  observedSlot := 7

def sampleFees : PumpSwapFeeState where
  lpFeeBps := 20
  protocolFeeBps := 5
  creatorFeeBps := 0
  creatorFeeEnabled := false
  baseMintSupplyRaw := 1000000
  tiers := []
  observedSlot := 7

def sampleSell : PumpSwapQuoteRequest where
  pool := samplePool
  reserves := sampleReserves
  inputMint := "base"
  amountInRaw := 1000
  slippageBps := 100

/-- The vault need not cover the output and its fees together: the LP fee never leaves it. -/
theorem createPumpSwapQuote_sell_beyond_vault :
    ∃ quote, createPumpSwapQuote sampleLibraries sampleSell sampleFees (some 1) = .ok quote ∧
      sampleSell.reserves.quoteVaultAmountRaw < quote.amountOutRaw + quote.feesRaw := by
  refine ⟨_, rfl, ?_⟩
  decide +kernel

/-! ## No free money -/

/-- The reserves a sale may meet: those the BUY was quoted on, or those it leaves, where the pool
gave the output and took in no more than the input. -/
def RoundTripReserves (before : MarketReserves) (amountInRaw amountOutRaw : Int)
    (reserves : MarketReserves) : Prop :=
  (reserves.baseReservesRaw = before.baseReservesRaw ∧
    reserves.effectiveQuoteReservesRaw = before.effectiveQuoteReservesRaw) ∨
  (reserves.baseReservesRaw = before.baseReservesRaw - amountOutRaw ∧
    reserves.effectiveQuoteReservesRaw ≤ before.effectiveQuoteReservesRaw + amountInRaw)

/-- Selling exactly what a BUY quoted returns less than its input, at any fees of either trade. -/
theorem roundTrip_loses {buyLibraries sellLibraries : QuoteLibraries}
    {buyRequest sellRequest : PumpSwapQuoteRequest} {buyState sellState : PumpSwapFeeState}
    {buyAtMs sellAtMs : Option Int} {buyQuote sellQuote : MarketQuote}
    (isBuy : buyRequest.inputIsQuote = true)
    (bought : createPumpSwapQuote buyLibraries buyRequest buyState buyAtMs = .ok buyQuote)
    (isSell : sellRequest.inputIsQuote = false)
    (exactly : sellRequest.amountInRaw = buyQuote.amountOutRaw)
    (reserves : RoundTripReserves buyRequest.reserves buyRequest.amountInRaw buyQuote.amountOutRaw
      sellRequest.reserves)
    (sold : createPumpSwapQuote sellLibraries sellRequest sellState sellAtMs = .ok sellQuote) :
    sellQuote.amountOutRaw < buyRequest.amountInRaw := by
  obtain ⟨buyValid, buyRates, buyCharged, buyTraded, -, -⟩ := createPumpSwapQuote_ok bought
  obtain ⟨sellValid, sellRates, -, sellTraded, -, -⟩ := createPumpSwapQuote_ok sold
  rw [trade, if_pos isBuy] at buyTraded
  rw [trade, if_neg (by simp [isSell])] at sellTraded
  obtain ⟨effective, large, spends, ⟨lp, protocol, creator, fees, isFees⟩, positive, priced⟩ :=
    buy_priced buyValid (chargedRates_ok buyValid buyCharged) buyTraded
  obtain ⟨gross, lp', protocol', creator', sale⟩ := sell_sound sellValid sellTraded
  dsimp only at priced spends isFees sale
  obtain ⟨lpNonneg, protocolNonneg, creatorNonneg⟩ := fees.nonneg
  obtain ⟨lpNonneg', protocolNonneg', creatorNonneg'⟩ := sale.fees.1.nonneg
  have wholeOut := sale.whole
  have saleFees := sale.fees.2
  have inputNonneg : 0 ≤ effective - 1 := by omega
  have costs : effective - 1 < buyRequest.amountInRaw := by omega
  -- The fees of the sale only lower what the pool would pay for the tokens.
  suffices returned : gross < buyRequest.amountInRaw by omega
  rw [sale.priced, exactly]
  rcases reserves with ⟨sameBase, sameQuote⟩ | ⟨baseAfter, quoteAfter⟩
  · rw [sameBase, sameQuote, priced]
    exact (swapOut_back_same buyValid.quote buyValid.base inputNonneg).trans_lt costs
  · rw [baseAfter, priced]
    exact swapOut_back_after buyValid.quote buyValid.base inputNonneg costs quoteAfter

def sampleBuy : PumpSwapQuoteRequest where
  pool := samplePool
  reserves := sampleReserves
  inputMint := "quote"
  amountInRaw := 500
  slippageBps := 100

/-- What the sample BUY leaves when all of its input stays in the pool. -/
def sampleSellBack : PumpSwapQuoteRequest :=
  { sampleSell with
    reserves := { sampleReserves with
      baseReservesRaw := 801, quoteVaultAmountRaw := 1498, effectiveQuoteReservesRaw := 2500 }
    amountInRaw := 199 }

def sampleBuyQuote : MarketQuote where
  id := "quote_poolquote50010077"
  pool := "pool"
  inputMint := "quote"
  outputMint := "base"
  amountInRaw := 500
  amountOutRaw := 199
  minimumAmountOutRaw := 197
  feesRaw := 2
  slippageBps := 100
  priceImpactBps := 2040
  observedAtMs := some 1
  observedSlot := 7

def sampleSellBackQuote : MarketQuote where
  id := "quote_poolbase19910077"
  pool := "pool"
  inputMint := "base"
  outputMint := "quote"
  amountInRaw := 199
  amountOutRaw := 495
  minimumAmountOutRaw := 490
  feesRaw := 2
  slippageBps := 100
  priceImpactBps := 2031
  observedAtMs := some 2
  observedSlot := 7

theorem roundTrip_loses_sample :
    createPumpSwapQuote sampleLibraries sampleBuy sampleFees (some 1) = .ok sampleBuyQuote ∧
      createPumpSwapQuote sampleLibraries sampleSellBack sampleFees (some 2) =
        .ok sampleSellBackQuote ∧
      sampleSellBackQuote.amountOutRaw < sampleBuy.amountInRaw := by
  have bought : createPumpSwapQuote sampleLibraries sampleBuy sampleFees (some 1) =
      .ok sampleBuyQuote := by decide +kernel
  have sold : createPumpSwapQuote sampleLibraries sampleSellBack sampleFees (some 2) =
      .ok sampleSellBackQuote := by decide +kernel
  have reserves : RoundTripReserves sampleBuy.reserves sampleBuy.amountInRaw
      sampleBuyQuote.amountOutRaw sampleSellBack.reserves := .inr ⟨rfl, by decide⟩
  exact ⟨bought, sold, roundTrip_loses rfl bought rfl rfl reserves sold⟩

end SolTokenListener.Guarantees.PumpSwapQuote
