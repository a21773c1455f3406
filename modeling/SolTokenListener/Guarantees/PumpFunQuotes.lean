import SolTokenListener.Lib.ConstantProduct
import SolTokenListener.Source.PumpFunExecutionQuote

/-!
# The two Pump.fun quotes

The listener and the executor quote the same curve with code of their own. Each is first reduced to
one description: an accepted state, a priced side, and the sale of what a BUY gave. They return equal
amounts; they part only where the reverse sale of a BUY cannot be computed, which the executor
reports and the listener refuses the quote for. Selling back never returns more than the BUY put in.
-/

namespace SolTokenListener.Guarantees.PumpFunQuotes

open Lib.Checked Lib.ConstantProduct
open Source.PumpFunCausalQuote (DecodedState OfficialSdk Side QuoteRequest Amounts BondingCurve
  FeeTier FeeConfig U64_MAX BASIS_POINTS DEFAULT_PUBLIC_KEY WSOL_MINT stateValues CausalQuote
  buyGrossReserveChange sellGrossReserveChange postBuyCurve computePumpFunCausalQuote)
open Source.PumpFunExecutionQuote (ExecutionQuote computePumpFunExecutionQuote)

variable {quoteMint : String} {done : Unit} {amounts : Amounts} {result : Int}
variable {request : QuoteRequest} {reverse : Option Amounts}
variable {sdk : OfficialSdk} {state : DecodedState}

/-! ## Accepted states -/

def IsU64 (value : Int) : Prop := 0 ≤ value ∧ value ≤ U64_MAX

def FeeAccepted (fee : Int) : Prop := 0 ≤ fee ∧ fee ≤ BASIS_POINTS

/-- Thresholds that grow, each with fees of at most the whole. -/
def TiersAccepted (previous : Option Int) : List FeeTier → Prop
  | [] => True
  | tier :: rest => IsU64 tier.marketCapLamportsThreshold ∧
      (previous.all (· < tier.marketCapLamportsThreshold)) = true ∧
      FeeAccepted tier.fees.lpFeeBps ∧ FeeAccepted tier.fees.protocolFeeBps ∧
      FeeAccepted tier.fees.creatorFeeBps ∧
      TiersAccepted (some tier.marketCapLamportsThreshold) rest

structure Accepted (quoteMint : String) (state : DecodedState) : Prop where
  initialized : state.global.initialized = true
  incomplete : state.curve.complete = false
  mint : (state.curve.quoteMint = DEFAULT_PUBLIC_KEY ∧ quoteMint = WSOL_MINT) ∨
    state.curve.quoteMint = quoteMint
  values : ∀ value ∈ stateValues state, IsU64 value
  virtualToken_pos : 0 < state.curve.virtualTokenReserves
  virtualQuote_pos : 0 < state.curve.virtualQuoteReserves
  realToken_pos : 0 < state.curve.realTokenReserves
  supply_pos : 0 < state.mintSupply
  supply_eq : state.curve.tokenTotalSupply = state.mintSupply
  tiers_ne_nil : state.feeConfig.feeTiers ≠ []
  tiers_le : state.feeConfig.feeTiers.length ≤ 256
  tiers : TiersAccepted none state.feeConfig.feeTiers

theorem Accepted.virtualToken (accepted : Accepted quoteMint state) :
    IsU64 state.curve.virtualTokenReserves :=
  accepted.values _ (by simp [stateValues])

theorem Accepted.virtualQuote (accepted : Accepted quoteMint state) :
    IsU64 state.curve.virtualQuoteReserves :=
  accepted.values _ (by simp [stateValues])

theorem Accepted.realToken (accepted : Accepted quoteMint state) :
    IsU64 state.curve.realTokenReserves :=
  accepted.values _ (by simp [stateValues])

theorem Accepted.realQuote (accepted : Accepted quoteMint state) :
    IsU64 state.curve.realQuoteReserves :=
  accepted.values _ (by simp [stateValues])

/-! ## Priced sides -/

/-- The official output of a BUY, at an official cost that covers what enters the curve. -/
def Bought (sdk : OfficialSdk) (state : DecodedState) (amount : Int) (quoteMint : String)
    (amounts : Amounts) : Prop :=
  ∃ amountOut totalCost,
    sdk.getBuyTokenAmountFromSolAmount state.global state.feeConfig state.mintSupply state.curve
      amount quoteMint = some amountOut ∧
    sdk.getBuySolAmountFromTokenAmount state.global state.feeConfig state.mintSupply state.curve
      amountOut quoteMint = some totalCost ∧
    totalCost ≤ amount ∧ amountOut < state.curve.virtualTokenReserves ∧
    buyGrossReserveChange state.curve amountOut ≤ totalCost ∧ IsU64 amountOut ∧
    IsU64 (totalCost - buyGrossReserveChange state.curve amountOut) ∧
    ⟨amountOut, totalCost - buyGrossReserveChange state.curve amountOut⟩ = amounts

/-- The official output of a SELL, covered by what leaves the curve. -/
def Sold (sdk : OfficialSdk) (state : DecodedState) (amount : Int) (amounts : Amounts) : Prop :=
  ∃ amountOut, sellGrossReserveChange state.curve amount ≤ state.curve.realQuoteReserves ∧
    sdk.getSellSolAmountFromTokenAmount state.global state.feeConfig state.mintSupply state.curve
      amount = some amountOut ∧
    amountOut ≤ sellGrossReserveChange state.curve amount ∧ IsU64 amountOut ∧
    IsU64 (sellGrossReserveChange state.curve amount - amountOut) ∧
    ⟨amountOut, sellGrossReserveChange state.curve amount - amountOut⟩ = amounts

/-- The side a request asks for. -/
def Priced (sdk : OfficialSdk) (state : DecodedState) (request : QuoteRequest) (amounts : Amounts) :
    Prop :=
  match request.side with
  | .BUY => Bought sdk state request.amountInRaw request.quoteMint amounts
  | .SELL => Sold sdk state request.amountInRaw amounts

/-! ## Selling back what was bought -/

variable {amount : Int}

section RoundTrip

variable {curve : BondingCurve}

theorem buyGross_eq_costIn (amountNonneg : 0 ≤ amount) (quoteNonneg : 0 ≤ curve.virtualQuoteReserves) :
    buyGrossReserveChange curve amount =
      costIn curve.virtualQuoteReserves curve.virtualTokenReserves amount := by
  unfold buyGrossReserveChange costIn
  rw [Int.tdiv_eq_ediv_of_nonneg (mul_nonneg amountNonneg quoteNonneg), mul_comm]

theorem buyGross_pos (amountNonneg : 0 ≤ amount) (below : amount < curve.virtualTokenReserves)
    (quoteNonneg : 0 ≤ curve.virtualQuoteReserves) : 0 < buyGrossReserveChange curve amount := by
  rw [buyGross_eq_costIn amountNonneg quoteNonneg]
  exact costIn_pos quoteNonneg amountNonneg below

/-- The gross proceeds of the sale back are at most the gross paid into the curve. -/
theorem reverseGross_le (amountNonneg : 0 ≤ amount) (below : amount < curve.virtualTokenReserves)
    (quoteNonneg : 0 ≤ curve.virtualQuoteReserves) :
    sellGrossReserveChange (postBuyCurve curve amount) amount ≤
      buyGrossReserveChange curve amount := by
  have paid := buyGross_pos amountNonneg below quoteNonneg
  have exact := buyGross_eq_costIn amountNonneg quoteNonneg
  have proceeds : sellGrossReserveChange (postBuyCurve curve amount) amount =
      swapOut (curve.virtualTokenReserves - amount)
        (curve.virtualQuoteReserves + buyGrossReserveChange curve amount) amount := by
    unfold sellGrossReserveChange swapOut postBuyCurve
    rw [Int.tdiv_eq_ediv_of_nonneg (mul_nonneg amountNonneg (by dsimp only; omega)), mul_comm]
  rw [proceeds, exact]
  exact swapOut_back_cost amountNonneg below

/-- So the quote reserves after the BUY always back the sale. -/
theorem reverseGross_backed (amountNonneg : 0 ≤ amount) (below : amount < curve.virtualTokenReserves)
    (quoteNonneg : 0 ≤ curve.virtualQuoteReserves) (realNonneg : 0 ≤ curve.realQuoteReserves) :
    sellGrossReserveChange (postBuyCurve curve amount) amount ≤
      (postBuyCurve curve amount).realQuoteReserves := by
  have returned := reverseGross_le amountNonneg below quoteNonneg
  dsimp only [postBuyCurve] at *
  omega

end RoundTrip

/-- A BUY's output is a u64 value below the virtual token reserves. -/
theorem Bought.output (bought : Bought sdk state amount quoteMint amounts) :
    0 ≤ amounts.amountOutRaw ∧ amounts.amountOutRaw < state.curve.virtualTokenReserves := by
  obtain ⟨amountOut, _, _, _, _, below, _, range, _, rfl⟩ := bought
  exact ⟨range.1, below⟩

/-- The reverse sale of a BUY: forbidden by the real token reserves, or a sale on the curve after the
BUY, whose quote reserves have to be u64 values. -/
def Reversed (sdk : OfficialSdk) (state : DecodedState) (amount : Int) (reverse : Option Amounts) :
    Prop :=
  if state.curve.realTokenReserves < amount then reverse = none
  else
    IsU64 (postBuyCurve state.curve amount).virtualQuoteReserves ∧
    IsU64 (postBuyCurve state.curve amount).realQuoteReserves ∧
    ∃ sold, Sold sdk { state with curve := postBuyCurve state.curve amount } amount sold ∧
      reverse = some sold

/-- The amounts of a quote, as both compute them from the priced side. -/
def minimumOf (amounts : Amounts) (slippageBps : Int) : Int :=
  (amounts.amountOutRaw * (BASIS_POINTS - slippageBps)).tdiv BASIS_POINTS

structure RequestAccepted (request : QuoteRequest) : Prop where
  amount_pos : 0 < request.amountInRaw
  amount_le : request.amountInRaw ≤ U64_MAX
  slippage_nonneg : 0 ≤ request.slippageBps
  slippage_le : request.slippageBps ≤ BASIS_POINTS

/-- What both quotes require before the reverse sale. -/
structure Quoted (sdk : OfficialSdk) (state : DecodedState) (request : QuoteRequest)
    (amounts : Amounts) : Prop where
  requested : RequestAccepted request
  accepted : Accepted request.quoteMint state
  priced : Priced sdk state request amounts
  output_pos : 0 < amounts.amountOutRaw

/-! ## The listener -/

variable {previous : Option Int} {tiers : List FeeTier}

section Listener

open Source.PumpFunCausalQuote

theorem toBigint_eq_ok {value : Int} {field : String} :
    toBigint value field = .ok result ↔ IsU64 value ∧ value = result := by
  simp only [toBigint, bind_eq_ok, require_eq_ok, pure_eq_ok, exists_const, IsU64, and_assoc]

theorem official_eq_ok {call : Option Int} :
    official call = .ok result ↔ call = some result := by
  cases call <;> simp [official]

theorem validateFee_eq_ok {fee : Int} :
    validateFee fee = .ok done ↔ FeeAccepted fee := by
  simp only [validateFee, bind_eq_ok, toBigint_eq_ok, require_eq_ok, FeeAccepted, IsU64]
  constructor
  · intro accepted
    obtain ⟨value, ⟨⟨nonneg, _⟩, same⟩, bounded⟩ := accepted
    exact ⟨nonneg, same ▸ bounded⟩
  · intro accepted
    obtain ⟨nonneg, bounded⟩ := accepted
    exact ⟨fee, ⟨⟨nonneg, bounded.trans (by decide)⟩, rfl⟩, bounded⟩

theorem validateTiers_eq_ok :
    validateTiers previous tiers = .ok done ↔ TiersAccepted previous tiers := by
  induction tiers generalizing previous with
  | nil => simp [validateTiers, TiersAccepted]
  | cons tier rest ih =>
    simp only [validateTiers, bind_eq_ok, toBigint_eq_ok, require_eq_ok, validateFee_eq_ok, ih,
      exists_const, TiersAccepted, and_assoc, exists_eq_left', exists_and_left]

theorem forM_toBigint_eq_ok {values : List Int} :
    (values.zipIdx.forM fun (value, index) => do
      let _ ← toBigint value ("state" ++ toString index)) = .ok done ↔
      ∀ value ∈ values, IsU64 value := by
  have each : ∀ item : Int × Nat, (do
      let _ ← toBigint item.1 ("state" ++ toString item.2)) = Except.ok () ↔ IsU64 item.1 := by
    intro item
    simp only [bind_eq_ok, toBigint_eq_ok, pure_eq_ok, exists_eq_right', and_true]
  rw [forM_eq_ok]
  simp only [each]
  rw [← List.forall_mem_map, List.zipIdx_map_fst]

theorem listener_validateState_iff :
    validateState quoteMint state = .ok done ↔ Accepted quoteMint state := by
  simp only [validateState, validateFeeConfig, bind_eq_ok, require_eq_ok, forM_toBigint_eq_ok,
    validateTiers_eq_ok, exists_const]
  constructor
  · intro accepted
    obtain ⟨initialized, incomplete, mint, values, ⟨token, quote, real, supply, total⟩,
      ⟨present, few⟩, tiers⟩ := accepted
    exact ⟨initialized, incomplete, mint, values, token, quote, real, supply, total, present, few,
      tiers⟩
  · intro accepted
    obtain ⟨initialized, incomplete, mint, values, token, quote, real, supply, total, present, few,
      tiers⟩ := accepted
    exact ⟨initialized, incomplete, mint, values, ⟨token, quote, real, supply, total⟩,
      ⟨present, few⟩, tiers⟩

theorem listener_buy_iff :
    buy sdk state amount quoteMint = .ok amounts ↔ Bought sdk state amount quoteMint amounts := by
  simp only [buy, bind_eq_ok, official_eq_ok, require_eq_ok, toBigint_eq_ok, pure_eq_ok,
    exists_const, Bought]
  constructor
  · intro accepted
    obtain ⟨amountOut, given, totalCost, priced, cheap, below, covered, _, ⟨range, rfl⟩, _,
      ⟨feeRange, rfl⟩, same⟩ := accepted
    exact ⟨amountOut, totalCost, given, priced, cheap, below, covered, range, feeRange, same⟩
  · intro accepted
    obtain ⟨amountOut, totalCost, given, priced, cheap, below, covered, range, feeRange, same⟩ := accepted
    exact ⟨amountOut, given, totalCost, priced, cheap, below, covered, _, ⟨range, rfl⟩, _,
      ⟨feeRange, rfl⟩, same⟩

theorem listener_sell_iff :
    sell sdk state amount = .ok amounts ↔ Sold sdk state amount amounts := by
  simp only [sell, bind_eq_ok, official_eq_ok, require_eq_ok, toBigint_eq_ok, pure_eq_ok,
    exists_const, Sold]
  constructor
  · intro accepted
    obtain ⟨backed, amountOut, given, covered, _, ⟨range, rfl⟩, _, ⟨feeRange, rfl⟩, same⟩ := accepted
    exact ⟨amountOut, backed, given, covered, range, feeRange, same⟩
  · intro accepted
    obtain ⟨amountOut, backed, given, covered, range, feeRange, same⟩ := accepted
    exact ⟨backed, amountOut, given, covered, _, ⟨range, rfl⟩, _, ⟨feeRange, rfl⟩, same⟩

theorem listener_reverseSell_iff (accepted : Accepted quoteMint state) (amountNonneg : 0 ≤ amount)
    (below : amount < state.curve.virtualTokenReserves) :
    reverseSell sdk state amount = .ok reverse ↔
      Reversed sdk state amount reverse := by
  unfold reverseSell Reversed
  by_cases short : state.curve.realTokenReserves < amount
  · rw [if_pos (Or.inr short), if_pos short, pure_eq_ok, eq_comm]
  · rw [if_neg (by omega), if_neg short]
    have backed := reverseGross_backed amountNonneg below accepted.virtualQuote_pos.le
      accepted.realQuote.1
    have tokens : IsU64 (postBuyCurve state.curve amount).virtualTokenReserves := by
      have range := accepted.virtualToken
      unfold IsU64 postBuyCurve at *
      dsimp only
      omega
    have realTokens : IsU64 (postBuyCurve state.curve amount).realTokenReserves := by
      have range := accepted.realToken
      unfold IsU64 postBuyCurve at *
      dsimp only
      omega
    dsimp only
    rw [if_neg (Int.not_lt.mpr backed)]
    simp only [bind_eq_ok, toBigint_eq_ok, listener_sell_iff, pure_eq_ok]
    constructor
    · intro accepted
      obtain ⟨_, _, _, ⟨quote, _⟩, _, _, _, ⟨real, _⟩, sold, sells, same⟩ := accepted
      exact ⟨quote, real, sold, sells, same.symm⟩
    · intro accepted
      obtain ⟨quote, real, sold, sells, same⟩ := accepted
      exact ⟨_, ⟨tokens, rfl⟩, _, ⟨quote, rfl⟩, _, ⟨realTokens, rfl⟩, _, ⟨real, rfl⟩, sold, sells,
        same.symm⟩

/-- The price impact is defined for every quoted side. -/
theorem priceImpact_ok {side : Side} {amountIn amountOut virtualToken virtualQuote : Int}
    (amount_pos : 0 < amountIn) (token_pos : 0 < virtualToken) (quote_pos : 0 < virtualQuote) :
    ∃ impact, priceImpact side amountIn amountOut virtualToken
      virtualQuote = .ok impact := by
  have lostNonneg : ∀ candidate : Int, 0 ≤ (if candidate > 0 then candidate else 0) * BASIS_POINTS := by
    intro candidate
    unfold BASIS_POINTS
    split <;> omega
  have positive : 0 < (match side with
      | .BUY => amountIn * virtualToken
      | .SELL => amountIn * virtualQuote) := by
    cases side
    · exact mul_pos amount_pos token_pos
    · exact mul_pos amount_pos quote_pos
  simp only [priceImpact, ceilDiv, bind_eq_ok,
    require_eq_ok, pure_eq_ok, exists_const]
  exact ⟨_, _, ⟨⟨lostNonneg _, positive⟩, rfl⟩, rfl⟩

theorem listener_compute_iff {quote : CausalQuote} :
    computePumpFunCausalQuote sdk state request = .ok quote ↔
      ∃ amounts impact reverse, Quoted sdk state request amounts ∧
        priceImpact request.side request.amountInRaw amounts.amountOutRaw
          state.curve.virtualTokenReserves state.curve.virtualQuoteReserves = .ok impact ∧
        reverseOf sdk state request amounts.amountOutRaw = .ok reverse ∧
        ⟨amounts.amountOutRaw, minimumOf amounts request.slippageBps, amounts.feesRaw, impact,
          reverse⟩ = quote := by
  have unchecked : computePumpFunCausalQuote sdk state request = .ok quote ↔
      computePumpFunCausalQuoteUnchecked sdk state request = .ok quote := by
    unfold computePumpFunCausalQuote
    split <;> simp_all
  have sides : ∀ amounts, side sdk state request = .ok amounts ↔
      Priced sdk state request amounts := by
    intro amounts
    unfold side Priced
    cases request.side with
    | BUY => exact listener_buy_iff
    | SELL => exact listener_sell_iff
  rw [unchecked]
  simp only [computePumpFunCausalQuoteUnchecked,
    validateRequest, bind_eq_ok, require_eq_ok,
    listener_validateState_iff, toBigint_eq_ok, sides, pure_eq_ok, exists_const]
  constructor
  · intro accepted
    obtain ⟨⟨⟨positive, fits⟩, slips, whole⟩, accepted, amounts, priced, output, _, ⟨_, rfl⟩, _,
      ⟨_, rfl⟩, impact, measured, reverse, reversed, same⟩ := accepted
    exact ⟨amounts, impact, reverse, ⟨⟨positive, fits, slips, whole⟩, accepted, priced, output⟩,
      measured, reversed, same⟩
  · intro accepted
    obtain ⟨amounts, impact, reverse, ⟨⟨positive, fits, slips, whole⟩, accepted, priced, output⟩,
      measured, reversed, same⟩ := accepted
    exact ⟨⟨⟨positive, fits⟩, slips, whole⟩, accepted, amounts, priced, output, _,
      ⟨accepted.virtualToken, rfl⟩, _, ⟨accepted.virtualQuote, rfl⟩, impact, measured, reverse,
      reversed, same⟩

/-- The part of a quote that depends on the reverse sale. -/
theorem listener_reverseOf_iff (quoted : Quoted sdk state request amounts) :
    reverseOf sdk state request amounts.amountOutRaw = .ok reverse ↔
      match request.side with
      | .BUY => Reversed sdk state amounts.amountOutRaw reverse
      | .SELL => reverse = none := by
  have priced := quoted.priced
  unfold Priced at priced
  unfold reverseOf
  cases asked : request.side with
  | BUY =>
    rw [asked] at priced
    obtain ⟨nonneg, below⟩ := Bought.output priced
    exact listener_reverseSell_iff quoted.accepted nonneg below
  | SELL => exact pure_eq_ok.trans eq_comm

end Listener

/-! ## The executor -/

section Executor

open Source.PumpFunExecutionQuote

theorem executor_toBigint_eq_ok {value : Int} :
    toBigint value = .ok result ↔ IsU64 value ∧ value = result := by
  simp only [toBigint, bind_eq_ok, require_eq_ok, pure_eq_ok, exists_const, IsU64]

theorem executor_official_eq_ok {call : Option Int} :
    official call = .ok result ↔ call = some result := by
  cases call <;> simp [official]

theorem executor_validateFee_eq_ok {fee : Int} :
    validateFee fee = .ok done ↔ FeeAccepted fee := by
  rw [← @validateFee_eq_ok done]
  simp only [validateFee, Source.PumpFunCausalQuote.validateFee, bind_eq_ok, toBigint_eq_ok,
    executor_toBigint_eq_ok, require_eq_ok]

theorem executor_validateTiers_eq_ok :
    validateTiers previous tiers = .ok done ↔ TiersAccepted previous tiers := by
  induction tiers generalizing previous with
  | nil => simp [validateTiers, TiersAccepted]
  | cons tier rest ih =>
    simp only [validateTiers, bind_eq_ok, executor_toBigint_eq_ok, require_eq_ok,
      executor_validateFee_eq_ok, ih, exists_const, TiersAccepted, and_assoc, exists_eq_left',
      exists_and_left]

theorem executor_forM_toBigint_eq_ok {values : List Int} :
    (values.forM fun value => do
      let _ ← toBigint value) = .ok done ↔ ∀ value ∈ values, IsU64 value := by
  rw [forM_eq_ok]
  simp only [bind_eq_ok, executor_toBigint_eq_ok, pure_eq_ok, exists_eq_right', and_true]

theorem executor_validateState_iff :
    validateState state quoteMint = .ok done ↔ Accepted quoteMint state := by
  simp only [validateState, bind_eq_ok, require_eq_ok, executor_forM_toBigint_eq_ok,
    executor_validateTiers_eq_ok, exists_const]
  constructor
  · intro accepted
    obtain ⟨mint, ⟨initialized, incomplete, token, quote, real, supply, total⟩, values,
      ⟨present, few⟩, tiers⟩ := accepted
    exact ⟨initialized, incomplete, mint, values, token, quote, real, supply, total, present, few,
      tiers⟩
  · intro accepted
    obtain ⟨initialized, incomplete, mint, values, token, quote, real, supply, total, present, few,
      tiers⟩ := accepted
    exact ⟨mint, ⟨initialized, incomplete, token, quote, real, supply, total⟩, values,
      ⟨present, few⟩, tiers⟩

theorem executor_buy_iff :
    buy sdk state amount quoteMint = .ok amounts ↔ Bought sdk state amount quoteMint amounts := by
  -- The same tests in the same order, two of them in one.
  rw [← listener_buy_iff]
  simp only [buy, Source.PumpFunCausalQuote.buy, bind_eq_ok, official_eq_ok, executor_official_eq_ok,
    require_eq_ok, toBigint_eq_ok, executor_toBigint_eq_ok, pure_eq_ok, exists_const, and_assoc]
  rfl

theorem executor_sell_iff :
    sell sdk state amount = .ok amounts ↔ Sold sdk state amount amounts := by
  rw [← listener_sell_iff]
  simp only [sell, Source.PumpFunCausalQuote.sell, bind_eq_ok, official_eq_ok, executor_official_eq_ok,
    require_eq_ok, toBigint_eq_ok, executor_toBigint_eq_ok, pure_eq_ok, exists_const]
  rfl

/-- A failed or empty sale is reported as unavailable. -/
theorem executor_reverseSell_iff (below : amount < state.curve.virtualTokenReserves)
    (reversed : Reversed sdk state amount reverse) :
    reverseSell sdk state amount = true ↔
      ∃ sold, reverse = some sold ∧ 0 < sold.amountOutRaw := by
  unfold Reversed at reversed
  unfold reverseSell
  split at reversed
  next short =>
    rw [if_pos (Or.inr short), reversed]
    simp
  next enough =>
    obtain ⟨_, _, sold, sells, rfl⟩ := reversed
    have backed : sellGrossReserveChange (postBuyCurve state.curve amount) amount ≤
        (postBuyCurve state.curve amount).realQuoteReserves := by
      obtain ⟨_, backed, _⟩ := sells
      exact backed
    have sale := executor_sell_iff.mpr sells
    rw [if_neg (by omega)]
    dsimp only
    have unguarded : ¬ sellGross
        (postBuy state.curve amount) amount >
        (postBuy state.curve amount).realQuoteReserves :=
      Int.not_lt.mpr backed
    have result : sell sdk
        { state with curve := postBuy state.curve amount } amount =
        .ok sold := sale
    rw [if_neg unguarded, result]
    simp

theorem executor_compute_iff {quote : ExecutionQuote} (wsol : request.quoteMint = WSOL_MINT) :
    computePumpFunExecutionQuote sdk state request = .ok quote ↔
      ∃ amounts, Quoted sdk state request amounts ∧
        ⟨amounts.amountOutRaw, minimumOf amounts request.slippageBps, amounts.feesRaw,
          decide (request.side ≠ .BUY) ||
            reverseSell sdk state amounts.amountOutRaw⟩ = quote := by
  have unchecked : computePumpFunExecutionQuote sdk state request = .ok quote ↔
      compute sdk state request = .ok quote := by
    unfold computePumpFunExecutionQuote
    split <;> simp_all
  have sides : ∀ amounts, side sdk state request = .ok amounts ↔
      Priced sdk state request amounts := by
    intro amounts
    unfold side Priced
    cases request.side with
    | BUY => exact executor_buy_iff
    | SELL => exact executor_sell_iff
  rw [unchecked]
  simp only [compute, bind_eq_ok, require_eq_ok,
    executor_validateState_iff, sides, pure_eq_ok, exists_const]
  constructor
  · intro accepted
    obtain ⟨_, ⟨positive, fits, slips, whole⟩, accepted, amounts, priced, output, same⟩ := accepted
    exact ⟨amounts, ⟨⟨positive, fits, slips, whole⟩, accepted, priced, output⟩, same⟩
  · intro accepted
    obtain ⟨amounts, ⟨⟨positive, fits, slips, whole⟩, accepted, priced, output⟩, same⟩ := accepted
    exact ⟨wsol, ⟨positive, fits, slips, whole⟩, accepted, amounts, priced, output, same⟩

end Executor

/-! ## The guarantees -/

open Source.PumpFunCausalQuote

/-- For every accepted state and every BUY: the gross proceeds of selling the output back on the curve
after the BUY are at most the gross paid into it, the real quote reserves there back them, and a
reverse sale is only missing because the real token reserves are below the output. -/
theorem buy_roundTrip (sdk : OfficialSdk) (state : DecodedState) (amount : Int) (quoteMint : String)
    (bought : Amounts)
    (accepted : validateState quoteMint state = .ok ())
    (buys : buy sdk state amount quoteMint = .ok bought) :
    sellGrossReserveChange (postBuyCurve state.curve bought.amountOutRaw) bought.amountOutRaw ≤
        buyGrossReserveChange state.curve bought.amountOutRaw ∧
      sellGrossReserveChange (postBuyCurve state.curve bought.amountOutRaw) bought.amountOutRaw ≤
        (postBuyCurve state.curve bought.amountOutRaw).realQuoteReserves ∧
      (reverseSell sdk state bought.amountOutRaw = .ok none →
        state.curve.realTokenReserves < bought.amountOutRaw) := by
  have state_accepted := listener_validateState_iff.mp accepted
  obtain ⟨nonneg, below⟩ := (listener_buy_iff.mp buys).output
  have quote_nonneg := state_accepted.virtualQuote_pos.le
  refine ⟨reverseGross_le nonneg below quote_nonneg,
    reverseGross_backed nonneg below quote_nonneg state_accepted.realQuote.1, ?_⟩
  intro missing
  have reversed := (listener_reverseSell_iff state_accepted nonneg below).mp missing
  unfold Reversed at reversed
  by_contra enough
  rw [if_neg enough] at reversed
  obtain ⟨_, _, sold, _, absent⟩ := reversed
  cases absent

/-- The official formulas without fees. -/
def feelessSdk : OfficialSdk where
  getBuyTokenAmountFromSolAmount := fun _ _ _ curve amount _ =>
    some ((amount - 1) * curve.virtualTokenReserves / (curve.virtualQuoteReserves + (amount - 1)))
  getBuySolAmountFromTokenAmount := fun _ _ _ curve amount _ =>
    some (amount * curve.virtualQuoteReserves / (curve.virtualTokenReserves - amount) + 1)
  getSellSolAmountFromTokenAmount := fun _ _ _ curve amount =>
    some (amount * curve.virtualQuoteReserves / (curve.virtualTokenReserves + amount))

/-- A curve of a thousand tokens with the given quote reserves. -/
def sampleState (virtualQuoteReserves realQuoteReserves : Int) : DecodedState where
  global := ⟨true, 1000, 30, 800, 1000, 0, 0, 30⟩
  feeConfig := ⟨[⟨0, ⟨0, 0, 0⟩⟩]⟩
  curve := ⟨1000, virtualQuoteReserves, 800, realQuoteReserves, 1000, false, WSOL_MINT⟩
  mintSupply := 1000

theorem buy_roundTrip_sample :
    validateState WSOL_MINT (sampleState 3000 0) = .ok () ∧
      buy feelessSdk (sampleState 3000 0) 1001 WSOL_MINT = .ok ⟨250, 0⟩ ∧
      sellGrossReserveChange (postBuyCurve (sampleState 3000 0).curve 250) 250 ≤
        buyGrossReserveChange (sampleState 3000 0).curve 250 := by
  have accepted : validateState WSOL_MINT (sampleState 3000 0) = .ok () := by
    decide +kernel
  have buys : buy feelessSdk (sampleState 3000 0) 1001 WSOL_MINT =
      .ok ⟨250, 0⟩ := by
    decide +kernel
  exact ⟨accepted, buys, (buy_roundTrip feelessSdk (sampleState 3000 0) 1001 WSOL_MINT ⟨250, 0⟩
    accepted buys).1⟩

/-- The reverse sale of a BUY can be computed: the real token reserves forbid it, or the quote reserves
after the BUY are u64 values and the official function prices the sale within its gross. -/
def ReverseQuotable (sdk : OfficialSdk) (state : DecodedState) (amount : Int) : Prop :=
  state.curve.realTokenReserves < amount ∨
    (state.curve.virtualQuoteReserves + buyGrossReserveChange state.curve amount ≤ U64_MAX ∧
      state.curve.realQuoteReserves + buyGrossReserveChange state.curve amount ≤ U64_MAX ∧
      ∃ amountOut, sdk.getSellSolAmountFromTokenAmount state.global state.feeConfig state.mintSupply
          (postBuyCurve state.curve amount) amount = some amountOut ∧
        0 ≤ amountOut ∧
        amountOut ≤ sellGrossReserveChange (postBuyCurve state.curve amount) amount)

theorem reversed_iff_quotable {quoteMint : String} {amount : Int} (accepted : Accepted quoteMint state)
    (amountNonneg : 0 ≤ amount) (below : amount < state.curve.virtualTokenReserves) :
    (∃ reverse, Reversed sdk state amount reverse) ↔ ReverseQuotable sdk state amount := by
  have paid := buyGross_pos amountNonneg below accepted.virtualQuote_pos.le
  have backed := reverseGross_backed amountNonneg below accepted.virtualQuote_pos.le
    accepted.realQuote.1
  have virtual := accepted.virtualQuote
  have real := accepted.realQuote
  unfold Reversed ReverseQuotable
  by_cases short : state.curve.realTokenReserves < amount
  · simp [short]
  · simp only [short, if_false, false_or]
    constructor
    · intro accepted
      obtain ⟨_, quote, reserve, sold, ⟨amountOut, _, given, covered, range, _⟩, _⟩ := accepted
      exact ⟨quote.2, reserve.2, amountOut, given, range.1, covered⟩
    · intro accepted
      obtain ⟨quote, reserve, amountOut, given, nonneg, covered⟩ := accepted
      have quote_range : IsU64 (postBuyCurve state.curve amount).virtualQuoteReserves :=
        ⟨by dsimp only [postBuyCurve]; unfold IsU64 at virtual; omega, quote⟩
      have reserve_range : IsU64 (postBuyCurve state.curve amount).realQuoteReserves :=
        ⟨by dsimp only [postBuyCurve]; unfold IsU64 at real; omega, reserve⟩
      have out_range : IsU64 amountOut :=
        ⟨nonneg, covered.trans (backed.trans reserve)⟩
      have fee_range : IsU64
          (sellGrossReserveChange (postBuyCurve state.curve amount) amount - amountOut) := by
        unfold IsU64 at *
        omega
      exact ⟨_, quote_range, reserve_range, _,
        ⟨amountOut, backed, given, covered, out_range, fee_range, rfl⟩, rfl⟩

/-- The official functions price a side in one way. -/
theorem priced_unique {first second : Amounts} (one : Priced sdk state request first)
    (other : Priced sdk state request second) :
    second = first := by
  unfold Priced at one other
  cases asked : request.side with
  | BUY =>
    rw [asked] at one other
    obtain ⟨_, _, given, priced, _, _, _, _, _, rfl⟩ := one
    obtain ⟨_, _, given', priced', _, _, _, _, _, rfl⟩ := other
    cases given.symm.trans given'
    cases priced.symm.trans priced'
    rfl
  | SELL =>
    rw [asked] at one other
    obtain ⟨_, _, given, _, _, _, rfl⟩ := one
    obtain ⟨_, _, given', _, _, _, rfl⟩ := other
    cases given.symm.trans given'
    rfl

/-- A request of either side against WSOL. -/
def wsolRequest (side : Side) (amountInRaw slippageBps : Int) : QuoteRequest :=
  ⟨WSOL_MINT, side, amountInRaw, slippageBps⟩

/-- A listener's quote is matched by an executor's quote of equal amounts. The executor reports a BUY's
reverse sale as available exactly when the listener quotes it with a positive output, and every SELL's.
The listener refuses what the executor quotes only for a BUY whose reverse sale cannot be computed. -/
theorem causal_execution_agree (sdk : OfficialSdk) (state : DecodedState) (side : Side)
    (amountInRaw slippageBps : Int) :
    (∀ quote, computePumpFunCausalQuote sdk state (wsolRequest side amountInRaw slippageBps) =
        .ok quote →
      ∃ result, computePumpFunExecutionQuote sdk state (wsolRequest side amountInRaw slippageBps) =
          .ok result ∧
        result.expectedAmountOutRaw = quote.amountOutRaw ∧
        result.minimumAmountOutRaw = quote.minimumAmountOutRaw ∧
        result.feesRaw = quote.feesRaw ∧
        (result.reverseSellAvailable = true ↔ side = .SELL ∨
          ∃ reverse, quote.reverseSellQuote = some reverse ∧ 0 < reverse.amountOutRaw)) ∧
    (∀ result, computePumpFunExecutionQuote sdk state (wsolRequest side amountInRaw slippageBps) =
        .ok result →
      ((∃ quote, computePumpFunCausalQuote sdk state (wsolRequest side amountInRaw slippageBps) =
          .ok quote) ↔
        side = .SELL ∨ ReverseQuotable sdk state result.expectedAmountOutRaw)) := by
  constructor
  · intro quote computed
    obtain ⟨amounts, impact, reverse, quoted, _, reversed, rfl⟩ := listener_compute_iff.mp computed
    refine ⟨_, (executor_compute_iff rfl).mpr ⟨amounts, quoted, rfl⟩, rfl, rfl, rfl, ?_⟩
    have sale := (listener_reverseOf_iff quoted).mp reversed
    have priced := quoted.priced
    cases side with
    | BUY =>
      have available := executor_reverseSell_iff (Bought.output priced).2 sale
      simpa [wsolRequest] using available
    | SELL => simp [wsolRequest]
  · intro result computed
    obtain ⟨amounts, quoted, rfl⟩ := (executor_compute_iff rfl).mp computed
    obtain ⟨impact, measured⟩ := @priceImpact_ok side amountInRaw amounts.amountOutRaw
      state.curve.virtualTokenReserves state.curve.virtualQuoteReserves quoted.requested.amount_pos
      quoted.accepted.virtualToken_pos quoted.accepted.virtualQuote_pos
    have refused : (∃ quote, computePumpFunCausalQuote sdk state
        (wsolRequest side amountInRaw slippageBps) = .ok quote) ↔
        ∃ reverse, reverseOf sdk state
          (wsolRequest side amountInRaw slippageBps) amounts.amountOutRaw = .ok reverse := by
      constructor
      · intro accepted
        obtain ⟨quote, computedQuote⟩ := accepted
        obtain ⟨others, _, reverse, sameQuoted, _, reversed, _⟩ :=
          listener_compute_iff.mp computedQuote
        exact ⟨reverse, priced_unique quoted.priced sameQuoted.priced ▸ reversed⟩
      · intro accepted
        obtain ⟨reverse, reversed⟩ := accepted
        exact ⟨_, listener_compute_iff.mpr
          ⟨amounts, impact, reverse, quoted, measured, reversed, rfl⟩⟩
    rw [refused]
    simp only [listener_reverseOf_iff quoted]
    have priced := quoted.priced
    cases side with
    | BUY =>
      obtain ⟨nonneg, below⟩ := Bought.output priced
      have quotable := @reversed_iff_quotable sdk state _ amounts.amountOutRaw quoted.accepted nonneg
        below
      simpa [wsolRequest] using quotable
    | SELL => simp [wsolRequest]

/-- A BUY that takes the virtual quote reserves past u64 is quoted by the executor, with its reverse
sale, and refused by the listener; a SELL's reverse sale is reported and not quoted. -/
theorem quotes_part :
    (computePumpFunCausalQuote feelessSdk (sampleState U64_MAX 0) (wsolRequest .BUY U64_MAX 0) =
        .error ⟨.QUOTE_STATE_INCONSISTENT,
          "La valeur postBuy.virtualQuoteReserves est hors plage u64."⟩ ∧
      computePumpFunExecutionQuote feelessSdk (sampleState U64_MAX 0) (wsolRequest .BUY U64_MAX 0) =
        .ok ⟨499, 499, 0, true⟩) ∧
    computePumpFunCausalQuote feelessSdk (sampleState 3000 3000) (wsolRequest .SELL 500 100) =
        .ok ⟨1000, 990, 0, 3334, none⟩ ∧
      computePumpFunExecutionQuote feelessSdk (sampleState 3000 3000) (wsolRequest .SELL 500 100) =
        .ok ⟨1000, 990, 0, true⟩ := by
  decide +kernel

end SolTokenListener.Guarantees.PumpFunQuotes
