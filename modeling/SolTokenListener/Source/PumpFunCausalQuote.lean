import SolTokenListener.Lib.Checked

/-!
# Pump.fun quotes of the listener

`src/launchpads/pumpfun/causal-quote.ts`, lines 103–290 and 327–473, from the decoded accounts on: the
checks of the request and of the state, the two sides of a quote, its price impact and the quote of
selling back what a BUY gives. The curve's big numbers are integers, with the truncated division of
`bn.js`; every divisor is positive where a division is reached. The official SDK is a parameter: of
what it reads only the fields this file checks are kept, and a call may throw. Left out are the
checks of the accounts themselves (addresses, owners, slot, mint extensions), the observation time,
the asset's token program and decimals, and the quote's identifier and echoed fields.
-/

namespace SolTokenListener.Source.PumpFunCausalQuote

open Lib.Checked

def U64_MAX : Int := 18446744073709551615

def BASIS_POINTS : Int := 10000

def DEFAULT_PUBLIC_KEY : String := "11111111111111111111111111111111"

def WSOL_MINT : String := "So11111111111111111111111111111111111111112"

/-! ## The decoded accounts -/

structure Global where
  initialized : Bool
  initialVirtualTokenReserves : Int
  initialVirtualSolReserves : Int
  initialRealTokenReserves : Int
  tokenTotalSupply : Int
  feeBasisPoints : Int
  creatorFeeBasisPoints : Int
  initialVirtualQuoteReserves : Int
deriving DecidableEq

structure Fees where
  lpFeeBps : Int
  protocolFeeBps : Int
  creatorFeeBps : Int
deriving DecidableEq

structure FeeTier where
  marketCapLamportsThreshold : Int
  fees : Fees
deriving DecidableEq

structure FeeConfig where
  feeTiers : List FeeTier
deriving DecidableEq

structure BondingCurve where
  virtualTokenReserves : Int
  virtualQuoteReserves : Int
  realTokenReserves : Int
  realQuoteReserves : Int
  tokenTotalSupply : Int
  complete : Bool
  quoteMint : String
deriving DecidableEq

/-- The accounts of a quote after decoding; the mint contributes its supply. -/
structure DecodedState where
  global : Global
  feeConfig : FeeConfig
  curve : BondingCurve
  mintSupply : Int

/-- The functions of the official SDK; `none` is a call that throws. -/
structure OfficialSdk where
  getBuyTokenAmountFromSolAmount :
    Global → FeeConfig → Int → BondingCurve → Int → String → Option Int
  getBuySolAmountFromTokenAmount :
    Global → FeeConfig → Int → BondingCurve → Int → String → Option Int
  getSellSolAmountFromTokenAmount : Global → FeeConfig → Int → BondingCurve → Int → Option Int

inductive Side
  | BUY
  | SELL
deriving DecidableEq

structure QuoteRequest where
  quoteMint : String
  side : Side
  amountInRaw : Int
  slippageBps : Int

/-- An output and the fees kept of it. -/
structure Amounts where
  amountOutRaw : Int
  feesRaw : Int
deriving DecidableEq

/-! ## Errors -/

inductive PumpFunCausalQuoteErrorCode
  | QUOTE_STATE_UNAVAILABLE
  | QUOTE_STATE_INCONSISTENT
  | UNSUPPORTED_QUOTE_MINT
  | UNSUPPORTED_TOKEN_EXTENSION
deriving DecidableEq

structure PumpFunCausalQuoteError where
  code : PumpFunCausalQuoteErrorCode
  message : String
deriving DecidableEq

/-- A quote error, or what the SDK throws. -/
inductive Exception
  | quote (error : PumpFunCausalQuoteError)
  | foreign
deriving DecidableEq

abbrev Unchecked := Except Exception

def inconsistent (message : String) : Exception :=
  .quote ⟨.QUOTE_STATE_INCONSISTENT, message⟩

def unsupportedQuote : Exception :=
  .quote ⟨.UNSUPPORTED_QUOTE_MINT,
    "Le quote mint n’est pas supporté par cette bonding curve Pump.fun."⟩

/-- A call of the SDK. -/
def official : Option Int → Unchecked Int
  | some value => .ok value
  | none => .error .foreign

def toBigint (value : Int) (field : String) : Unchecked Int := do
  require (0 ≤ value) (inconsistent ("La valeur " ++ field ++ " est invalide."))
  require (value ≤ U64_MAX) (inconsistent ("La valeur " ++ field ++ " est hors plage u64."))
  return value

/-! ## Validation -/

def validateRequest (request : QuoteRequest) : Unchecked Unit := do
  require (0 < request.amountInRaw ∧ request.amountInRaw ≤ U64_MAX)
    (inconsistent "Le montant de cotation est hors plage u64.")
  require (0 ≤ request.slippageBps ∧ request.slippageBps ≤ BASIS_POINTS)
    (inconsistent "Le slippage de cotation est hors bornes.")

def validateFee (fee : Int) : Unchecked Unit := do
  let value ← toBigint fee "feeBps"
  require (value ≤ BASIS_POINTS) (inconsistent "Les frais Pump.fun sont hors bornes.")

def validateTiers (previous : Option Int) : List FeeTier → Unchecked Unit
  | [] => return
  | tier :: rest => do
    let threshold ← toBigint tier.marketCapLamportsThreshold "feeThreshold"
    require (previous.all (· < threshold))
      (inconsistent "Les paliers de frais Pump.fun sont incohérents.")
    validateFee tier.fees.lpFeeBps
    validateFee tier.fees.protocolFeeBps
    validateFee tier.fees.creatorFeeBps
    validateTiers (some threshold) rest

def validateFeeConfig (feeConfig : FeeConfig) : Unchecked Unit := do
  require (feeConfig.feeTiers ≠ [] ∧ feeConfig.feeTiers.length ≤ 256)
    (inconsistent "La configuration de frais Pump.fun est invalide.")
  validateTiers none feeConfig.feeTiers

variable (sdk : OfficialSdk) (state : DecodedState) (amount : Int)

/-- The numbers of a state that have to be u64 values. -/
def stateValues : List Int :=
  [state.global.initialVirtualTokenReserves, state.global.initialVirtualSolReserves,
    state.global.initialRealTokenReserves, state.global.tokenTotalSupply,
    state.global.feeBasisPoints, state.global.creatorFeeBasisPoints,
    state.global.initialVirtualQuoteReserves, state.curve.virtualTokenReserves,
    state.curve.virtualQuoteReserves, state.curve.realTokenReserves,
    state.curve.realQuoteReserves, state.curve.tokenTotalSupply, state.mintSupply]

def validateState (quoteMint : String) (state : DecodedState) : Unchecked Unit := do
  require (state.global.initialized = true)
    (inconsistent "Le compte global Pump.fun n’est pas initialisé.")
  require (state.curve.complete = false) (inconsistent "La bonding curve Pump.fun est complète.")
  require ((state.curve.quoteMint = DEFAULT_PUBLIC_KEY ∧ quoteMint = WSOL_MINT) ∨
    state.curve.quoteMint = quoteMint) unsupportedQuote
  (stateValues state).zipIdx.forM fun (value, index) => do
    let _ ← toBigint value ("state" ++ toString index)
  require (0 < state.curve.virtualTokenReserves ∧ 0 < state.curve.virtualQuoteReserves ∧
      0 < state.curve.realTokenReserves ∧ 0 < state.mintSupply ∧
      state.curve.tokenTotalSupply = state.mintSupply)
    (inconsistent "Les réserves Pump.fun sont incohérentes.")
  validateFeeConfig state.feeConfig

/-! ## Amounts -/

/-- What enters the curve for an output of `amount` tokens. -/
def buyGrossReserveChange (curve : BondingCurve) (amount : Int) : Int :=
  (amount * curve.virtualQuoteReserves).tdiv (curve.virtualTokenReserves - amount) + 1

/-- What leaves the curve for an input of `amount` tokens. -/
def sellGrossReserveChange (curve : BondingCurve) (amount : Int) : Int :=
  (amount * curve.virtualQuoteReserves).tdiv (curve.virtualTokenReserves + amount)

def postBuyCurve (curve : BondingCurve) (amount : Int) : BondingCurve :=
  { curve with
    virtualTokenReserves := curve.virtualTokenReserves - amount
    virtualQuoteReserves := curve.virtualQuoteReserves + buyGrossReserveChange curve amount
    realTokenReserves := curve.realTokenReserves - amount
    realQuoteReserves := curve.realQuoteReserves + buyGrossReserveChange curve amount }

def buy (quoteMint : String) : Unchecked Amounts := do
  let amountOut ← official (sdk.getBuyTokenAmountFromSolAmount state.global state.feeConfig
    state.mintSupply state.curve amount quoteMint)
  let totalCost ← official (sdk.getBuySolAmountFromTokenAmount state.global state.feeConfig
    state.mintSupply state.curve amountOut quoteMint)
  require (totalCost ≤ amount) (inconsistent "Le coût BUY officiel dépasse le montant demandé.")
  require (amountOut < state.curve.virtualTokenReserves)
    (inconsistent "La réserve token virtuelle est insuffisante.")
  let grossReserveChange := buyGrossReserveChange state.curve amountOut
  require (grossReserveChange ≤ totalCost)
    (inconsistent "Les frais BUY officiels sont incohérents.")
  let amountOutRaw ← toBigint amountOut "buyAmountOut"
  let feesRaw ← toBigint (totalCost - grossReserveChange) "buyFees"
  return ⟨amountOutRaw, feesRaw⟩

def sell : Unchecked Amounts := do
  let grossReserveChange := sellGrossReserveChange state.curve amount
  require (grossReserveChange ≤ state.curve.realQuoteReserves)
    (inconsistent "La réserve quote réelle est insuffisante pour vendre.")
  let amountOut ← official (sdk.getSellSolAmountFromTokenAmount state.global state.feeConfig
    state.mintSupply state.curve amount)
  require (amountOut ≤ grossReserveChange)
    (inconsistent "Les frais SELL officiels sont incohérents.")
  let amountOutRaw ← toBigint amountOut "sellAmountOut"
  let feesRaw ← toBigint (grossReserveChange - amountOut) "sellFees"
  return ⟨amountOutRaw, feesRaw⟩

/-- The sale of the bought tokens on the curve after the BUY; `none` where the reserves forbid it. -/
def reverseSell : Unchecked (Option Amounts) :=
  if state.curve.virtualTokenReserves ≤ amount ∨ state.curve.realTokenReserves < amount then
    return none
  else do
    let postBuy := postBuyCurve state.curve amount
    let _ ← toBigint postBuy.virtualTokenReserves "postBuy.virtualTokenReserves"
    let _ ← toBigint postBuy.virtualQuoteReserves "postBuy.virtualQuoteReserves"
    let _ ← toBigint postBuy.realTokenReserves "postBuy.realTokenReserves"
    let _ ← toBigint postBuy.realQuoteReserves "postBuy.realQuoteReserves"
    if sellGrossReserveChange postBuy amount > postBuy.realQuoteReserves then return none
    else do
      let result ← sell sdk { state with curve := postBuy } amount
      return some result

/-! ## The quote -/

def ceilDiv (numerator denominator : Int) : Unchecked Int := do
  require (0 ≤ numerator ∧ 0 < denominator) (inconsistent "Une division de cotation est invalide.")
  return if numerator = 0 then 0 else (numerator + denominator - 1).tdiv denominator

def priceImpact (side : Side) (amountInRaw amountOutRaw virtualTokenReservesRaw
    virtualQuoteReservesRaw : Int) : Unchecked Int := do
  let spotNumerator := match side with
    | .BUY => amountInRaw * virtualTokenReservesRaw
    | .SELL => amountInRaw * virtualQuoteReservesRaw
  let spotDenominator := match side with
    | .BUY => virtualQuoteReservesRaw
    | .SELL => virtualTokenReservesRaw
  let candidate := spotNumerator - amountOutRaw * spotDenominator
  let lost := if candidate > 0 then candidate else 0
  let impact ← ceilDiv (lost * BASIS_POINTS) spotNumerator
  return if impact > BASIS_POINTS then BASIS_POINTS else impact

structure CausalQuote where
  amountOutRaw : Int
  minimumAmountOutRaw : Int
  feesRaw : Int
  priceImpactBps : Int
  reverseSellQuote : Option Amounts
deriving DecidableEq

def side (request : QuoteRequest) : Unchecked Amounts :=
  match request.side with
  | .BUY => buy sdk state request.amountInRaw request.quoteMint
  | .SELL => sell sdk state request.amountInRaw

def reverseOf (request : QuoteRequest) (amountOutRaw : Int) : Unchecked (Option Amounts) :=
  match request.side with
  | .BUY => reverseSell sdk state amountOutRaw
  | .SELL => return none

def computePumpFunCausalQuoteUnchecked (request : QuoteRequest) : Unchecked CausalQuote := do
  validateRequest request
  validateState request.quoteMint state
  let result ← side sdk state request
  require (0 < result.amountOutRaw) (inconsistent "La cotation produit une sortie nulle.")
  let minimumAmountOutRaw :=
    (result.amountOutRaw * (BASIS_POINTS - request.slippageBps)).tdiv BASIS_POINTS
  let virtualTokenReservesRaw ← toBigint state.curve.virtualTokenReserves "virtualTokenReserves"
  let virtualQuoteReservesRaw ← toBigint state.curve.virtualQuoteReserves "virtualQuoteReserves"
  let priceImpactBps ← priceImpact request.side request.amountInRaw result.amountOutRaw
    virtualTokenReservesRaw virtualQuoteReservesRaw
  let reverseSellQuote ← reverseOf sdk state request result.amountOutRaw
  return ⟨result.amountOutRaw, minimumAmountOutRaw, result.feesRaw, priceImpactBps,
    reverseSellQuote⟩

/-- What is not a quote error becomes one. -/
def computePumpFunCausalQuote (request : QuoteRequest) :
    Except PumpFunCausalQuoteError CausalQuote :=
  match computePumpFunCausalQuoteUnchecked sdk state request with
  | .ok quote => .ok quote
  | .error (.quote error) => .error error
  | .error .foreign => .error ⟨.QUOTE_STATE_INCONSISTENT,
      "Les comptes de cotation Pump.fun ne peuvent pas être validés."⟩

end SolTokenListener.Source.PumpFunCausalQuote
