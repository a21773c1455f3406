import SolTokenListener.Source.PumpFunCausalQuote

/-!
# Pump.fun quotes of the executor

`src/executor-simulation/pumpfun-quote.ts`, lines 77–192 and 220–252, from the decoded accounts on.
The decoded accounts, the SDK and the request are those of the listener's quote; the computation is
this file's own. The same parts are left out: the checks of the accounts and of their mint.
-/

namespace SolTokenListener.Source.PumpFunExecutionQuote

open Lib.Checked
open Source.PumpFunCausalQuote (DecodedState OfficialSdk Side QuoteRequest Amounts
  BondingCurve FeeTier FeeConfig U64_MAX BASIS_POINTS DEFAULT_PUBLIC_KEY WSOL_MINT)

inductive PumpFunExecutionQuoteErrorCode
  | QUOTE_MINT_NOT_ALLOWED
  | SELL_QUOTE_UNAVAILABLE
  | UNSUPPORTED_TOKEN_EXTENSION
  | EXECUTION_EVIDENCE_INVALID
deriving DecidableEq

/-- A quote error by its code, or what the SDK throws. -/
inductive Exception
  | quote (code : PumpFunExecutionQuoteErrorCode)
  | foreign
deriving DecidableEq

abbrev Unchecked := Except Exception

def invalid : Exception := .quote .EXECUTION_EVIDENCE_INVALID

def quoteMintRejected : Exception := .quote .QUOTE_MINT_NOT_ALLOWED

def sellUnavailable : Exception := .quote .SELL_QUOTE_UNAVAILABLE

/-- A call of the SDK. -/
def official : Option Int → Unchecked Int
  | some value => .ok value
  | none => .error .foreign

def toBigint (value : Int) : Unchecked Int := do
  require (0 ≤ value ∧ value ≤ U64_MAX) invalid
  return value

/-! ## Validation -/

def validateFee (fee : Int) : Unchecked Unit := do
  let value ← toBigint fee
  require (value ≤ BASIS_POINTS) invalid

def validateTiers (previous : Option Int) : List FeeTier → Unchecked Unit
  | [] => return
  | tier :: rest => do
    let threshold ← toBigint tier.marketCapLamportsThreshold
    require (previous.all (· < threshold)) invalid
    validateFee tier.fees.lpFeeBps
    validateFee tier.fees.protocolFeeBps
    validateFee tier.fees.creatorFeeBps
    validateTiers (some threshold) rest

variable (sdk : OfficialSdk) (state : DecodedState) (amount : Int)

def validateState (quoteMint : String) : Unchecked Unit := do
  require ((state.curve.quoteMint = DEFAULT_PUBLIC_KEY ∧ quoteMint = WSOL_MINT) ∨
    state.curve.quoteMint = quoteMint) quoteMintRejected
  require (state.global.initialized = true ∧ state.curve.complete = false ∧
    0 < state.curve.virtualTokenReserves ∧ 0 < state.curve.virtualQuoteReserves ∧
    0 < state.curve.realTokenReserves ∧ 0 < state.mintSupply ∧
    state.curve.tokenTotalSupply = state.mintSupply) invalid
  [state.global.initialVirtualTokenReserves, state.global.initialVirtualSolReserves,
    state.global.initialRealTokenReserves, state.global.tokenTotalSupply,
    state.global.feeBasisPoints, state.global.creatorFeeBasisPoints,
    state.global.initialVirtualQuoteReserves, state.curve.virtualTokenReserves,
    state.curve.virtualQuoteReserves, state.curve.realTokenReserves,
    state.curve.realQuoteReserves, state.curve.tokenTotalSupply, state.mintSupply].forM
      fun value => do
        let _ ← toBigint value
  require (state.feeConfig.feeTiers ≠ [] ∧ state.feeConfig.feeTiers.length ≤ 256) invalid
  validateTiers none state.feeConfig.feeTiers

/-! ## Amounts -/

/-- What enters the curve for an output of `amount` tokens. -/
def buyGross (curve : BondingCurve) (amount : Int) : Int :=
  (amount * curve.virtualQuoteReserves).tdiv (curve.virtualTokenReserves - amount) + 1

/-- What leaves the curve for an input of `amount` tokens. -/
def sellGross (curve : BondingCurve) (amount : Int) : Int :=
  (amount * curve.virtualQuoteReserves).tdiv (curve.virtualTokenReserves + amount)

def buy (quoteMint : String) : Unchecked Amounts := do
  let amountOut ← official (sdk.getBuyTokenAmountFromSolAmount state.global state.feeConfig
    state.mintSupply state.curve amount quoteMint)
  let totalCost ← official (sdk.getBuySolAmountFromTokenAmount state.global state.feeConfig
    state.mintSupply state.curve amountOut quoteMint)
  require (totalCost ≤ amount ∧ amountOut < state.curve.virtualTokenReserves) invalid
  let gross := buyGross state.curve amountOut
  require (gross ≤ totalCost) invalid
  let amountOutRaw ← toBigint amountOut
  let feesRaw ← toBigint (totalCost - gross)
  return ⟨amountOutRaw, feesRaw⟩

def sell : Unchecked Amounts := do
  let gross := sellGross state.curve amount
  require (gross ≤ state.curve.realQuoteReserves) sellUnavailable
  let amountOut ← official (sdk.getSellSolAmountFromTokenAmount state.global state.feeConfig
    state.mintSupply state.curve amount)
  require (amountOut ≤ gross) invalid
  let amountOutRaw ← toBigint amountOut
  let feesRaw ← toBigint (gross - amountOut)
  return ⟨amountOutRaw, feesRaw⟩

def postBuy (curve : BondingCurve) (amount : Int) : BondingCurve :=
  { curve with
    virtualTokenReserves := curve.virtualTokenReserves - amount
    virtualQuoteReserves := curve.virtualQuoteReserves + buyGross curve amount
    realTokenReserves := curve.realTokenReserves - amount
    realQuoteReserves := curve.realQuoteReserves + buyGross curve amount }

/-- Whether the bought tokens can be sold on the curve after the BUY; a failure counts as no. -/
def reverseSell : Bool :=
  if state.curve.virtualTokenReserves ≤ amount ∨ state.curve.realTokenReserves < amount then false
  else
    let curve := postBuy state.curve amount
    if sellGross curve amount > curve.realQuoteReserves then false
    else
      match sell sdk { state with curve := curve } amount with
      | .ok result => decide (0 < result.amountOutRaw)
      | .error _ => false

/-! ## The quote -/

structure ExecutionQuote where
  expectedAmountOutRaw : Int
  minimumAmountOutRaw : Int
  feesRaw : Int
  reverseSellAvailable : Bool
deriving DecidableEq

def side (request : QuoteRequest) : Unchecked Amounts :=
  match request.side with
  | .BUY => buy sdk state request.amountInRaw request.quoteMint
  | .SELL => sell sdk state request.amountInRaw

def compute (request : QuoteRequest) : Unchecked ExecutionQuote := do
  require (request.quoteMint = WSOL_MINT) quoteMintRejected
  require (0 < request.amountInRaw ∧ request.amountInRaw ≤ U64_MAX ∧
    0 ≤ request.slippageBps ∧ request.slippageBps ≤ BASIS_POINTS) invalid
  validateState state request.quoteMint
  let result ← side sdk state request
  require (0 < result.amountOutRaw) invalid
  let minimumAmountOutRaw :=
    (result.amountOutRaw * (BASIS_POINTS - request.slippageBps)).tdiv BASIS_POINTS
  let reverseSellAvailable :=
    decide (request.side ≠ .BUY) || reverseSell sdk state result.amountOutRaw
  return ⟨result.amountOutRaw, minimumAmountOutRaw, result.feesRaw, reverseSellAvailable⟩

/-- What is not a quote error becomes one. -/
def computePumpFunExecutionQuote (request : QuoteRequest) :
    Except PumpFunExecutionQuoteErrorCode ExecutionQuote :=
  match compute sdk state request with
  | .ok quote => .ok quote
  | .error (.quote code) => .error code
  | .error .foreign => .error .EXECUTION_EVIDENCE_INVALID

end SolTokenListener.Source.PumpFunExecutionQuote
