import SolTokenListener.Source.Chain

/-!
# PumpSwap quotes

Source: src/markets/pumpswap/pumpswap-quote.provider.ts:11-248. Of a pool and of its reserves, the
fields the quote reads. A bigint has no bound, and its division truncates and throws a `RangeError`
on zero: that exception is part of the model, so that a refusal can be told from it. SHA-256 and the
JSON text of an array of strings are parameters.
-/

namespace SolTokenListener.Source.PumpSwapQuote

open Lib.Checked
open Source.Chain (isSafeInteger)

structure CanonicalMarketPool where
  address : String
  baseMint : String
  quoteMint : String
  deriving DecidableEq, Repr

structure MarketReserves where
  pool : String
  baseReservesRaw : Int
  quoteVaultAmountRaw : Int
  effectiveQuoteReservesRaw : Int
  observedSlot : Int
  deriving DecidableEq, Repr

structure PumpSwapQuoteRequest where
  pool : CanonicalMarketPool
  reserves : MarketReserves
  inputMint : String
  amountInRaw : Int
  slippageBps : Int
  deriving DecidableEq, Repr

/-- What `selectFees` picks of a tier or of the state. -/
structure FeeRates where
  lpFeeBps : Int
  protocolFeeBps : Int
  creatorFeeBps : Int
  deriving DecidableEq, Repr

structure PumpSwapFeeTier extends FeeRates where
  marketCapThresholdRaw : Int
  deriving DecidableEq, Repr

structure PumpSwapFeeState extends FeeRates where
  creatorFeeEnabled : Bool
  baseMintSupplyRaw : Int
  tiers : List PumpSwapFeeTier
  observedSlot : Int
  deriving DecidableEq, Repr

structure MarketQuote where
  id : String
  pool : String
  inputMint : String
  outputMint : String
  amountInRaw : Int
  amountOutRaw : Int
  minimumAmountOutRaw : Int
  feesRaw : Int
  slippageBps : Int
  priceImpactBps : Int
  /-- `none` is a number that is no integer. -/
  observedAtMs : Option Int
  observedSlot : Int
  deriving DecidableEq, Repr

/-- The quote error and its subclass, and what a bigint division throws. -/
inductive QuoteException where
  | invalidPumpSwapQuote (message : String)
  | sellQuoteUnavailable (pool : String)
  | rangeError
  deriving DecidableEq, Repr

def QuoteException.message : QuoteException → String
  | .invalidPumpSwapQuote message => message
  | .sellQuoteUnavailable pool => "Réserves quote réelles insuffisantes pour " ++ pool ++ "."
  | .rangeError => "Division by zero"

/-- `instanceof InvalidPumpSwapQuoteError`. -/
def QuoteException.isQuoteError : QuoteException → Bool
  | .invalidPumpSwapQuote _ | .sellQuoteUnavailable _ => true
  | .rangeError => false

abbrev Quoted := Except QuoteException

def refuse {α : Type} (message : String) : Quoted α := throw (.invalidPumpSwapQuote message)

/-- Throw the quote error unless the condition holds. -/
def accept (condition : Prop) [Decidable condition] (message : String) : Quoted Unit :=
  require condition (.invalidPumpSwapQuote message)

/-- `numerator / denominator` on bigints. -/
def bigintDiv (numerator denominator : Int) : Quoted Int :=
  if denominator = 0 then throw .rangeError else return numerator.tdiv denominator

/-! ## Validation -/

variable (request : PumpSwapQuoteRequest) (state : PumpSwapFeeState) (rates : FeeRates)

def validateRates : Quoted Unit :=
  accept ((0 ≤ rates.lpFeeBps ∧ rates.lpFeeBps ≤ 10000) ∧
    (0 ≤ rates.protocolFeeBps ∧ rates.protocolFeeBps ≤ 10000) ∧
    (0 ≤ rates.creatorFeeBps ∧ rates.creatorFeeBps ≤ 10000)) "Frais hors bornes."

def validateTiers (previousThreshold : Option Int) : List PumpSwapFeeTier → Quoted Unit
  | [] => return
  | tier :: rest => do
    validateRates tier.toFeeRates
    accept (0 ≤ tier.marketCapThresholdRaw ∧
      previousThreshold.all (· < tier.marketCapThresholdRaw)) "Paliers de frais non canoniques."
    validateTiers (some tier.marketCapThresholdRaw) rest

def validate (observedAtMs : Option Int) : Quoted Unit := do
  accept (request.inputMint = request.pool.baseMint ∨ request.inputMint = request.pool.quoteMint)
    "Mint d’entrée hors pool."
  accept (request.reserves.pool = request.pool.address) "Réserves d’un autre pool."
  accept (0 < request.amountInRaw ∧ 0 < request.reserves.baseReservesRaw ∧
    0 < request.reserves.effectiveQuoteReservesRaw) "Montants de quote invalides."
  accept (0 ≤ request.slippageBps ∧ request.slippageBps ≤ 10000) "Slippage hors bornes."
  accept (observedAtMs.any (fun value => isSafeInteger value ∧ 0 ≤ value) ∧
    0 ≤ state.observedSlot ∧ 0 ≤ state.baseMintSupplyRaw) "Observation non canonique."
  validateRates state.toFeeRates
  validateTiers none state.tiers

/-! ## Fees -/

def ceilDiv (numerator denominator : Int) : Quoted Int :=
  if numerator < 0 ∨ denominator ≤ 0 then refuse "Division entière invalide."
  else if numerator = 0 then return 0
  else bigintDiv (numerator + denominator - 1) denominator

def fee (amountRaw basisPoints : Int) : Quoted Int := ceilDiv (amountRaw * basisPoints) 10000

/-- The three fees of an amount. -/
def totalFees (amountRaw : Int) : Quoted Int := do
  let lp ← fee amountRaw rates.lpFeeBps
  let protocol ← fee amountRaw rates.protocolFeeBps
  let creator ← fee amountRaw rates.creatorFeeBps
  return lp + protocol + creator

def selectFees : Quoted FeeRates :=
  if state.tiers = [] then return state.toFeeRates
  else do
    let marketCapRaw ← bigintDiv
      (state.baseMintSupplyRaw * request.reserves.effectiveQuoteReservesRaw)
      request.reserves.baseReservesRaw
    let reached := state.tiers.filter (·.marketCapThresholdRaw ≤ marketCapRaw)
    return ((reached.getLast?.or state.tiers.head?).map (·.toFeeRates)).getD state.toFeeRates

/-! ## Trades -/

structure TradeResult where
  amountOutRaw : Int
  feesRaw : Int
  deriving DecidableEq, Repr

/-- The input a BUY prices, with its fees: brought down when rounding made it cost too much. -/
def effectiveQuote (amountInRaw : Int) (rates : FeeRates) : Quoted (Int × Int) := do
  let totalFeeBps := rates.lpFeeBps + rates.protocolFeeBps + rates.creatorFeeBps
  let effectiveQuoteRaw ← bigintDiv (amountInRaw * 10000) (10000 + totalFeeBps)
  let feesRaw ← totalFees rates effectiveQuoteRaw
  if amountInRaw < effectiveQuoteRaw + feesRaw then do
    let lowered := effectiveQuoteRaw - (effectiveQuoteRaw + feesRaw - amountInRaw)
    let loweredFees ← totalFees rates lowered
    return (lowered, loweredFees)
  else return (effectiveQuoteRaw, feesRaw)

def buy : Quoted TradeResult := do
  let (effectiveQuoteRaw, feesRaw) ← effectiveQuote request.amountInRaw rates
  accept (1 < effectiveQuoteRaw) "Montant quote trop faible."
  let input := effectiveQuoteRaw - 1
  let amountOutRaw ← bigintDiv (request.reserves.baseReservesRaw * input)
    (request.reserves.effectiveQuoteReservesRaw + input)
  accept (0 < amountOutRaw) "Sortie base nulle."
  return ⟨amountOutRaw, feesRaw⟩

def sell : Quoted TradeResult := do
  let grossQuoteRaw ← bigintDiv
    (request.reserves.effectiveQuoteReservesRaw * request.amountInRaw)
    (request.reserves.baseReservesRaw + request.amountInRaw)
  let lpFeeRaw ← fee grossQuoteRaw rates.lpFeeBps
  let protocolFeeRaw ← fee grossQuoteRaw rates.protocolFeeBps
  let creatorFeeRaw ← fee grossQuoteRaw rates.creatorFeeBps
  let feesRaw := lpFeeRaw + protocolFeeRaw + creatorFeeRaw
  if request.reserves.quoteVaultAmountRaw < grossQuoteRaw - lpFeeRaw then
    throw (.sellQuoteUnavailable request.pool.address)
  else do
    accept (0 < grossQuoteRaw - feesRaw) "Sortie quote nulle."
    return ⟨grossQuoteRaw - feesRaw, feesRaw⟩

def impact (inputIsQuote : Bool) (amountInRaw amountOutRaw baseReserveRaw effectiveQuoteReserveRaw : Int) :
    Quoted Int := do
  let spotNumerator :=
    if inputIsQuote then amountInRaw * baseReserveRaw else amountInRaw * effectiveQuoteReserveRaw
  let spotDenominator := if inputIsQuote then effectiveQuoteReserveRaw else baseReserveRaw
  let lost := max (spotNumerator - amountOutRaw * spotDenominator) 0
  let value ← ceilDiv (lost * 10000) spotNumerator
  return min value 10000

/-! ## The quote -/

structure QuoteLibraries where
  sha256Hex : String → String
  jsonStringify : List String → String

/-- The rates a quote charges: the creator's only when enabled, at most everything. -/
def chargedRates : Quoted FeeRates := do
  let fees ← selectFees request state
  let rates := { fees with creatorFeeBps := if state.creatorFeeEnabled then fees.creatorFeeBps else 0 }
  accept (rates.lpFeeBps + rates.protocolFeeBps + rates.creatorFeeBps ≤ 10000)
    "Somme des frais supérieure à 100%."
  return rates

def PumpSwapQuoteRequest.inputIsQuote : Bool :=
  request.inputMint = request.pool.quoteMint

def trade : Quoted TradeResult :=
  if request.inputIsQuote then buy request rates else sell request rates

def createPumpSwapQuote (libraries : QuoteLibraries) (request : PumpSwapQuoteRequest)
    (state : PumpSwapFeeState) (observedAtMs : Option Int) : Quoted MarketQuote := do
  validate request state observedAtMs
  let rates ← chargedRates request state
  let result ← trade request rates
  let minimumAmountOutRaw ← bigintDiv (result.amountOutRaw * (10000 - request.slippageBps)) 10000
  let priceImpactBps ← impact request.inputIsQuote request.amountInRaw result.amountOutRaw
    request.reserves.baseReservesRaw request.reserves.effectiveQuoteReservesRaw
  let identity := libraries.jsonStringify [request.pool.address, request.inputMint,
    toString request.amountInRaw, toString request.slippageBps,
    toString request.reserves.observedSlot, toString state.observedSlot]
  return {
    id := "quote_" ++ libraries.sha256Hex identity
    pool := request.pool.address
    inputMint := request.inputMint
    outputMint := if request.inputIsQuote then request.pool.baseMint else request.pool.quoteMint
    amountInRaw := request.amountInRaw
    amountOutRaw := result.amountOutRaw
    minimumAmountOutRaw
    feesRaw := result.feesRaw
    slippageBps := request.slippageBps
    priceImpactBps
    observedAtMs
    observedSlot := min request.reserves.observedSlot state.observedSlot }

end SolTokenListener.Source.PumpSwapQuote
