import Mathlib.Algebra.Group.Nat.Defs
import SolTokenListener.Source.Chain

/-!
# Configuration and entry decision of the JitoSOL bot

Source: src/jitosol/config.ts:1-113, src/jitosol/types.ts:1-62. Amounts that cross a boundary are
decimal strings, as in the source; the amounts of a parsed configuration are only ever read
through `amount`, so the configuration holds their values with the bounds of its schema. Errors
are their messages. The provider's raw quote is read by no modelled function and is left out.
-/

namespace SolTokenListener.Source.JitoConfig

open Lib.Checked Source.Chain

abbrev Checked := Except String

/-! ## Amounts -/

def U64_MAX : Nat := 2 ^ 64 - 1

/-- `/^(0|[1-9]\d*)$/`. -/
def isUnsignedDecimal (value : String) : Bool :=
  match value.toList with
  | [] => false
  | ['0'] => true
  | first :: rest => first.isDigit ∧ first ≠ '0' ∧ rest.all Char.isDigit

def decimalValue (digits : List Char) : Nat :=
  digits.foldl (fun value digit => 10 * value + (digit.toNat - '0'.toNat)) 0

def amount (value : String) : Checked Nat := do
  require (isUnsignedDecimal value) "Amount must be an unsigned decimal integer string"
  let result := decimalValue value.toList
  require (result ≤ U64_MAX) "Amount exceeds u64"
  return result

def isAmount (value : String) : Bool := (amount value).isOk

/-- `BigInt` of a signed decimal text. -/
def signedValue (value : String) : Int :=
  match value.toList with
  | '-' :: digits => -(decimalValue digits : Int)
  | digits => (decimalValue digits : Int)

/-! ## Configuration -/

def JITO_MINT : String := "J1toso1uCk3RLmjorhTtrVwY9HJ7X8V9yYac6Y7kGCPn"

def JITO_STAKE_POOL : String := "Jito4APyf642JPZPx3hGc6WWJ8zPKtRbRs4P815Awbb"

def SOL_MINT : String := "So11111111111111111111111111111111111111112"

/-- The only input the schema accepts. -/
def INPUT_LAMPORTS : String := "3000000000"

/-- A configuration accepted by `parseJitoBotConfig`. -/
structure JitoBotConfig where
  enabled : Bool
  walletAddress : String
  minProfitLamports : Nat
  networkBudgetLamports : Nat
  reserveLamports : Nat
  carryAnnualBps : Nat
  carryHours : Nat
  confirmationDelayMs : Int
  maxConfirmationGapMs : Int
  maxObservationAgeMs : Int
  maxSourceSlotLag : Int
  maxPoolQuoteSlotGap : Int
  maxCycles : Int
  maxTotalFeesLamports : Nat
  maxRealizedLossLamports : Nat
  minProfitBounds : 9000000 ≤ minProfitLamports ∧ minProfitLamports ≤ U64_MAX
  networkBudgetBounds : 1000000 ≤ networkBudgetLamports ∧ networkBudgetLamports ≤ U64_MAX
  reserveBounds : 20000000 ≤ reserveLamports ∧ reserveLamports ≤ U64_MAX
  carryBounds : 650 ≤ carryAnnualBps ∧ carryAnnualBps ≤ 10000 ∧ 72 ≤ carryHours ∧ carryHours ≤ 8760
  delayBounds : 10000 ≤ confirmationDelayMs ∧ confirmationDelayMs ≤ 300000 ∧
    confirmationDelayMs ≤ maxConfirmationGapMs ∧ maxConfirmationGapMs ≤ 600000
  ageBounds : 1 ≤ maxObservationAgeMs ∧ maxObservationAgeMs ≤ 30000
  slotBounds : 0 ≤ maxSourceSlotLag ∧ maxSourceSlotLag ≤ 150 ∧ 0 ≤ maxPoolQuoteSlotGap ∧
    maxPoolQuoteSlotGap ≤ 150
  cycleBounds : 1 ≤ maxCycles ∧ maxCycles ≤ 100
  feeBounds : maxTotalFeesLamports ≤ U64_MAX ∧ maxRealizedLossLamports ≤ U64_MAX
  walletSet : enabled = true → walletAddress ≠ ""

/-! ## Observations -/

structure ObservedQuote where
  id : String
  receivedAtMs : Int
  contextSlot : Int
  routeSlot : Int
  inputMint : String
  outputMint : String
  inputLamports : String
  minJitoOutUnits : String

structure ObservedPool where
  address : String
  mint : String
  contextSlot : Int
  currentEpoch : Int
  lastUpdateEpoch : Int
  totalLamports : String
  tokenSupply : String
  withdrawalFeeNumerator : String
  withdrawalFeeDenominator : String

structure ObservedWithdrawal where
  available : Bool
  checkedAtMs : Int
  minimumDelegationLamports : String
  stakeRentLamports : String
  tokenAccountRentLamports : String
  reason : Option String

structure ObservedWallet where
  address : String
  solLamports : String
  jitoUnits : String

structure Observation where
  observedAtMs : Int
  quote : ObservedQuote
  pool : ObservedPool
  withdrawal : ObservedWithdrawal
  wallet : ObservedWallet

/-! ## Entry decision -/

def ceilDiv (numerator denominator : Int) : Checked Int := do
  require (0 ≤ numerator ∧ 0 < denominator) "Invalid integer division"
  return (numerator + denominator - 1).tdiv denominator

def redemptionLamports (tokenUnits feeNumerator feeDenominator totalLamports tokenSupply : String) :
    Checked Int := do
  let units ← amount tokenUnits
  let numerator ← amount feeNumerator
  let denominator ← amount feeDenominator
  let supply ← amount tokenSupply
  require (supply ≠ 0 ∧ (denominator = 0 ∨ numerator ≤ denominator)) "Invalid pool fee or supply"
  let fee ← if denominator = 0 then pure 0 else ceilDiv (units * numerator) denominator
  let total ← amount totalLamports
  return ((units - fee) * total).tdiv supply

def requiredRedemptionLamports (config : JitoBotConfig) : Checked Int := do
  let input ← amount INPUT_LAMPORTS
  let carry ← ceilDiv (input * config.carryAnnualBps * config.carryHours) (10000 * 365 * 24)
  return input + config.networkBudgetLamports + config.minProfitLamports + carry

structure ObservationDecision where
  eligible : Bool
  reason : String

def isFresh (config : JitoBotConfig) (now timestamp : Int) : Bool :=
  isSafeInteger timestamp ∧ timestamp ≤ now ∧ now - timestamp ≤ config.maxObservationAgeMs

def isContextNumber (value : Int) : Bool := isSafeInteger value ∧ 0 ≤ value

/-- The refusals that come before any amount is read. -/
def identityRefusal (observation : Observation) (config : JitoBotConfig) (now : Int) : Option String :=
  let quote := observation.quote
  let pool := observation.pool
  let withdrawal := observation.withdrawal
  if ¬ ([observation.observedAtMs, quote.receivedAtMs, withdrawal.checkedAtMs].all (isFresh config now))
    then some "stale or future observation"
  else if quote.id = "" ∨ quote.inputMint ≠ SOL_MINT ∨ quote.outputMint ≠ JITO_MINT ∨
      quote.inputLamports ≠ INPUT_LAMPORTS then some "quote mint or amount mismatch"
  else if pool.address ≠ JITO_STAKE_POOL ∨ pool.mint ≠ JITO_MINT ∨
      pool.lastUpdateEpoch ≠ pool.currentEpoch then some "pool identity or epoch mismatch"
  else if ¬ ([quote.contextSlot, quote.routeSlot, pool.contextSlot, pool.currentEpoch,
      pool.lastUpdateEpoch].all isContextNumber) then some "invalid chain context"
  else if quote.contextSlot < quote.routeSlot ∨
      config.maxSourceSlotLag < quote.contextSlot - quote.routeSlot ∨
      config.maxPoolQuoteSlotGap < (pool.contextSlot - quote.contextSlot).natAbs then
    some "stale route or pool/quote slot gap"
  else if withdrawal.available = false then
    some (withdrawal.reason.getD "stake withdrawal unavailable")
  else if observation.wallet.address ≠ config.walletAddress then some "wallet identity mismatch"
  else none

/-- The three zero tests; a later amount is not read once one is zero. -/
def isEmptyWithdrawal (minimumDelegation : Nat) (quote : ObservedQuote) (pool : ObservedPool) :
    Checked Bool := do
  if minimumDelegation = 0 then return true
  else
    let minimumOut ← amount quote.minJitoOutUnits
    if minimumOut = 0 then return true
    else
      let total ← amount pool.totalLamports
      return decide (total = 0)

/-- The decision from the amounts; an amount that does not parse is thrown. -/
def evaluateAmounts (observation : Observation) (config : JitoBotConfig) :
    Checked ObservationDecision := do
  let quote := observation.quote
  let pool := observation.pool
  let withdrawal := observation.withdrawal
  let _ ← amount observation.wallet.jitoUnits
  let stakeRent ← amount withdrawal.stakeRentLamports
  let tokenAccountRent ← amount withdrawal.tokenAccountRentLamports
  let reserve := max (stakeRent + tokenAccountRent + config.networkBudgetLamports) config.reserveLamports
  let liquid ← amount observation.wallet.solLamports
  let input ← amount INPUT_LAMPORTS
  if liquid < input + reserve then
    return ⟨false, "insufficient liquid balance and reserve"⟩
  else
    let minimumDelegation ← amount withdrawal.minimumDelegationLamports
    let empty ← isEmptyWithdrawal minimumDelegation quote pool
    if empty then
      return ⟨false, "invalid withdrawal minimum or pool balance"⟩
    else
      let redemption ← redemptionLamports quote.minJitoOutUnits pool.withdrawalFeeNumerator
        pool.withdrawalFeeDenominator pool.totalLamports pool.tokenSupply
      let total ← amount pool.totalLamports
      if redemption < minimumDelegation ∨ (total : Int) < redemption then
        return ⟨false, "withdrawal fails minimum delegation or pool capacity"⟩
      else
        let required ← requiredRedemptionLamports config
        if required ≤ redemption then return ⟨true, "eligible"⟩
        else return ⟨false, "net surplus below required threshold"⟩

def evaluateObservation (observation : Observation) (config : JitoBotConfig) (now : Int) :
    ObservationDecision :=
  match identityRefusal observation config now with
  | some reason => ⟨false, reason⟩
  | none =>
    match evaluateAmounts observation config with
    | .ok decision => decision
    | .error message => ⟨false, "invalid observation: " ++ message⟩

end SolTokenListener.Source.JitoConfig
