import SolTokenListener.Lib.Base58
import SolTokenListener.Lib.WireFormat
import SolTokenListener.Source.JitoConfig

/-!
# The Jito stake pool account and its withdrawal quote

Source: src/jitosol/stake-pool.ts:85-130,168-184,360-399. Account data is read front to back by
`Reader`; a public key is the base58 text of its 32 bytes. The withdrawal authority and its bump are
derived from constants by `PublicKey.findProgramAddressSync`; the derivation is an argument here.
Errors are their messages. Instruction plans and the validator list are not modelled.
-/

namespace SolTokenListener.Source.JitoStakePool

open Lib Lib.Checked
open Lib.WireFormat (Input ofLittleEndian)
open Source.JitoConfig (Checked JITO_MINT JITO_STAKE_POOL)

def STAKE_POOL_PROGRAM_ID : String := "SPoo1Ku8WFXoNDMHPsrGSTSG1Y47rzgn41SLUNakuHy"

def TOKEN_PROGRAM_ID : String := "TokenkegQfeZyiNwAJbNbGKPFXCWuBvf9Ss623VQ5DA"

/-- `PublicKey.default`, the key of 32 zero bytes. -/
def DEFAULT_PUBLIC_KEY : String := "11111111111111111111111111111111"

def MAX_U64 : Int := 18446744073709551615

structure StakePoolFee where
  numerator : Int
  denominator : Int
  deriving DecidableEq, Repr

/-- The part of a pool that a withdrawal is quoted against. -/
structure WithdrawalTerms where
  totalLamports : Int
  poolTokenSupply : Int
  stakeWithdrawalFee : StakePoolFee
  deriving DecidableEq, Repr

structure JitoStakePoolSnapshot extends WithdrawalTerms where
  poolAddress : String
  withdrawAuthority : String
  validatorList : String
  reserveStake : String
  poolMint : String
  managerFeeAccount : String
  tokenProgramId : String
  lastUpdateEpoch : Int
  currentEpoch : Int
  preferredWithdrawValidatorVoteAddress : Option String
  deriving DecidableEq, Repr

structure AccountInfo where
  owner : String
  executable : Bool
  data : List UInt8

def u64 (value : Int) (label : String) : Checked Unit :=
  require (0 ≤ value ∧ value ≤ MAX_U64) (label ++ " outside u64 range")

/-- The source's own division, without the guard that `JitoConfig.ceilDiv` has. -/
def ceilDiv (numerator denominator : Int) : Int := (numerator + denominator - 1).tdiv denominator

def requireOwner (account : AccountInfo) (owner label : String) : Checked Unit :=
  require (account.owner = owner ∧ account.executable = false)
    ("invalid " ++ label ++ " owner or executable account")

/-! ## The reader -/

abbrev Reader := WireFormat.Reader String

namespace Reader

def invariant (condition : Prop) [Decidable condition] (message : String) : Reader Unit :=
  StateT.lift (require condition message)

def take (size : Nat) : Reader (List UInt8) := fun input =>
  if size ≤ input.unread.length then
    .ok (input.unread.take size, ⟨input.position + size, input.unread.drop size⟩)
  else .error "truncated account data"

def skip (size : Nat) : Reader Unit := do
  let _ ← take size

def u8 : Reader Nat := do
  let bytes ← take 1
  return ofLittleEndian bytes

def u64 : Reader Int := do
  let bytes ← take 8
  return ofLittleEndian bytes

def i64 : Reader Int := do
  let bytes ← take 8
  return (BitVec.ofNat 64 (ofLittleEndian bytes)).toInt

def key : Reader String := do
  let bytes ← take 32
  return Base58.encode bytes

def optionalKey : Reader (Option String) := do
  let tag ← u8
  invariant (tag ≤ 1) "invalid account option"
  if tag = 0 then return none else return some (← key)

def fee : Reader StakePoolFee := do
  let denominator ← u64
  let numerator ← u64
  invariant (denominator = 0 ∨ numerator ≤ denominator) "invalid pool fee"
  return { numerator, denominator }

def futureFee : Reader Unit := do
  let tag ← u8
  invariant (tag ≤ 2) "invalid future fee option"
  if tag ≠ 0 then
    let _ ← fee

end Reader

/-! ## The pool account -/

/-- The addresses at the front of a pool account. -/
structure PoolAddresses where
  bump : Nat
  validatorList : String
  reserveStake : String
  poolMint : String
  managerFeeAccount : String
  tokenProgramId : String

def readAddresses : Reader PoolAddresses := do
  let accountType ← Reader.u8
  Reader.invariant (accountType = 1) "invalid pool account type"
  Reader.skip (32 * 3) -- manager, staker, deposit authority
  let bump ← Reader.u8
  let validatorList ← Reader.key
  let reserveStake ← Reader.key
  let poolMint ← Reader.key
  let managerFeeAccount ← Reader.key
  let tokenProgramId ← Reader.key
  Reader.invariant (poolMint = JITO_MINT) "unexpected Jito pool mint"
  Reader.invariant (tokenProgramId = TOKEN_PROGRAM_ID) "unsupported pool token program"
  return { bump, validatorList, reserveStake, poolMint, managerFeeAccount, tokenProgramId }

/-- The balances of a pool account. -/
structure PoolBalances where
  totalLamports : Int
  poolTokenSupply : Int
  lastUpdateEpoch : Int

def readBalances (currentEpoch : Int) : Reader PoolBalances := do
  let totalLamports ← Reader.u64
  let poolTokenSupply ← Reader.u64
  let lastUpdateEpoch ← Reader.u64
  Reader.invariant (0 < totalLamports ∧ 0 < poolTokenSupply) "empty pool supply or lamports"
  Reader.invariant (lastUpdateEpoch = currentEpoch) "pool epoch is stale or inconsistent"
  return { totalLamports, poolTokenSupply, lastUpdateEpoch }

def readLockup : Reader Unit := do
  let lockupTimestamp ← Reader.i64
  let lockupEpoch ← Reader.u64
  let custodian ← Reader.key
  Reader.invariant (lockupTimestamp = 0 ∧ lockupEpoch = 0 ∧ custodian = DEFAULT_PUBLIC_KEY)
    "unsupported pool lockup"

/-- What is kept of the fees and preferences that follow the lockup. -/
structure PoolFees where
  stakeWithdrawalFee : StakePoolFee
  preferredWithdrawValidatorVoteAddress : Option String

def readFees : Reader PoolFees := do
  let _ ← Reader.fee -- epoch fee
  Reader.futureFee
  let _ ← Reader.optionalKey -- preferred deposit validator
  let preferredWithdrawValidatorVoteAddress ← Reader.optionalKey
  let _ ← Reader.fee -- stake deposit fee
  let stakeWithdrawalFee ← Reader.fee
  return { stakeWithdrawalFee, preferredWithdrawValidatorVoteAddress }

/-- What follows the withdrawal fee is read for its shape only. -/
def readRest : Reader Unit := do
  Reader.futureFee
  let _ ← Reader.u8 -- stake referral fee
  let _ ← Reader.optionalKey -- SOL deposit authority
  let _ ← Reader.fee
  let _ ← Reader.u8 -- SOL referral fee
  let _ ← Reader.optionalKey -- SOL withdrawal authority
  let _ ← Reader.fee
  Reader.futureFee
  let _ ← Reader.u64 -- previous epoch supply and lamports
  let _ ← Reader.u64

def readPool (derived : String × Nat) (currentEpoch : Int) : Reader JitoStakePoolSnapshot := do
  let addresses ← readAddresses
  let balances ← readBalances currentEpoch
  readLockup
  let fees ← readFees
  readRest
  Reader.invariant (derived.2 = addresses.bump) "invalid pool withdrawal authority bump"
  return {
    poolAddress := JITO_STAKE_POOL
    withdrawAuthority := derived.1
    validatorList := addresses.validatorList
    reserveStake := addresses.reserveStake
    poolMint := addresses.poolMint
    managerFeeAccount := addresses.managerFeeAccount
    tokenProgramId := addresses.tokenProgramId
    totalLamports := balances.totalLamports
    poolTokenSupply := balances.poolTokenSupply
    lastUpdateEpoch := balances.lastUpdateEpoch
    currentEpoch
    stakeWithdrawalFee := fees.stakeWithdrawalFee
    preferredWithdrawValidatorVoteAddress := fees.preferredWithdrawValidatorVoteAddress }

/-- `derived` is the withdrawal authority of the pool and its bump. -/
def decodeJitoStakePool (derived : String × Nat) (account : AccountInfo) (currentEpoch : Int) :
    Checked JitoStakePoolSnapshot := do
  requireOwner account STAKE_POOL_PROGRAM_ID "pool"
  u64 currentEpoch "current epoch"
  let read ← readPool derived currentEpoch ⟨0, account.data⟩
  return read.1

/-! ## The withdrawal quote -/

structure StakeWithdrawalQuote where
  feePoolTokens : Int
  burnPoolTokens : Int
  withdrawLamports : Int
  deriving DecidableEq, Repr

def quoteStakeWithdrawal (pool : WithdrawalTerms) (poolTokens : Int) (feeExempt : Bool) :
    Checked StakeWithdrawalQuote := do
  u64 poolTokens "pool tokens"
  require (0 < poolTokens) "pool tokens must be positive"
  require (0 < pool.poolTokenSupply ∧ 0 < pool.totalLamports) "invalid pool supply"
  let numerator := pool.stakeWithdrawalFee.numerator
  let denominator := pool.stakeWithdrawalFee.denominator
  require (0 ≤ numerator ∧ 0 ≤ denominator ∧ (denominator = 0 ∨ numerator ≤ denominator))
    "invalid withdrawal fee"
  let feePoolTokens :=
    if feeExempt ∨ denominator = 0 then 0 else ceilDiv (poolTokens * numerator) denominator
  let burnPoolTokens := poolTokens - feePoolTokens
  let withdrawLamports := (burnPoolTokens * pool.totalLamports).tdiv pool.poolTokenSupply
  u64 withdrawLamports "withdrawal lamports"
  require (0 < withdrawLamports) "withdrawal amount is too small"
  return { feePoolTokens, burnPoolTokens, withdrawLamports }

end SolTokenListener.Source.JitoStakePool
