import SolTokenListener.Guarantees.JitoAmounts
import SolTokenListener.Lib.ProRata
import SolTokenListener.Source.JitoStakePool

/-!
# Redemption estimates of the JitoSOL bot

The bot estimates what JitoSOL redeems for twice: from the decimal texts of an observation and from
the decoded stake pool. Both are the pro rata share of the pool's lamports after the withdrawal fee.
A decoded pool has the bounds that make the two agree on every amount the pool can redeem.
-/

namespace SolTokenListener.Guarantees.JitoRedemption

open Lib Lib.Checked Lib.ProRata
open Lib.WireFormat (Input ofLittleEndian ofLittleEndian_lt)
open Source.JitoConfig Source.JitoStakePool
open Guarantees.JitoAmounts

/-! ## What decoding establishes -/

/-- A number of eight bytes. -/
def IsU64 (value : Int) : Prop := 0 ≤ value ∧ value ≤ MAX_U64

structure ValidFee (fee : StakePoolFee) : Prop where
  numerator : IsU64 fee.numerator
  denominator : IsU64 fee.denominator
  fraction : fee.denominator = 0 ∨ fee.numerator ≤ fee.denominator

structure ValidTerms (pool : WithdrawalTerms) : Prop where
  total : IsU64 pool.totalLamports
  supply : IsU64 pool.poolTokenSupply
  totalPositive : 0 < pool.totalLamports
  supplyPositive : 0 < pool.poolTokenSupply
  fee : ValidFee pool.stakeWithdrawalFee

section Reading

variable {input after : Input}

theorem invariant_eq_ok {condition : Prop} [Decidable condition] {message : String} {done : Unit} :
    Reader.invariant condition message input = .ok (done, after) ↔ condition ∧ input = after := by
  change Except.bind (require condition message) (fun value => .ok (value, input)) = _ ↔ _
  by_cases holds : condition
  · rw [require, if_pos holds]
    change Except.ok ((), input) = .ok ((), after) ↔ _
    rw [Except.ok.injEq, Prod.mk.injEq]
    exact ⟨fun same => ⟨holds, same.2⟩, fun same => ⟨rfl, same.2⟩⟩
  · rw [require, if_neg holds]
    exact iff_of_false (by rintro ⟨⟩) (fun both => holds both.1)

theorem length_of_take {size : Nat} {bytes : List UInt8}
    (taken : Reader.take size input = .ok (bytes, after)) : bytes.length = size := by
  unfold Reader.take at taken
  split at taken
  · next enough =>
      cases taken
      rw [List.length_take, Nat.min_eq_left enough]
  · cases taken

theorem isU64_of_u64 {value : Int} (read : Reader.u64 input = .ok (value, after)) : IsU64 value := by
  obtain ⟨bytes, between, taken, last⟩ := WireFormat.bind_eq_ok.mp read
  obtain ⟨rfl, -⟩ := WireFormat.pure_eq_ok.mp last
  have small := ofLittleEndian_lt bytes
  rw [length_of_take taken] at small
  norm_num at small
  unfold IsU64 MAX_U64
  omega

theorem validFee_of_fee {fee : StakePoolFee} (read : Reader.fee input = .ok (fee, after)) :
    ValidFee fee := by
  obtain ⟨denominator, _, readDenominator, read⟩ := WireFormat.bind_eq_ok.mp read
  obtain ⟨numerator, _, readNumerator, read⟩ := WireFormat.bind_eq_ok.mp read
  obtain ⟨_, _, checked, read⟩ := WireFormat.bind_eq_ok.mp read
  obtain ⟨rfl, -⟩ := WireFormat.pure_eq_ok.mp read
  exact ⟨isU64_of_u64 readNumerator, isU64_of_u64 readDenominator, (invariant_eq_ok.mp checked).1⟩

theorem readBalances_valid {currentEpoch : Int} {balances : PoolBalances}
    (read : readBalances currentEpoch input = .ok (balances, after)) :
    IsU64 balances.totalLamports ∧ IsU64 balances.poolTokenSupply ∧ 0 < balances.totalLamports ∧
      0 < balances.poolTokenSupply := by
  obtain ⟨total, _, readTotal, read⟩ := WireFormat.bind_eq_ok.mp read
  obtain ⟨supply, _, readSupply, read⟩ := WireFormat.bind_eq_ok.mp read
  obtain ⟨_, _, _, read⟩ := WireFormat.bind_eq_ok.mp read
  obtain ⟨_, _, positive, read⟩ := WireFormat.bind_eq_ok.mp read
  obtain ⟨_, _, _, read⟩ := WireFormat.bind_eq_ok.mp read
  obtain ⟨rfl, -⟩ := WireFormat.pure_eq_ok.mp read
  exact ⟨isU64_of_u64 readTotal, isU64_of_u64 readSupply, (invariant_eq_ok.mp positive).1⟩

theorem readFees_valid {fees : PoolFees} (read : readFees input = .ok (fees, after)) :
    ValidFee fees.stakeWithdrawalFee := by
  obtain ⟨_, _, _, read⟩ := WireFormat.bind_eq_ok.mp read
  obtain ⟨_, _, _, read⟩ := WireFormat.bind_eq_ok.mp read
  obtain ⟨_, _, _, read⟩ := WireFormat.bind_eq_ok.mp read
  obtain ⟨_, _, _, read⟩ := WireFormat.bind_eq_ok.mp read
  obtain ⟨_, _, _, read⟩ := WireFormat.bind_eq_ok.mp read
  obtain ⟨fee, _, readFee, read⟩ := WireFormat.bind_eq_ok.mp read
  obtain ⟨rfl, -⟩ := WireFormat.pure_eq_ok.mp read
  exact validFee_of_fee readFee

end Reading

theorem decoded_valid {derived : String × Nat} {account : AccountInfo} {currentEpoch : Int}
    {pool : JitoStakePoolSnapshot} (decoded : decodeJitoStakePool derived account currentEpoch = .ok pool) :
    ValidTerms pool.toWithdrawalTerms := by
  unfold decodeJitoStakePool at decoded
  obtain ⟨_, _, decoded⟩ := bind_eq_ok.mp decoded
  obtain ⟨_, _, decoded⟩ := bind_eq_ok.mp decoded
  obtain ⟨⟨read, after⟩, ran, same⟩ := bind_eq_ok.mp decoded
  obtain rfl : read = pool := pure_eq_ok.mp same
  obtain ⟨addresses, _, _, ran⟩ := WireFormat.bind_eq_ok.mp ran
  obtain ⟨balances, _, readBalances, ran⟩ := WireFormat.bind_eq_ok.mp ran
  obtain ⟨_, _, _, ran⟩ := WireFormat.bind_eq_ok.mp ran
  obtain ⟨fees, _, readFees, ran⟩ := WireFormat.bind_eq_ok.mp ran
  obtain ⟨_, _, _, ran⟩ := WireFormat.bind_eq_ok.mp ran
  obtain ⟨_, _, _, ran⟩ := WireFormat.bind_eq_ok.mp ran
  obtain ⟨rfl, -⟩ := WireFormat.pure_eq_ok.mp ran
  obtain ⟨total, supply, totalPositive, supplyPositive⟩ := readBalances_valid readBalances
  exact ⟨total, supply, totalPositive, supplyPositive, readFees_valid readFees⟩

/-! ## What a redemption pays -/

/-- The fee a withdrawal is charged; a fee of denominator zero is no fee. -/
def charged (pool : WithdrawalTerms) (feeExempt : Bool) : StakePoolFee :=
  if feeExempt then ⟨0, 0⟩ else pool.stakeWithdrawalFee

def feeRate (fee : StakePoolFee) : ℚ := rate fee.numerator fee.denominator

/-- The share of the pool's lamports that is left after the fee. -/
def redeemed (pool : WithdrawalTerms) (feeExempt : Bool) (poolTokens : Int) : Int :=
  share (afterFee poolTokens (charged pool feeExempt).numerator (charged pool feeExempt).denominator)
    pool.totalLamports pool.poolTokenSupply

/-- The estimate of an observation, from the texts of a pool's amounts. -/
def redemptionOf (pool : WithdrawalTerms) (poolTokens : Int) : Checked Int :=
  redemptionLamports (toString poolTokens) (toString pool.stakeWithdrawalFee.numerator)
    (toString pool.stakeWithdrawalFee.denominator) (toString pool.totalLamports)
    (toString pool.poolTokenSupply)

variable {pool : WithdrawalTerms} {poolTokens more : Int} {feeExempt : Bool}

theorem charged_valid (valid : ValidTerms pool) (feeExempt : Bool) : ValidFee (charged pool feeExempt) := by
  cases feeExempt
  · exact valid.fee
  · have zero : IsU64 0 := ⟨le_rfl, by decide⟩
    exact ⟨zero, zero, .inl rfl⟩

theorem redeemed_nonneg (valid : ValidTerms pool) (nonneg : 0 ≤ poolTokens) :
    0 ≤ redeemed pool feeExempt poolTokens := by
  have fee := charged_valid valid feeExempt
  exact share_nonneg (afterFee_nonneg nonneg fee.denominator.1 fee.fraction) valid.total.1 valid.supply.1

theorem redeemed_le (valid : ValidTerms pool) (nonneg : 0 ≤ poolTokens)
    (within : poolTokens ≤ pool.poolTokenSupply) :
    redeemed pool feeExempt poolTokens ≤ pool.totalLamports := by
  have fee := charged_valid valid feeExempt
  have left := afterFee_le nonneg fee.numerator.1 fee.denominator.1
  exact share_le valid.total.1 valid.supplyPositive (left.trans within)

theorem redeemed_mono (valid : ValidTerms pool) (grows : poolTokens ≤ more) :
    redeemed pool feeExempt poolTokens ≤ redeemed pool feeExempt more := by
  have fee := charged_valid valid feeExempt
  exact share_mono valid.total.1 valid.supplyPositive
    (afterFee_mono fee.denominator.1 fee.fraction grows)

variable {dearer : WithdrawalTerms}

/-- Between pools of the same balances, the one that charges the lower rate pays no less. -/
theorem redeemed_anti {feeExempt' : Bool} (valid : ValidTerms pool) (valid' : ValidTerms dearer)
    (sameTotal : dearer.totalLamports = pool.totalLamports)
    (sameSupply : dearer.poolTokenSupply = pool.poolTokenSupply) (nonneg : 0 ≤ poolTokens)
    (rates : feeRate (charged pool feeExempt) ≤ feeRate (charged dearer feeExempt')) :
    redeemed dearer feeExempt' poolTokens ≤ redeemed pool feeExempt poolTokens := by
  have fee := charged_valid valid feeExempt
  have fee' := charged_valid valid' feeExempt'
  unfold redeemed
  rw [sameTotal, sameSupply]
  exact share_mono valid.total.1 valid.supplyPositive
    (afterFee_anti_rate nonneg fee'.numerator.1 fee.denominator.1 fee'.denominator.1 rates)

theorem feeRate_exempt_le (valid : ValidTerms pool) :
    feeRate (charged pool true) ≤ feeRate (charged pool false) := by
  have free : feeRate (charged pool true) = 0 := by simp [feeRate, charged, rate]
  have numerator : (0 : ℚ) ≤ pool.stakeWithdrawalFee.numerator := by
    exact_mod_cast valid.fee.numerator.1
  have denominator : (0 : ℚ) ≤ pool.stakeWithdrawalFee.denominator := by
    exact_mod_cast valid.fee.denominator.1
  rw [free]
  exact div_nonneg numerator denominator

/-! ## Both estimates compute it -/

theorem amount_toString {value : Int} (bounds : IsU64 value) :
    amount (toString value) = .ok value.toNat := by
  rw [toString_nonnegative bounds.1, amount_eq_ok, lamports_toString]
  refine ⟨isUnsignedDecimal_toString _, ?_, rfl⟩
  have below := bounds.2
  unfold MAX_U64 at below
  unfold U64_MAX
  omega

theorem tdiv_eq_share {part total whole : Int} (partNonneg : 0 ≤ part) (totalNonneg : 0 ≤ total) :
    (part * total).tdiv whole = share part total whole :=
  Int.tdiv_eq_ediv_of_nonneg (mul_nonneg partNonneg totalNonneg)

theorem tdiv_eq_feeOn {units numerator denominator : Int} (positive : 0 < denominator)
    (unitsNonneg : 0 ≤ units) (numeratorNonneg : 0 ≤ numerator) :
    (units * numerator + denominator - 1).tdiv denominator = feeOn units numerator denominator := by
  have product := mul_nonneg unitsNonneg numeratorNonneg
  rw [feeOn, if_neg positive.ne', Int.tdiv_eq_ediv_of_nonneg (by omega)]

/-- What the last step of the observation's estimate returns, once the fee is known. -/
theorem paid_eq (valid : ValidTerms pool) (tokens : IsU64 poolTokens) :
    (do
      let total ← amount (toString pool.totalLamports)
      pure ((((poolTokens.toNat : Int) - feeOn poolTokens pool.stakeWithdrawalFee.numerator
        pool.stakeWithdrawalFee.denominator) * total).tdiv pool.poolTokenSupply.toNat)) =
      .ok (redeemed pool false poolTokens) := by
  have left := afterFee_nonneg tokens.1 valid.fee.denominator.1 valid.fee.fraction
  refine bind_eq_ok.mpr ⟨_, amount_toString valid.total, congrArg Except.ok ?_⟩
  rw [Int.toNat_of_nonneg tokens.1, Int.toNat_of_nonneg valid.total.1,
    Int.toNat_of_nonneg valid.supply.1]
  exact tdiv_eq_share left valid.total.1

theorem redemptionOf_eq (valid : ValidTerms pool) (tokens : IsU64 poolTokens) :
    redemptionOf pool poolTokens = .ok (redeemed pool false poolTokens) := by
  have paid := paid_eq valid tokens
  have positive := valid.supplyPositive
  have fraction := valid.fee.fraction
  simp only [redemptionOf, redemptionLamports, bind_eq_ok]
  refine ⟨_, amount_toString tokens, _, amount_toString valid.fee.numerator, _,
    amount_toString valid.fee.denominator, _, amount_toString valid.supply, (),
    require_eq_ok.mpr (by omega), ?_⟩
  by_cases free : pool.stakeWithdrawalFee.denominator.toNat = 0
  · have noFee : pool.stakeWithdrawalFee.denominator = 0 :=
      le_antisymm (Int.toNat_eq_zero.mp free) valid.fee.denominator.1
    rw [noFee, feeOn_zero_denominator] at paid
    rw [if_pos free]
    exact paid
  · have charges : 0 < pool.stakeWithdrawalFee.denominator := by omega
    have product := mul_nonneg tokens.1 valid.fee.numerator.1
    rw [← tdiv_eq_feeOn charges tokens.1 valid.fee.numerator.1] at paid
    rw [if_neg free]
    refine bind_eq_ok.mpr ⟨_, ?_, paid⟩
    rw [Int.toNat_of_nonneg tokens.1, Int.toNat_of_nonneg valid.fee.numerator.1,
      Int.toNat_of_nonneg valid.fee.denominator.1]
    exact bind_eq_ok.mpr ⟨(), require_eq_ok.mpr ⟨product, charges⟩, rfl⟩

theorem quotedFee_eq (valid : ValidTerms pool) (tokens : IsU64 poolTokens) :
    (if feeExempt = true ∨ pool.stakeWithdrawalFee.denominator = 0 then 0
      else SolTokenListener.Source.JitoStakePool.ceilDiv
        (poolTokens * pool.stakeWithdrawalFee.numerator) pool.stakeWithdrawalFee.denominator) =
      feeOn poolTokens (charged pool feeExempt).numerator (charged pool feeExempt).denominator := by
  cases feeExempt with
  | true => rfl
  | false =>
    by_cases free : pool.stakeWithdrawalFee.denominator = 0
    · rw [if_pos (.inr free)]
      exact (if_pos free).symm
    · have charges : 0 < pool.stakeWithdrawalFee.denominator :=
        lt_of_le_of_ne valid.fee.denominator.1 (Ne.symm free)
      rw [if_neg (by simp [free])]
      exact tdiv_eq_feeOn charges tokens.1 valid.fee.numerator.1

/-- The quote that pays the share. -/
def quoted (pool : WithdrawalTerms) (feeExempt : Bool) (poolTokens : Int) : StakeWithdrawalQuote :=
  let fee := charged pool feeExempt
  { feePoolTokens := feeOn poolTokens fee.numerator fee.denominator
    burnPoolTokens := afterFee poolTokens fee.numerator fee.denominator
    withdrawLamports := redeemed pool feeExempt poolTokens }

variable {quote : StakeWithdrawalQuote}

/-- A quote is refused only when it would pay nothing. -/
theorem quoteStakeWithdrawal_eq_ok (valid : ValidTerms pool) (positive : 0 < poolTokens)
    (within : poolTokens ≤ pool.poolTokenSupply) :
    quoteStakeWithdrawal pool poolTokens feeExempt = .ok quote ↔
      0 < redeemed pool feeExempt poolTokens ∧ quoted pool feeExempt poolTokens = quote := by
  have tokens : IsU64 poolTokens := ⟨positive.le, within.trans valid.supply.2⟩
  have fee := charged_valid valid feeExempt
  have left := afterFee_nonneg positive.le fee.denominator.1 fee.fraction
  have nonneg : 0 ≤ redeemed pool feeExempt poolTokens := redeemed_nonneg valid positive.le
  have bounded : redeemed pool feeExempt poolTokens ≤ pool.totalLamports :=
    redeemed_le valid positive.le within
  have paid : ((poolTokens - feeOn poolTokens (charged pool feeExempt).numerator
      (charged pool feeExempt).denominator) * pool.totalLamports).tdiv pool.poolTokenSupply =
        redeemed pool feeExempt poolTokens := tdiv_eq_share left valid.total.1
  simp only [quoteStakeWithdrawal, bind_eq_ok, require_eq_ok, pure_eq_ok, u64,
    quotedFee_eq valid tokens, paid]
  constructor
  · rintro ⟨_, _, _, _, _, _, _, _, _, _, _, pays, same⟩
    exact ⟨pays, same⟩
  · rintro ⟨pays, same⟩
    exact ⟨(), tokens, (), positive, (), ⟨valid.supplyPositive, valid.totalPositive⟩, (),
      ⟨valid.fee.numerator.1, valid.fee.denominator.1, valid.fee.fraction⟩, (),
      ⟨nonneg, bounded.trans valid.total.2⟩, (), pays, same⟩

/-! ## The estimates agree and are safe -/

/-- What holds of the two estimates for an amount of pool tokens. -/
structure Estimates (pool : WithdrawalTerms) (poolTokens : Int) : Prop where
  agree : ∀ quote, quoteStakeWithdrawal pool poolTokens false = .ok quote →
    redemptionOf pool poolTokens = .ok quote.withdrawLamports
  /-- Neither exceeds what the pool holds. -/
  bounded : (∃ lamports, redemptionOf pool poolTokens = .ok lamports ∧ lamports ≤ pool.totalLamports) ∧
    ∀ feeExempt quote, quoteStakeWithdrawal pool poolTokens feeExempt = .ok quote →
      quote.withdrawLamports ≤ pool.totalLamports
  /-- More tokens redeem for no less, and are quoted when fewer are. -/
  monotone : ∀ more, poolTokens ≤ more → more ≤ pool.poolTokenSupply →
    (∃ lamports lamports', redemptionOf pool poolTokens = .ok lamports ∧
      redemptionOf pool more = .ok lamports' ∧ lamports ≤ lamports') ∧
    ∀ feeExempt quote, quoteStakeWithdrawal pool poolTokens feeExempt = .ok quote →
      ∃ quote', quoteStakeWithdrawal pool more feeExempt = .ok quote' ∧
        quote.withdrawLamports ≤ quote'.withdrawLamports
  /-- A fee exemption only raises what is paid. -/
  exemption : (∀ lamports, redemptionOf pool poolTokens = .ok lamports → 0 < lamports →
      ∃ quote, quoteStakeWithdrawal pool poolTokens true = .ok quote ∧
        lamports ≤ quote.withdrawLamports) ∧
    ∀ quote, quoteStakeWithdrawal pool poolTokens false = .ok quote →
      ∃ quote', quoteStakeWithdrawal pool poolTokens true = .ok quote' ∧
        quote.withdrawLamports ≤ quote'.withdrawLamports

/-- What a higher fee rate does to the estimates, between pools of the same balances. -/
structure Dearer (pool dearer : WithdrawalTerms) (poolTokens : Int) : Prop where
  redemption : ∃ lamports lamports', redemptionOf pool poolTokens = .ok lamports ∧
    redemptionOf dearer poolTokens = .ok lamports' ∧ lamports' ≤ lamports
  quote : ∀ feeExempt quote', quoteStakeWithdrawal dearer poolTokens feeExempt = .ok quote' →
    ∃ quote, quoteStakeWithdrawal pool poolTokens feeExempt = .ok quote ∧
      quote'.withdrawLamports ≤ quote.withdrawLamports

/-- A quote that pays at least as much as another that was given is given. -/
theorem quoted_of_le {other : WithdrawalTerms} {tokens' : Int} {feeExempt' : Bool}
    (valid : ValidTerms pool) (positive : 0 < poolTokens)
    (within : poolTokens ≤ pool.poolTokenSupply) (valid' : ValidTerms other)
    (positive' : 0 < tokens') (within' : tokens' ≤ other.poolTokenSupply)
    (le : redeemed pool feeExempt poolTokens ≤ redeemed other feeExempt' tokens')
    (given : quoteStakeWithdrawal pool poolTokens feeExempt = .ok quote) :
    ∃ quote', quoteStakeWithdrawal other tokens' feeExempt' = .ok quote' ∧
      quote.withdrawLamports ≤ quote'.withdrawLamports := by
  obtain ⟨pays, rfl⟩ := (quoteStakeWithdrawal_eq_ok valid positive within).mp given
  exact ⟨_, (quoteStakeWithdrawal_eq_ok valid' positive' within').mpr ⟨pays.trans_le le, rfl⟩, le⟩

theorem estimates_of_valid (valid : ValidTerms pool) (positive : 0 < poolTokens)
    (within : poolTokens ≤ pool.poolTokenSupply) : Estimates pool poolTokens := by
  have tokens : IsU64 poolTokens := ⟨positive.le, within.trans valid.supply.2⟩
  have estimate := redemptionOf_eq valid tokens
  have exempted : redeemed pool false poolTokens ≤ redeemed pool true poolTokens :=
    redeemed_anti valid valid rfl rfl positive.le (feeRate_exempt_le valid)
  refine ⟨?agree, ⟨⟨_, estimate, redeemed_le valid positive.le within⟩, ?quoteBounded⟩, ?monotone,
    ?redemptionExempt, ?quoteExempt⟩
  case agree =>
    intro quote given
    obtain ⟨-, rfl⟩ := (quoteStakeWithdrawal_eq_ok valid positive within).mp given
    exact estimate
  case quoteBounded =>
    intro feeExempt quote given
    obtain ⟨-, rfl⟩ := (quoteStakeWithdrawal_eq_ok valid positive within).mp given
    exact redeemed_le valid positive.le within
  case monotone =>
    intro more grows moreWithin
    have morePositive := positive.trans_le grows
    have moreTokens : IsU64 more := ⟨morePositive.le, moreWithin.trans valid.supply.2⟩
    refine ⟨⟨_, _, estimate, redemptionOf_eq valid moreTokens, redeemed_mono valid grows⟩, ?_⟩
    intro feeExempt quote given
    exact quoted_of_le valid positive within valid morePositive moreWithin (redeemed_mono valid grows)
      given
  case redemptionExempt =>
    intro lamports read pays
    obtain rfl : redeemed pool false poolTokens = lamports := Except.ok.inj (estimate.symm.trans read)
    exact ⟨_, (quoteStakeWithdrawal_eq_ok valid positive within).mpr ⟨pays.trans_le exempted, rfl⟩,
      exempted⟩
  case quoteExempt =>
    intro quote given
    exact quoted_of_le valid positive within valid positive within exempted given

theorem feeRate_charged_mono (feeExempt : Bool)
    (rates : feeRate pool.stakeWithdrawalFee ≤ feeRate dearer.stakeWithdrawalFee) :
    feeRate (charged pool feeExempt) ≤ feeRate (charged dearer feeExempt) := by
  cases feeExempt
  · exact rates
  · exact le_rfl

theorem dearer_of_valid (valid : ValidTerms pool) (valid' : ValidTerms dearer)
    (sameTotal : dearer.totalLamports = pool.totalLamports)
    (sameSupply : dearer.poolTokenSupply = pool.poolTokenSupply) (positive : 0 < poolTokens)
    (within : poolTokens ≤ pool.poolTokenSupply)
    (rates : feeRate pool.stakeWithdrawalFee ≤ feeRate dearer.stakeWithdrawalFee) :
    Dearer pool dearer poolTokens := by
  have tokens : IsU64 poolTokens := ⟨positive.le, within.trans valid.supply.2⟩
  have falls : ∀ feeExempt, redeemed dearer feeExempt poolTokens ≤ redeemed pool feeExempt poolTokens :=
    fun feeExempt => redeemed_anti valid valid' sameTotal sameSupply positive.le
      (feeRate_charged_mono feeExempt rates)
  refine ⟨⟨_, _, redemptionOf_eq valid tokens, redemptionOf_eq valid' tokens, falls false⟩, ?_⟩
  intro feeExempt quote' given
  exact quoted_of_le valid' positive (within.trans sameSupply.ge) valid positive within (falls feeExempt)
    given

/-- For a decoded pool and any amount of tokens it can redeem, the two estimates agree, stay within
the pool's lamports, grow with the tokens and with an exemption, and fall with the fee rate. -/
theorem redemption_estimates_safe {derived : String × Nat} {account : AccountInfo} {currentEpoch : Int}
    {pool : JitoStakePoolSnapshot} {poolTokens : Int}
    (decoded : decodeJitoStakePool derived account currentEpoch = .ok pool)
    (positive : 0 < poolTokens) (within : poolTokens ≤ pool.poolTokenSupply) :
    Estimates pool.toWithdrawalTerms poolTokens ∧
      ∀ derived' account' currentEpoch' dearer,
        decodeJitoStakePool derived' account' currentEpoch' = .ok dearer →
        dearer.totalLamports = pool.totalLamports → dearer.poolTokenSupply = pool.poolTokenSupply →
        feeRate pool.stakeWithdrawalFee ≤ feeRate dearer.stakeWithdrawalFee →
        Dearer pool.toWithdrawalTerms dearer.toWithdrawalTerms poolTokens := by
  have valid := decoded_valid decoded
  refine ⟨estimates_of_valid valid positive within, ?_⟩
  intro derived' account' currentEpoch' dearer decoded' sameTotal sameSupply rates
  exact dearer_of_valid valid (decoded_valid decoded') sameTotal sameSupply positive within rates

/-! ## A pool -/

/-- The bytes of the Jito mint and of the token program. -/
def mintBytes : List UInt8 :=
  [252, 209, 65, 233, 131, 44, 175, 16, 173, 145, 116, 149, 202, 15, 39, 27, 91, 41, 60, 212, 112, 39,
    234, 115, 112, 7, 237, 64, 235, 57, 160, 189]

def tokenProgramBytes : List UInt8 :=
  [6, 221, 246, 225, 215, 101, 161, 147, 217, 203, 225, 70, 206, 235, 121, 172, 28, 180, 133, 237, 95,
    91, 55, 145, 58, 140, 245, 133, 126, 255, 0, 169]

/-- A pool of 1100 lamports and 1000 tokens that charges one thousandth. -/
def sampleAccount : AccountInfo where
  owner := STAKE_POOL_PROGRAM_ID
  executable := false
  data := [1] ++ List.replicate 96 0 ++ [255] ++ List.replicate 64 0 ++ mintBytes ++
    List.replicate 32 0 ++ tokenProgramBytes ++ WireFormat.littleEndian 8 1100 ++
    WireFormat.littleEndian 8 1000 ++ WireFormat.littleEndian 8 7 ++ List.replicate 48 0 ++
    List.replicate 16 0 ++ [0, 0, 0] ++ List.replicate 16 0 ++ WireFormat.littleEndian 8 1000 ++
    WireFormat.littleEndian 8 1 ++ [0, 0, 0] ++ List.replicate 16 0 ++ [0, 0] ++
    List.replicate 16 0 ++ [0] ++ List.replicate 16 0

def samplePool : JitoStakePoolSnapshot where
  totalLamports := 1100
  poolTokenSupply := 1000
  stakeWithdrawalFee := ⟨1, 1000⟩
  poolAddress := JITO_STAKE_POOL
  withdrawAuthority := "authority"
  validatorList := DEFAULT_PUBLIC_KEY
  reserveStake := DEFAULT_PUBLIC_KEY
  poolMint := JITO_MINT
  managerFeeAccount := DEFAULT_PUBLIC_KEY
  tokenProgramId := TOKEN_PROGRAM_ID
  lastUpdateEpoch := 7
  currentEpoch := 7
  preferredWithdrawValidatorVoteAddress := none

theorem samplePool_decoded : decodeJitoStakePool ("authority", 255) sampleAccount 7 = .ok samplePool := by
  decide +kernel

theorem redemption_estimates_safe_sample :
    decodeJitoStakePool ("authority", 255) sampleAccount 7 = .ok samplePool ∧
      Estimates samplePool.toWithdrawalTerms 500 :=
  ⟨samplePool_decoded, (redemption_estimates_safe samplePool_decoded (by decide) (by decide)).1⟩

end SolTokenListener.Guarantees.JitoRedemption
