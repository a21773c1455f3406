import Mathlib.Data.Rat.Floor
import SolTokenListener.Lib.SaturatingFold
import SolTokenListener.Source.ExecutionRiskPolicy

/-!
# Buy-risk admission agrees with exact arithmetic

The decision of `evaluateBuyRisk` is compared with conditions over unbounded integers and
rationals. Bounds on the policy and the amounts are derived from the input's acceptance;
none of them is supplied as a premise.
-/

namespace SolTokenListener.Guarantees.BuyRisk

open Lib.Checked Lib.SaturatingFold
open Source.ExecutionRiskPolicy

variable {input : ExecutionBuyRiskInputV1} {positions : List ExecutionOpenPositionRiskInputV1}
variable {sha256Hex : String → String} {loss capital pause : Int}

def exactCapital (input : ExecutionBuyRiskInputV1) : Int :=
  min (max 0 (input.policy.initialCapitalLamports + input.realizedNetPnlLamports))
    input.policy.maximumCapitalLamports

def exactLoss (input : ExecutionBuyRiskInputV1) : Int :=
  (input.openPositions.map fun position =>
    max 0 (position.costBasisLamports - position.conservativeLiquidationLamports.getD 0)).sum

/-- The admission conditions in exact arithmetic. `zeroCapitalBps` is the drawdown assigned
to a loss on zero capital, where the quotient has no value. -/
structure ExactlyAdmissible (zeroCapitalBps : Int) (input : ExecutionBuyRiskInputV1) : Prop where
  quoteMint : input.quoteMint ∈ input.policy.quoteMintAllowlist
  reconciled : ∀ position ∈ input.openPositions, position.reconciliationStatus ≠ .UNKNOWN
  failures : input.consecutiveTechnicalFailures < 2
  positionLimit : input.requestedQuoteAmountRaw ≤
    ⌊((max 0 (exactCapital input - input.policy.feeReserveLamports) *
      input.policy.positionSizeBps : Int) : ℚ) / 10000⌋
  openPositions : (input.openPositions.length : Int) < input.policy.maximumOpenPositions
  exposure : input.reservedExposureLamports + input.requestedQuoteAmountRaw ≤
    ⌊((exactCapital input * input.policy.maximumTotalExposureBps : Int) : ℚ) / 10000⌋
  drawdown : exactLoss input = 0 ∨
    (if exactCapital input = 0 then zeroCapitalBps
      else ⌈((10000 * exactLoss input : Int) : ℚ) / (exactCapital input : ℚ)⌉) <
      input.policy.drawdownPauseBps

/-! ## What acceptance says -/

@[simp] theorem catchInvalid_eq_ok {α : Type} {run : Checked α} {value : α} :
    catchInvalid run = .ok value ↔ run = .ok value := by
  cases run <;> simp [catchInvalid]

@[simp] theorem text_eq_ok {value result : String} {maximumBytes : Nat} :
    text value maximumBytes = .ok result ↔
      result = value ∧ value.length ≠ 0 ∧ value.utf8ByteSize ≤ maximumBytes := by
  simp only [text, bind_eq_ok, require_eq_ok, pure_eq_ok, exists_const]
  tauto

/-- What `policyInputFrom` establishes of an accepted policy. -/
structure PolicyAccepted (policy : ExecutionRiskPolicyInputV1) : Prop where
  allowlist : policy.quoteMintAllowlist = [WSOL_MINT]
  initialCapital : 0 ≤ policy.initialCapitalLamports ∧ policy.initialCapitalLamports ≤ U64_MAX
  maximumCapital : 1 ≤ policy.maximumCapitalLamports ∧ policy.maximumCapitalLamports ≤ U64_MAX
  positionSize : 1 ≤ policy.positionSizeBps ∧ policy.positionSizeBps ≤ 1000
  openPositions : 1 ≤ policy.maximumOpenPositions ∧ policy.maximumOpenPositions ≤ 2
  totalExposure : 1 ≤ policy.maximumTotalExposureBps ∧ policy.maximumTotalExposureBps ≤ 2000
  drawdownPause : 1 ≤ policy.drawdownPauseBps ∧ policy.drawdownPauseBps ≤ 2500
  feeReserve : 0 ≤ policy.feeReserveLamports ∧ policy.feeReserveLamports ≤ U64_MAX
  failures : policy.maximumConsecutiveTechnicalFailures = 2
  capitalOrder : policy.initialCapitalLamports ≤ policy.maximumCapitalLamports ∧
    policy.feeReserveLamports ≤ policy.maximumCapitalLamports

theorem policyInputFrom_ok {policy fields : ExecutionRiskPolicyInputV1}
    (accepted : policyInputFrom policy = .ok fields) :
    fields = policy ∧ PolicyAccepted policy := by
  simp only [policyInputFrom, quoteMintAllowlistFrom, unsignedBigint, positiveBigint, bind_eq_ok,
    require_eq_ok, pure_eq_ok, inRange_eq_ok, exists_const] at accepted
  obtain ⟨_, ⟨allowlist, rfl⟩, _, ⟨rfl, initialCapital⟩, _, ⟨rfl, maximumCapital⟩, _,
    ⟨rfl, positionSize⟩, _, ⟨rfl, openPositions⟩, _, ⟨rfl, totalExposure⟩, _,
    ⟨rfl, drawdownPause⟩, _, ⟨rfl, feeReserve⟩, _, ⟨rfl, -⟩, _, ⟨rfl, -⟩, _, ⟨rfl, -⟩, _,
    ⟨rfl, -⟩, _, ⟨rfl, -⟩, _, ⟨rfl, -⟩, _, ⟨rfl, -⟩, _, ⟨rfl, failures⟩, order, rfl⟩ := accepted
  exact ⟨rfl, allowlist, initialCapital, maximumCapital, positionSize, openPositions,
    totalExposure, drawdownPause, feeReserve, by omega, by omega⟩

theorem policyFrom_ok {policy fields : ExecutionRiskPolicyV1}
    (accepted : policyFrom sha256Hex policy = .ok fields) :
    fields = policy ∧ PolicyAccepted policy.toExecutionRiskPolicyInputV1 := by
  simp only [policyFrom, fingerprintFrom, bind_eq_ok, require_eq_ok, pure_eq_ok,
    exists_const] at accepted
  obtain ⟨version, _, ⟨_, rfl⟩, inner, fieldsAccepted, _, rfl⟩ := accepted
  obtain ⟨rfl, bounds⟩ := policyInputFrom_ok fieldsAccepted
  refine ⟨?_, bounds⟩
  rw [← version]

/-- What `positionsFrom` establishes of each accepted position. -/
structure PositionAccepted (position : ExecutionOpenPositionRiskInputV1) : Prop where
  identity : position.positionId.length ≠ 0 ∧ position.positionId.utf8ByteSize ≤ 128
  costBasis : 0 ≤ position.costBasisLamports ∧ position.costBasisLamports ≤ U64_MAX
  liquidation : ∀ amount ∈ position.conservativeLiquidationLamports, 0 ≤ amount ∧ amount ≤ U64_MAX

theorem nullableUnsignedBigint_eq_ok {value result : Option Int} :
    nullableUnsignedBigint value = .ok result ↔
      result = value ∧ ∀ amount ∈ value, 0 ≤ amount ∧ amount ≤ U64_MAX := by
  cases value with
  | none =>
    simp only [nullableUnsignedBigint, pure_eq_ok, Option.mem_def, reduceCtorEq, false_implies,
      implies_true, and_true]
    exact eq_comm
  | some amount =>
    simp only [nullableUnsignedBigint, map_eq_pure_bind, unsignedBigint, bind_eq_ok,
      inRange_eq_ok, pure_eq_ok, Option.mem_def, Option.some.injEq, forall_eq']
    constructor
    · rintro ⟨_, ⟨rfl, bounds⟩, rfl⟩
      exact ⟨rfl, bounds⟩
    · rintro ⟨rfl, bounds⟩
      exact ⟨amount, ⟨rfl, bounds⟩, rfl⟩

theorem positionFrom_eq_ok {position result : ExecutionOpenPositionRiskInputV1} :
    positionFrom position = .ok result ↔ result = position ∧
      (0 ≤ position.costBasisLamports ∧ position.costBasisLamports ≤ U64_MAX) ∧
      ∀ amount ∈ position.conservativeLiquidationLamports, 0 ≤ amount ∧ amount ≤ U64_MAX := by
  simp only [positionFrom, unsignedBigint, bind_eq_ok, inRange_eq_ok, pure_eq_ok,
    nullableUnsignedBigint_eq_ok]
  constructor
  · rintro ⟨_, ⟨rfl, cost⟩, _, ⟨rfl, liquidation⟩, rfl⟩
    exact ⟨rfl, cost, liquidation⟩
  · rintro ⟨rfl, cost, liquidation⟩
    exact ⟨_, ⟨rfl, cost⟩, _, ⟨rfl, liquidation⟩, rfl⟩

theorem positionsLoop_eq_ok {identities : List String}
    {result : List ExecutionOpenPositionRiskInputV1} :
    positionsLoop identities positions = .ok result ↔
      result = positions ∧ (∀ position ∈ positions, PositionAccepted position) ∧
        (positions.map (·.positionId)).Nodup ∧
        ∀ position ∈ positions, position.positionId ∉ identities := by
  induction positions generalizing identities result with
  | nil =>
    simp only [positionsLoop, pure_eq_ok, List.not_mem_nil, false_implies, implies_true,
      List.map_nil, List.nodup_nil, and_true]
    exact eq_comm
  | cons position rest ih =>
    simp only [positionsLoop, bind_eq_ok, text_eq_ok, require_eq_ok, exists_const,
      positionFrom_eq_ok, ih, pure_eq_ok, List.forall_mem_cons, List.map_cons, List.nodup_cons]
    constructor
    · rintro ⟨_, ⟨rfl, identity⟩, fresh, _, ⟨rfl, cost, liquidation⟩, _,
        ⟨rfl, accepted, distinct, unseen⟩, rfl⟩
      refine ⟨rfl, ⟨⟨identity, cost, liquidation⟩, accepted⟩, ⟨?_, distinct⟩, fresh, ?_⟩
      · intro again
        obtain ⟨other, member, same⟩ := List.mem_map.mp again
        exact unseen other member (by simp [same])
      · intro other member seen
        exact unseen other member (List.mem_cons_of_mem _ seen)
    · rintro ⟨rfl, ⟨head, accepted⟩, ⟨fresh, distinct⟩, unseen, unseenRest⟩
      refine ⟨_, ⟨rfl, head.identity⟩, unseen, _, ⟨rfl, head.costBasis, head.liquidation⟩, _,
        ⟨rfl, accepted, distinct, ?_⟩, rfl⟩
      intro other member seen
      rcases List.mem_cons.mp seen with same | seen
      · exact fresh (List.mem_map.mpr ⟨other, member, same⟩)
      · exact unseenRest other member seen

theorem positionsFrom_eq_ok {result : List ExecutionOpenPositionRiskInputV1} :
    positionsFrom positions = .ok result ↔
      result = positions ∧ positions.length ≤ MAX_POSITION_INPUTS ∧
        (∀ position ∈ positions, PositionAccepted position) ∧
        (positions.map (·.positionId)).Nodup := by
  simp only [positionsFrom, bind_eq_ok, require_eq_ok, exists_const, positionsLoop_eq_ok,
    List.not_mem_nil, not_false_eq_true, implies_true, and_true]
  tauto

/-- What `riskInputFrom` establishes of an accepted input; it returns the input unchanged. -/
structure InputAccepted (input : ExecutionBuyRiskInputV1) : Prop where
  policy : PolicyAccepted input.policy.toExecutionRiskPolicyInputV1
  requested : 1 ≤ input.requestedQuoteAmountRaw ∧ input.requestedQuoteAmountRaw ≤ U64_MAX
  reserved : 0 ≤ input.reservedExposureLamports ∧ input.reservedExposureLamports ≤ U64_MAX
  positions : ∀ position ∈ input.openPositions, PositionAccepted position

theorem riskInputFrom_ok {fields : ExecutionBuyRiskInputV1}
    (accepted : riskInputFrom sha256Hex input = .ok fields) :
    fields = input ∧ InputAccepted input := by
  simp only [riskInputFrom, positiveBigint, unsignedBigint, signedBigint, bind_eq_ok,
    inRange_eq_ok, text_eq_ok, positionsFrom_eq_ok, require_eq_ok, pure_eq_ok,
    exists_const] at accepted
  obtain ⟨_, policyAccepted, _, ⟨rfl, -⟩, _, ⟨rfl, requested⟩, _, ⟨rfl, -⟩, _, ⟨rfl, reserved⟩,
    _, ⟨rfl, -, positions, -⟩, _, ⟨rfl, -⟩, -, rfl⟩ := accepted
  obtain ⟨rfl, policy⟩ := policyFrom_ok policyAccepted
  exact ⟨rfl, policy, requested, reserved, positions⟩

/-- Acceptance does not depend on the order in which the positions are listed. -/
theorem riskInputFrom_perm (order : positions.Perm input.openPositions)
    (accepted : riskInputFrom sha256Hex input = .ok input) :
    riskInputFrom sha256Hex { input with openPositions := positions } =
      .ok { input with openPositions := positions } := by
  simp only [riskInputFrom, bind_eq_ok, positionsFrom_eq_ok, require_eq_ok, pure_eq_ok,
    exists_const] at accepted ⊢
  obtain ⟨policy, policyOk, mint, mintOk, requested, requestedOk, pnl, pnlOk, reserved, reservedOk,
    _, ⟨rfl, few, each, distinct⟩, failures, failuresOk, reasonOk, same⟩ := accepted
  refine ⟨policy, policyOk, mint, mintOk, requested, requestedOk, pnl, pnlOk, reserved, reservedOk,
    _, ⟨rfl, ?_, ?_, ?_⟩, failures, failuresOk, reasonOk, ?_⟩
  · rwa [order.length_eq]
  · exact fun position member => each position (order.mem_iff.mp member)
  · exact (order.map _).nodup_iff.mpr distinct
  · rw [← same]

/-! ## The decision on accepted fields -/

theorem minimum_eq_min (left right : Int) : minimum left right = min left right := by
  unfold minimum
  split <;> omega

theorem maximum_eq_max (left right : Int) : maximum left right = max left right := by
  unfold maximum
  split <;> omega

/-- The reducer saturates, so it returns the exact loss clamped once to `u64`. -/
theorem lossFold_eq_min (input : ExecutionBuyRiskInputV1) :
    input.openPositions.foldl (fun sum position => saturatedU64Add sum (unrealizedLoss position)) 0 =
      min U64_MAX (exactLoss input) := by
  have fold : input.openPositions.foldl
      (fun sum position => saturatedU64Add sum (unrealizedLoss position)) 0 =
      (input.openPositions.map unrealizedLoss).foldl (satAdd U64_MAX) 0 := by
    rw [List.foldl_map]
    rfl
  have nonneg : ∀ loss ∈ input.openPositions.map unrealizedLoss, (0 : Int) ≤ loss := by
    intro loss member
    obtain ⟨position, -, rfl⟩ := List.mem_map.mp member
    rw [unrealizedLoss, maximum_eq_max]
    exact le_max_left _ _
  have exact : input.openPositions.map unrealizedLoss = input.openPositions.map fun position =>
      max 0 (position.costBasisLamports - position.conservativeLiquidationLamports.getD 0) :=
    List.map_congr_left fun _ _ => maximum_eq_max _ _
  rw [fold, foldl_satAdd_zero (by decide) _ nonneg, exact, exactLoss]

theorem exactLoss_nonneg (input : ExecutionBuyRiskInputV1) : 0 ≤ exactLoss input := by
  apply List.sum_nonneg
  intro loss member
  obtain ⟨position, -, rfl⟩ := List.mem_map.mp member
  exact le_max_left _ _

theorem tdiv_bps_eq_floor {amount : Int} (nonneg : 0 ≤ amount) :
    amount.tdiv BPS_DENOMINATOR = ⌊(amount : ℚ) / 10000⌋ := by
  rw [Int.tdiv_eq_ediv_of_nonneg nonneg]
  exact (Rat.floor_intCast_div_natCast amount 10000).symm

/-- Both roundings up compare with a threshold through the same integer product. -/
theorem ceil_lt_iff (positive : 0 < capital) :
    ⌈((10000 * loss : Int) : ℚ) / (capital : ℚ)⌉ < pause ↔ 10000 * loss ≤ (pause - 1) * capital := by
  have positive' : (0 : ℚ) < capital := by exact_mod_cast positive
  rw [← Int.le_sub_one_iff, Int.ceil_le, div_le_iff₀ positive']
  exact_mod_cast Iff.rfl

theorem drawdownBasisPoints_lt_iff (nonneg : 0 < loss) (positive : 0 < capital) :
    drawdownBasisPoints loss capital < pause ↔ 10000 * loss ≤ (pause - 1) * capital := by
  unfold drawdownBasisPoints
  rw [if_neg nonneg.ne', if_neg positive.ne', Int.tdiv_eq_ediv_of_nonneg (by unfold BPS_DENOMINATOR; omega),
    Int.ediv_lt_iff_lt_mul positive, BPS_DENOMINATOR]
  constructor
  · intro h
    linarith
  · intro h
    linarith

/-- A loss at or above the `u64` cap is at least the capital, far past every threshold. -/
theorem saturated_drawdown_lt_iff (nonneg : 0 ≤ loss) (positive : 0 < capital)
    (fits : capital ≤ U64_MAX) (low : 1 ≤ pause) (high : pause ≤ 2500) :
    drawdownBasisPoints (min U64_MAX loss) capital < pause ↔
      loss = 0 ∨ ⌈((10000 * loss : Int) : ℚ) / (capital : ℚ)⌉ < pause := by
  rcases nonneg.eq_or_lt with zero | lossPositive
  · subst zero
    rw [min_eq_right (by decide)]
    simp [drawdownBasisPoints]
    omega
  have cap : (0 : Int) < U64_MAX := by decide
  rw [ceil_lt_iff positive, drawdownBasisPoints_lt_iff (lt_min cap lossPositive) positive]
  rcases le_total loss U64_MAX with exact | saturated
  · rw [min_eq_right exact]
    constructor
    · exact Or.inr
    · rintro (zero | below)
      · omega
      · exact below
  · rw [min_eq_left saturated]
    have product : (pause - 1) * capital ≤ 2499 * capital :=
      mul_le_mul_of_nonneg_right (by omega) positive.le
    constructor
    · intro below
      omega
    · rintro (zero | below)
      · omega
      · omega

theorem rejectionReason_eq_none {positionLimit exposureLimit projected drawdown : Int} :
    rejectionReason input positionLimit exposureLimit projected drawdown = none ↔
      input.quoteMint ∈ input.policy.quoteMintAllowlist ∧
      (∀ position ∈ input.openPositions, position.reconciliationStatus ≠ .UNKNOWN) ∧
      input.consecutiveTechnicalFailures < input.policy.maximumConsecutiveTechnicalFailures ∧
      input.requestedQuoteAmountRaw ≤ positionLimit ∧
      (input.openPositions.length : Int) < input.policy.maximumOpenPositions ∧
      projected ≤ exposureLimit ∧ drawdown < input.policy.drawdownPauseBps := by
  unfold rejectionReason
  split
  · next h => simp [h]
  · next h =>
    split
    · next unknown =>
        simp only [reduceCtorEq, false_iff]
        rintro ⟨-, reconciled, -⟩
        obtain ⟨position, member, status⟩ := List.any_eq_true.mp unknown
        exact reconciled position member (by simpa using status)
    · next unknown =>
      have reconciled : ∀ position ∈ input.openPositions,
          position.reconciliationStatus ≠ .UNKNOWN := by
        intro position member status
        exact unknown (List.any_eq_true.mpr ⟨position, member, by simp [status]⟩)
      have listed : input.quoteMint ∈ input.policy.quoteMintAllowlist := not_not.mp h
      simp only [listed, true_and, and_iff_right reconciled]
      repeat' split
      all_goals simp only [reduceCtorEq, true_iff, false_iff]
      all_goals omega

theorem exactCapital_bounds (accepted : InputAccepted input) :
    0 ≤ exactCapital input ∧ exactCapital input ≤ U64_MAX := by
  have maximumCapital := accepted.policy.maximumCapital
  unfold exactCapital
  omega

/-- The projected exposure saturates only above every exposure limit. -/
theorem saturatedExposure_le_iff (accepted : InputAccepted input) :
    saturatedU64Add input.reservedExposureLamports input.requestedQuoteAmountRaw ≤
        (exactCapital input * input.policy.maximumTotalExposureBps).tdiv BPS_DENOMINATOR ↔
      input.reservedExposureLamports + input.requestedQuoteAmountRaw ≤
        (exactCapital input * input.policy.maximumTotalExposureBps).tdiv BPS_DENOMINATOR := by
  obtain ⟨capitalNonneg, capitalFits⟩ := exactCapital_bounds accepted
  obtain ⟨exposureLow, exposureHigh⟩ := accepted.policy.totalExposure
  have product : exactCapital input * input.policy.maximumTotalExposureBps ≤ U64_MAX * 2000 :=
    mul_le_mul capitalFits exposureHigh (by omega) (by decide)
  have nonneg : 0 ≤ exactCapital input * input.policy.maximumTotalExposureBps :=
    mul_nonneg capitalNonneg (by omega)
  have limit : (exactCapital input * input.policy.maximumTotalExposureBps).tdiv BPS_DENOMINATOR <
      U64_MAX := by
    rw [Int.tdiv_eq_ediv_of_nonneg nonneg, Int.ediv_lt_iff_lt_mul (by decide)]
    exact product.trans_lt (by decide)
  have saturates := satAdd_eq_min U64_MAX input.reservedExposureLamports
    input.requestedQuoteAmountRaw
  change saturatedU64Add _ _ = _ at saturates
  rw [saturates]
  omega

theorem decision_admissible_iff (accepted : InputAccepted input) (zeroCapitalBps : Int) :
    (decision input).kind = .ADMISSIBLE ↔ ExactlyAdmissible zeroCapitalBps input := by
  obtain ⟨capitalNonneg, capitalFits⟩ := exactCapital_bounds accepted
  have policy := accepted.policy
  have capital : min (max 0 (input.policy.initialCapitalLamports + input.realizedNetPnlLamports))
      input.policy.maximumCapitalLamports = exactCapital input := rfl
  have admissible : (decision input).kind = .ADMISSIBLE ↔ (decision input).reasonCode = none := by
    simp only [decision]
    split <;> simp_all
  have afterReserve : 0 ≤ max 0 (exactCapital input - input.policy.feeReserveLamports) *
      input.policy.positionSizeBps :=
    mul_nonneg (le_max_left _ _) (by have := policy.positionSize.1; omega)
  have exposed : 0 ≤ exactCapital input * input.policy.maximumTotalExposureBps :=
    mul_nonneg capitalNonneg (by have := policy.totalExposure.1; omega)
  rw [admissible]
  simp only [decision, minimum_eq_min, maximum_eq_max, capital, lossFold_eq_min,
    rejectionReason_eq_none, saturatedExposure_le_iff accepted, policy.failures]
  rw [tdiv_bps_eq_floor afterReserve, tdiv_bps_eq_floor exposed]
  -- Zero capital admits no purchase, whatever drawdown a loss on it is assigned.
  rcases capitalNonneg.eq_or_lt with zero | positive
  · have noPosition : ¬ input.requestedQuoteAmountRaw ≤
        ⌊((max 0 (exactCapital input - input.policy.feeReserveLamports) *
          input.policy.positionSizeBps : Int) : ℚ) / 10000⌋ := by
      have reserve : max 0 (exactCapital input - input.policy.feeReserveLamports) = 0 :=
        max_eq_left (by have := policy.feeReserve.1; omega)
      rw [reserve]
      have requested := accepted.requested.1
      simp
      omega
    constructor
    · intro conditions
      exact absurd conditions.2.2.2.1 noPosition
    · intro conditions
      exact absurd conditions.positionLimit noPosition
  · rw [saturated_drawdown_lt_iff (exactLoss_nonneg input) positive capitalFits
      policy.drawdownPause.1 policy.drawdownPause.2]
    constructor
    · rintro ⟨mint, reconciled, failures, position, openPositions, exposure, drawdown⟩
      refine ⟨mint, reconciled, failures, position, openPositions, exposure, ?_⟩
      rwa [if_neg positive.ne']
    · rintro ⟨mint, reconciled, failures, position, openPositions, exposure, drawdown⟩
      rw [if_neg positive.ne'] at drawdown
      exact ⟨mint, reconciled, failures, position, openPositions, exposure, drawdown⟩

theorem rejectionReason_perm (order : positions.Perm input.openPositions)
    (positionLimit exposureLimit projected drawdown : Int) :
    rejectionReason { input with openPositions := positions } positionLimit exposureLimit projected
        drawdown =
      rejectionReason input positionLimit exposureLimit projected drawdown := by
  simp only [rejectionReason, order.length_eq, order.any_eq]

/-- Every field of the decision, reason and loss included, ignores the position order. -/
theorem decision_perm (order : positions.Perm input.openPositions) :
    decision { input with openPositions := positions } = decision input := by
  have loss : exactLoss { input with openPositions := positions } = exactLoss input :=
    (order.map _).sum_eq
  have folded := lossFold_eq_min { input with openPositions := positions }
  simp only [loss, ← lossFold_eq_min input] at folded
  simp only [decision, rejectionReason_perm order, folded, order.length_eq]

/-- `evaluateBuyRisk` admits exactly the inputs that exact arithmetic admits, whatever drawdown
a loss on zero capital is assigned, and its decision ignores the order of the positions. -/
theorem evaluateBuyRisk_exact (sha256Hex : String → String) (input : ExecutionBuyRiskInputV1)
    (result : ExecutionBuyRiskDecisionV1) (accepted : evaluateBuyRisk sha256Hex input = .ok result) :
    (∀ zeroCapitalBps, result.kind = .ADMISSIBLE ↔ ExactlyAdmissible zeroCapitalBps input) ∧
      ∀ positions, positions.Perm input.openPositions →
        evaluateBuyRisk sha256Hex { input with openPositions := positions } = .ok result := by
  simp only [evaluateBuyRisk, catchInvalid_eq_ok, bind_eq_ok, pure_eq_ok] at accepted ⊢
  obtain ⟨fields, fieldsOk, rfl⟩ := accepted
  obtain ⟨rfl, bounds⟩ := riskInputFrom_ok fieldsOk
  refine ⟨decision_admissible_iff bounds, ?_⟩
  intro positions order
  exact ⟨_, riskInputFrom_perm order fieldsOk, decision_perm order⟩

/-- One lamport-denominated input of ordinary size: 1 SOL of capital, one holding with a loss. -/
def sampleInput : ExecutionBuyRiskInputV1 where
  policy :=
    { quoteMintAllowlist := [WSOL_MINT]
      initialCapitalLamports := 1000000000
      maximumCapitalLamports := 2000000000
      positionSizeBps := 500
      maximumOpenPositions := 2
      maximumTotalExposureBps := 2000
      drawdownPauseBps := 1000
      feeReserveLamports := 10000000
      walletSnapshotMaxAgeMs := 60000
      providerUsageMaxAgeMs := 60000
      providerEntryCostUnits := 1
      providerExitCostUnitsPerPosition := 1
      providerConfirmationCostUnitsPerPosition := 1
      providerReconciliationCostUnitsPerPosition := 1
      providerSafetyMarginUnits := 0
      maximumConsecutiveTechnicalFailures := 2
      payloadVersion := 1
      policyFingerprint := "0123456789abcdef0123456789abcdef0123456789abcdef0123456789abcdef" }
  quoteMint := WSOL_MINT
  requestedQuoteAmountRaw := 10000000
  realizedNetPnlLamports := -50000000
  reservedExposureLamports := 20000000
  openPositions := [⟨"position-1", 20000000, some 19000000, .RECONCILED⟩]
  consecutiveTechnicalFailures := 1
  lastTechnicalFailureReasonCode := some .confirmationTimeout

theorem evaluateBuyRisk_exact_sample :
    (decision sampleInput).kind = .ADMISSIBLE ∧
      (∀ zeroCapitalBps, (decision sampleInput).kind = .ADMISSIBLE ↔
        ExactlyAdmissible zeroCapitalBps sampleInput) ∧
      ∀ positions, positions.Perm sampleInput.openPositions →
        evaluateBuyRisk (fun _ => sampleInput.policy.policyFingerprint)
          { sampleInput with openPositions := positions } = .ok (decision sampleInput) :=
  ⟨rfl, evaluateBuyRisk_exact (fun _ => sampleInput.policy.policyFingerprint) sampleInput
    (decision sampleInput) rfl⟩

end SolTokenListener.Guarantees.BuyRisk
