import SolTokenListener.Guarantees.BuyRisk
import SolTokenListener.Lib.Base58
import SolTokenListener.Source.EntryEnvelope

/-!
# What an accepted entry envelope guarantees

Acceptance evaluates the risk policy once, at the loss cap. The limits of the policy do not shrink
when the realized result grows, so the same buy is admissible at every better result. The arming
decisions of an envelope are taken on a count that starts at zero and grows by one per decision to
arm; any other fact may differ from one decision to the next.
-/

namespace SolTokenListener.Guarantees.EntryEnvelopeSafety

open Lib.Checked
open Source.SafetyQualification
  (Libraries ExecutionSafetyGateId ExecutionSafetyEvidenceType ExecutionSafetyGateEvidenceV1
    ExecutionSafetyQualification gateTable)
open Source.EntryEnvelope
open Guarantees.BuyRisk
open Source.ExecutionRiskPolicy
  (ExecutionRiskPolicyV1 ExecutionBuyRiskInputV1 ExecutionBuyRiskDecisionV1 evaluateBuyRisk
    riskInputFrom decision I128_MAX I128_MIN U64_MAX WSOL_MINT)

variable {libraries : Libraries} {envelope : EntryEnvelopeV2} {policy : ExecutionRiskPolicyV1}
variable {amount pnl better : Int}

/-! ## Admission -/

theorem exactCapital_mono (smaller : pnl ≤ better) :
    exactCapital (lonelyBuy policy amount pnl) ≤ exactCapital (lonelyBuy policy amount better) := by
  simp only [exactCapital, lonelyBuy]
  omega

theorem bpsFloor_mono {smaller larger : Int} (le : smaller ≤ larger) :
    ⌊(smaller : ℚ) / 10000⌋ ≤ ⌊(larger : ℚ) / 10000⌋ := by
  have cast : (smaller : ℚ) ≤ larger := by exact_mod_cast le
  exact Int.floor_le_floor (div_le_div_of_nonneg_right cast (by norm_num))

/-- Every limit grows with the realized result, and nothing else depends on it. -/
theorem exactlyAdmissible_mono {zeroCapitalBps : Int}
    (accepted : InputAccepted (lonelyBuy policy amount pnl)) (smaller : pnl ≤ better)
    (admissible : ExactlyAdmissible zeroCapitalBps (lonelyBuy policy amount pnl)) :
    ExactlyAdmissible zeroCapitalBps (lonelyBuy policy amount better) := by
  have capital : exactCapital (lonelyBuy policy amount pnl) ≤
      exactCapital (lonelyBuy policy amount better) := exactCapital_mono smaller
  have sizeNonneg : 0 ≤ policy.positionSizeBps := by
    have low : 1 ≤ policy.positionSizeBps := accepted.policy.positionSize.1
    omega
  have exposureNonneg : 0 ≤ policy.maximumTotalExposureBps := by
    have low : 1 ≤ policy.maximumTotalExposureBps := accepted.policy.totalExposure.1
    omega
  refine ⟨admissible.quoteMint, admissible.reconciled, admissible.failures,
    admissible.positionLimit.trans ?_, admissible.openPositions, admissible.exposure.trans ?_,
    .inl rfl⟩
  · have afterReserve : max 0 (exactCapital (lonelyBuy policy amount pnl) - policy.feeReserveLamports) ≤
        max 0 (exactCapital (lonelyBuy policy amount better) - policy.feeReserveLamports) := by omega
    exact bpsFloor_mono (mul_le_mul_of_nonneg_right afterReserve sizeNonneg)
  · exact bpsFloor_mono (mul_le_mul_of_nonneg_right capital exposureNonneg)

theorem riskInputFrom_lonelyBuy {sha256Hex : String → String} {fields : ExecutionBuyRiskInputV1}
    (accepted : riskInputFrom sha256Hex (lonelyBuy policy amount pnl) = .ok fields)
    (low : I128_MIN ≤ better) (high : better ≤ I128_MAX) :
    riskInputFrom sha256Hex (lonelyBuy policy amount better) = .ok (lonelyBuy policy amount better) := by
  obtain ⟨rfl, -⟩ := riskInputFrom_ok accepted
  simp only [riskInputFrom, Source.ExecutionRiskPolicy.signedBigint, bind_eq_ok, inRange_eq_ok,
    require_eq_ok, pure_eq_ok, exists_const] at accepted ⊢
  obtain ⟨found, policyOk, mint, mintOk, requested, requestedOk, _, ⟨rfl, -⟩, reserved, reservedOk,
    positions, positionsOk, failures, failuresOk, reasonOk, same⟩ := accepted
  refine ⟨found, policyOk, mint, mintOk, requested, requestedOk, _, ⟨rfl, low, high⟩, reserved,
    reservedOk, positions, positionsOk, failures, failuresOk, reasonOk, ?_⟩
  simp only [lonelyBuy, ExecutionBuyRiskInputV1.mk.injEq] at same ⊢
  exact ⟨same.1, same.2.1, same.2.2.1, trivial, same.2.2.2.2⟩

/-- The buy is evaluated, and admitted. -/
def Admits (libraries : Libraries) (buy : ExecutionBuyRiskInputV1) : Prop :=
  ∃ decision, evaluateBuyRisk libraries.sha256Hex buy = .ok decision ∧ decision.kind = .ADMISSIBLE

theorem admits_mono (admits : Admits libraries (lonelyBuy policy amount pnl)) (smaller : pnl ≤ better)
    (high : better ≤ I128_MAX) : Admits libraries (lonelyBuy policy amount better) := by
  obtain ⟨_, evaluated, admissible⟩ := admits
  simp only [evaluateBuyRisk, catchInvalid_eq_ok, bind_eq_ok, pure_eq_ok] at evaluated
  obtain ⟨fields, accepted, rfl⟩ := evaluated
  have bounds : I128_MIN ≤ pnl := by
    simp only [riskInputFrom, Source.ExecutionRiskPolicy.signedBigint, bind_eq_ok, inRange_eq_ok] at accepted
    obtain ⟨_, -, _, -, _, -, _, ⟨-, low, -⟩, -⟩ := accepted
    exact low
  have acceptedBetter := riskInputFrom_lonelyBuy accepted (bounds.trans smaller) high
  obtain ⟨rfl, inputAccepted⟩ := riskInputFrom_ok accepted
  obtain ⟨-, betterAccepted⟩ := riskInputFrom_ok acceptedBetter
  refine ⟨decision (lonelyBuy policy amount better), ?_, ?_⟩
  · simp only [evaluateBuyRisk, catchInvalid_eq_ok, bind_eq_ok, pure_eq_ok]
    exact ⟨_, acceptedBetter, rfl⟩
  · rw [decision_admissible_iff betterAccepted 0]
    exact exactlyAdmissible_mono inputAccepted smaller ((decision_admissible_iff inputAccepted 0).mp admissible)

/-! ## Acceptance -/

@[simp] theorem caught_eq_ok {ε α : Type} {result : Except ε α} {value : α} :
    caught result = .ok value ↔ result = .ok value := by
  cases result <;> simp [caught, Except.mapError]

theorem assertPolicyAdmitsEnvelope_ok {maxLoss : Int} {accepted : Unit}
    (ok : assertPolicyAdmitsEnvelope libraries policy amount maxLoss = .ok accepted) :
    Admits libraries (lonelyBuy policy amount (-maxLoss)) := by
  simp only [assertPolicyAdmitsEnvelope, bind_eq_ok, require_eq_ok, caught_eq_ok] at ok
  obtain ⟨_, -, _, -, decision, evaluated, admissible⟩ := ok
  exact ⟨decision, evaluated, admissible⟩

/-- What the arming of an envelope starts from, and the one evaluation of its policy. -/
structure Accepted (libraries : Libraries) (envelope : EntryEnvelopeV2) : Prop where
  maxBuys : 1 ≤ envelope.maxBuys
  maxTotalExposure : 1 ≤ envelope.maxTotalExposureRaw
  worstCase : Admits libraries
    (lonelyBuy envelope.policy envelope.perBuyQuoteAmountRaw (-envelope.maxRealizedLossRaw))

theorem createEntryEnvelope_ok {input : EntryEnvelopeInputV2}
    (ok : createEntryEnvelope libraries input = .ok envelope) : Accepted libraries envelope := by
  simp only [createEntryEnvelope, bind_eq_ok, inRange_eq_ok, pure_eq_ok] at ok
  obtain ⟨_, -, qualification, -, policy, -, operatorId, -, _, ⟨rfl, -⟩, _, ⟨rfl, buys, -⟩, _,
    ⟨rfl, exposure, -⟩, _, ⟨rfl, -⟩, _, ⟨rfl, -⟩, validFrom, -, validUntil, -, _, -, _, admits, rfl⟩ := ok
  exact ⟨buys, exposure, assertPolicyAdmitsEnvelope_ok admits⟩

/-! ## Arming -/

/-- What an `ARMABLE` decision was taken on. -/
structure Armable (envelope : EntryEnvelopeV2) (facts : EnvelopeArmingFacts) : Prop where
  started : envelope.validFromMs ≤ facts.nowMs
  exitTime : envelope.maximumHoldingMs + ENVELOPE_EXIT_MARGIN_MS ≤ envelope.validUntilMs - facts.nowMs
  capacity : facts.buysArmed < envelope.maxBuys
  exposure : (facts.buysArmed + 1) * envelope.perBuyQuoteAmountRaw ≤ envelope.maxTotalExposureRaw
  lossCap : facts.realizedLossRaw < envelope.maxRealizedLossRaw

variable {facts : EnvelopeArmingFacts}

theorem armingDecision_armable (armable : armingDecision envelope facts = .ARMABLE) :
    Armable envelope facts := by
  simp only [armingDecision, ite_eq_iff, reduceCtorEq, and_false, false_or] at armable
  obtain ⟨-, -, -, -, window, capacity, loss, -⟩ := armable
  rw [not_or, not_lt, not_lt] at window
  rw [not_or, ge_iff_le, not_le, gt_iff_lt, not_lt] at capacity
  rw [ge_iff_le, not_le] at loss
  exact ⟨window.1, by omega, capacity.1, capacity.2, loss⟩

/-- Reading an envelope back keeps the numbers that arming compares. -/
structure SameLimits (envelope read : EntryEnvelopeV2) : Prop where
  perBuy : read.perBuyQuoteAmountRaw = envelope.perBuyQuoteAmountRaw
  maxBuys : read.maxBuys = envelope.maxBuys
  maxTotalExposure : read.maxTotalExposureRaw = envelope.maxTotalExposureRaw
  maxRealizedLoss : read.maxRealizedLossRaw = envelope.maxRealizedLossRaw
  maximumHolding : read.maximumHoldingMs = envelope.maximumHoldingMs
  validFrom : read.validFromMs = envelope.validFromMs
  validUntil : read.validUntilMs = envelope.validUntilMs

theorem envelopeFrom_ok {read : EntryEnvelopeV2} (ok : envelopeFrom libraries envelope = .ok read) :
    SameLimits envelope read := by
  simp only [envelopeFrom, timestamp, bind_eq_ok, inRange_eq_ok, pure_eq_ok] at ok
  obtain ⟨_, -, policy, -, fingerprint, -, _, -, _, ⟨rfl, -⟩, _, ⟨rfl, -⟩, _, ⟨rfl, -⟩, _, ⟨rfl, -⟩, _,
    ⟨rfl, -⟩, _, ⟨rfl, -⟩, _, ⟨rfl, -⟩, generationId, -, operatorId, -, qualificationId, -, rfl⟩ := ok
  exact ⟨rfl, rfl, rfl, rfl, rfl, rfl, rfl⟩

theorem evaluateEnvelopeArming_armable
    (isEnvelope : ∀ presented, facts.envelope = some presented → presented = envelope)
    (armable : evaluateEnvelopeArming libraries facts = .ok .ARMABLE) : Armable envelope facts := by
  simp only [evaluateEnvelopeArming, timestamp, bind_eq_ok, inRange_eq_ok] at armable
  obtain ⟨read, readOk, _, ⟨rfl, -⟩, _, ⟨rfl, -⟩, _, ⟨rfl, -⟩, _, ⟨rfl, -⟩, decided⟩ := armable
  cases presented : facts.envelope with
  | none =>
    rw [presented] at readOk
    cases readOk
    cases decided
  | some found =>
    rw [presented] at readOk
    have same := isEnvelope found presented
    subst same
    obtain ⟨envelope, accepted, rfl⟩ := mapM_some_eq_ok.mp readOk
    simp only [pure_eq_ok] at decided
    have limits := envelopeFrom_ok accepted
    obtain ⟨started, exitTime, capacity, exposure, lossCap⟩ := armingDecision_armable decided
    rw [limits.validFrom] at started
    rw [limits.maximumHolding, limits.validUntil] at exitTime
    rw [limits.maxBuys] at capacity
    rw [limits.perBuy, limits.maxTotalExposure] at exposure
    rw [limits.maxRealizedLoss] at lossCap
    exact ⟨started, exitTime, capacity, exposure, lossCap⟩

/-- What one tick presents: this envelope or none, the count so far, and any other facts. -/
def presented (envelope : EntryEnvelopeV2) (buysArmed : Int) (facts : EnvelopeArmingFacts) :
    EnvelopeArmingFacts :=
  { facts with
    envelope := facts.envelope.map fun _ => envelope
    buysArmed }

def arm (libraries : Libraries) (envelope : EntryEnvelopeV2) (buysArmed : Int)
    (facts : EnvelopeArmingFacts) : Int :=
  if evaluateEnvelopeArming libraries (presented envelope buysArmed facts) = .ok .ARMABLE then
    buysArmed + 1
  else buysArmed

/-- The count after the decisions on these facts. -/
def buysArmedAfter (libraries : Libraries) (envelope : EntryEnvelopeV2)
    (decisions : List EnvelopeArmingFacts) : Int :=
  decisions.foldl (arm libraries envelope) 0

theorem presented_armable {buysArmed : Int}
    (armable : evaluateEnvelopeArming libraries (presented envelope buysArmed facts) = .ok .ARMABLE) :
    Armable envelope (presented envelope buysArmed facts) := by
  refine evaluateEnvelopeArming_armable (fun found isFound => ?_) armable
  obtain ⟨_, -, same⟩ := Option.map_eq_some_iff.mp isFound
  exact same.symm

/-- The bounds the count never leaves. -/
structure WithinCaps (envelope : EntryEnvelopeV2) (buysArmed : Int) : Prop where
  buys : buysArmed ≤ envelope.maxBuys
  exposure : buysArmed * envelope.perBuyQuoteAmountRaw ≤ envelope.maxTotalExposureRaw

theorem arm_withinCaps {buysArmed : Int} (within : WithinCaps envelope buysArmed)
    (facts : EnvelopeArmingFacts) : WithinCaps envelope (arm libraries envelope buysArmed facts) := by
  unfold arm
  split
  · next armable =>
      have granted := presented_armable armable
      have below : buysArmed < envelope.maxBuys := granted.capacity
      exact ⟨below, granted.exposure⟩
  · exact within

theorem buysArmedAfter_withinCaps (accepted : Accepted libraries envelope)
    (decisions : List EnvelopeArmingFacts) :
    WithinCaps envelope (buysArmedAfter libraries envelope decisions) := by
  have start : WithinCaps envelope 0 := by
    refine ⟨?_, ?_⟩
    · have := accepted.maxBuys
      omega
    · rw [Int.zero_mul]
      have := accepted.maxTotalExposure
      omega
  unfold buysArmedAfter
  generalize (0 : Int) = buysArmed at start
  induction decisions generalizing buysArmed with
  | nil => exact start
  | cons facts rest ih => exact ih _ (arm_withinCaps start facts)

/-- An accepted envelope: its policy admits the buy at every result from the loss cap up to the
largest one `evaluateBuyRisk` reads, and no sequence of arming decisions leaves its caps, arms at
the loss cap, or arms with too little time left to exit. -/
theorem entryEnvelope_safe (libraries : Libraries) (input : EntryEnvelopeInputV2)
    (envelope : EntryEnvelopeV2) (accepted : createEntryEnvelope libraries input = .ok envelope) :
    (∀ pnl, -envelope.maxRealizedLossRaw ≤ pnl → pnl ≤ I128_MAX →
      Admits libraries (lonelyBuy envelope.policy envelope.perBuyQuoteAmountRaw pnl)) ∧
    ∀ decisions, buysArmedAfter libraries envelope decisions ≤ envelope.maxBuys ∧
      buysArmedAfter libraries envelope decisions * envelope.perBuyQuoteAmountRaw ≤
        envelope.maxTotalExposureRaw ∧
      ∀ facts, evaluateEnvelopeArming libraries
          (presented envelope (buysArmedAfter libraries envelope decisions) facts) = .ok .ARMABLE →
        facts.realizedLossRaw < envelope.maxRealizedLossRaw ∧
          envelope.maximumHoldingMs + ENVELOPE_EXIT_MARGIN_MS ≤ envelope.validUntilMs - facts.nowMs := by
  have facts := createEntryEnvelope_ok accepted
  refine ⟨fun pnl low high => admits_mono facts.worstCase low high, fun decisions => ?_⟩
  have within := buysArmedAfter_withinCaps facts decisions
  refine ⟨within.buys, within.exposure, fun presentedFacts armable => ?_⟩
  have granted := presented_armable armable
  exact ⟨granted.lossCap, granted.exitTime⟩

/-! ## An envelope of ordinary size

One hour, three buys of 0.01 SOL on a capital of 1 SOL, with a loss cap of 0.1 SOL. -/

def sampleDigest : String := "0123456789abcdef0123456789abcdef0123456789abcdef0123456789abcdef"

/-- One digest for every text; a key is the base58 text of 32 bytes. -/
def sampleLibraries : Libraries where
  sha256Hex := fun _ => sampleDigest
  isBase58Key := fun value =>
    value.toList.all (· ∈ Lib.Base58.ALPHABET) ∧ (Lib.Base58.decode value.toList).length = 32

def sampleGeneration : String := "execution_wallet_generation_" ++ sampleDigest

def sampleGate (row : ExecutionSafetyGateId × ExecutionSafetyEvidenceType) :
    ExecutionSafetyGateEvidenceV1 where
  payloadVersion := 1
  gateId := row.1
  status := "PASSED"
  evidenceType := row.2
  evidenceId :=
    match row.1 with
    | .PROVIDER_EXIT_CAPACITY_VERIFIED => "envelope-provider:primary"
    | .WALLET_CHAIN_LIMITS_VERIFIED => sampleGeneration
    | _ => "evidence"
  evidenceFingerprint := sampleDigest
  observedAtMs := 0
  expiresAtMs := 3600000

def sampleQualification : ExecutionSafetyQualification where
  payloadVersion := 2
  evaluatorVersion := 1
  scope := some "ENVELOPE"
  phase := .CANARY
  buildHash := sampleDigest
  configurationFingerprint := sampleDigest
  strategyFingerprint := sampleDigest
  generationId := sampleGeneration
  walletPublicKey := "11111111111111111111111111111112"
  cluster := "mainnet-beta"
  genesisHash := "5eykt4UsFv8P8NJdTREpY1vzqKqZKvdpKuc147dw2N9d"
  providerId := "primary"
  qualifiedAtMs := 0
  expiresAtMs := 3600000
  gates := gateTable.map sampleGate
  qualificationId := "execution_safety_qualification_" ++ sampleDigest
  qualificationFingerprint := sampleDigest

def samplePolicy : ExecutionRiskPolicyV1 where
  quoteMintAllowlist := [WSOL_MINT]
  initialCapitalLamports := 1000000000
  maximumCapitalLamports := 2000000000
  positionSizeBps := 1000
  maximumOpenPositions := 1
  maximumTotalExposureBps := 500
  drawdownPauseBps := 1000
  feeReserveLamports := 10000000
  walletSnapshotMaxAgeMs := 60000
  providerUsageMaxAgeMs := 60000
  providerEntryCostUnits := 1
  providerExitCostUnitsPerPosition := 1
  providerConfirmationCostUnitsPerPosition := 1
  providerReconciliationCostUnitsPerPosition := 1
  providerSafetyMarginUnits := 0
  maximumConsecutiveTechnicalFailures := 2
  payloadVersion := 1
  policyFingerprint := sampleDigest

def sampleInput : EntryEnvelopeInputV2 where
  payloadVersion := 2
  qualification := sampleQualification
  operatorId := "operator"
  perBuyQuoteAmountRaw := 10000000
  maxBuys := 3
  maxTotalExposureRaw := 30000000
  maxRealizedLossRaw := 100000000
  maximumHoldingMs := 600000
  validFromMs := 0
  validUntilMs := 3600000
  policy := samplePolicy

def sampleEnvelope : EntryEnvelopeV2 where
  envelopeId := "execution_entry_envelope_" ++ sampleDigest
  payloadVersion := 2
  fingerprint := sampleDigest
  generationId := sampleGeneration
  operatorId := "operator"
  perBuyQuoteAmountRaw := 10000000
  maxBuys := 3
  maxTotalExposureRaw := 30000000
  maxRealizedLossRaw := 100000000
  maximumHoldingMs := 600000
  validFromMs := 0
  validUntilMs := 3600000
  policy := samplePolicy
  qualificationId := "execution_safety_qualification_" ++ sampleDigest

theorem sampleEnvelope_accepted : createEntryEnvelope sampleLibraries sampleInput = .ok sampleEnvelope := by
  decide +kernel

def sampleFacts : EnvelopeArmingFacts where
  envelope := some sampleEnvelope
  buysArmed := 0
  realizedLossRaw := 0
  controlState := .RUNNING
  unknownBlock := false
  activeArmament := false
  openPosition := false
  intentAvailable := true
  runtimeLeaseMs := 10000
  nowMs := 1000

/-- Four ticks that would all arm: the envelope stops at its third buy. -/
example : buysArmedAfter sampleLibraries sampleEnvelope (List.replicate 4 sampleFacts) = 3 := by
  decide +kernel

theorem entryEnvelope_safe_sample :
    Admits sampleLibraries (lonelyBuy samplePolicy 10000000 (-100000000)) ∧
      buysArmedAfter sampleLibraries sampleEnvelope (List.replicate 4 sampleFacts) ≤ 3 :=
  have safe := entryEnvelope_safe sampleLibraries sampleInput sampleEnvelope sampleEnvelope_accepted
  ⟨safe.1 (-100000000) (by decide) (by decide), (safe.2 (List.replicate 4 sampleFacts)).1⟩

/-- A realized gain of `2 ^ 127` lamports is not read as a risk input at all. -/
theorem gain_not_admitted : createEntryEnvelope sampleLibraries sampleInput = .ok sampleEnvelope ∧
    evaluateBuyRisk sampleLibraries.sha256Hex
      (lonelyBuy sampleEnvelope.policy sampleEnvelope.perBuyQuoteAmountRaw (2 ^ 127)) =
        .error Source.ExecutionRiskPolicy.invalid :=
  ⟨sampleEnvelope_accepted, by decide +kernel⟩

end SolTokenListener.Guarantees.EntryEnvelopeSafety
