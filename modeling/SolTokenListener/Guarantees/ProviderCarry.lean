import SolTokenListener.Guarantees.EntryEnvelopeSafety
import SolTokenListener.Source.ProviderQuota

/-!
# Carrying provider usage forward keeps the quota decision

A carried snapshot moves the executor's own usage from the local counter into the measurement. What
remains of the limit is the same number either way, so as long as both measurements are usable the
decision is the same, and several carries in a row are one carry of their sum.
-/

namespace SolTokenListener.Guarantees.ProviderCarry

open Lib.Checked
open Source.ExecutionRiskPolicy
  (ExecutionRiskPolicyV1 U64_MAX minimum createExecutionRiskPolicy)
open Source.SafetyQualification (isHexId isIdentifier DATE_MAX_MS)
open Source Source.ProviderQuota

/-! ## What acceptance says -/

@[simp] theorem mapError_eq_ok {ε ε' α : Type} {run : Except ε α} {change : ε → ε'} {value : α} :
    run.mapError change = .ok value ↔ run = .ok value := by
  cases run <;> simp [Except.mapError]

/-- A snapshot input that `snapshotInputFrom` accepts. -/
structure ValidInput (input : ProviderUsageSnapshotInputV1) : Prop where
  providerId : isIdentifier ['.', '_', '-'] 63 input.providerId = true
  planId : input.planId.length ≠ 0 ∧ input.planId.utf8ByteSize ≤ 128
  billingPeriodId : input.billingPeriodId.length ≠ 0 ∧ input.billingPeriodId.utf8ByteSize ≤ 128
  started : 0 ≤ input.billingPeriodStartedAtMs ∧ input.billingPeriodStartedAtMs ≤ DATE_MAX_MS
  ends : 0 ≤ input.billingPeriodEndsAtMs ∧ input.billingPeriodEndsAtMs ≤ DATE_MAX_MS
  limit : (0 ≤ input.limitUnits ∧ input.limitUnits ≤ U64_MAX) ∧ input.limitUnits ≠ 0
  used : 0 ≤ input.usedUnits ∧ input.usedUnits ≤ U64_MAX
  measured : 0 ≤ input.measuredAtMs ∧ input.measuredAtMs ≤ DATE_MAX_MS
  expires : 0 ≤ input.expiresAtMs ∧ input.expiresAtMs ≤ DATE_MAX_MS
  periodOrder : input.billingPeriodStartedAtMs < input.billingPeriodEndsAtMs
  inPeriod : input.billingPeriodStartedAtMs ≤ input.measuredAtMs ∧
    input.measuredAtMs < input.billingPeriodEndsAtMs
  lifetime : input.measuredAtMs + 30000 ≤ input.expiresAtMs ∧
    input.expiresAtMs ≤ input.measuredAtMs + 900000 ∧ input.expiresAtMs ≤ input.billingPeriodEndsAtMs
  withinLimit : input.usedUnits ≤ input.limitUnits

variable {input : ProviderUsageSnapshotInputV1}

theorem snapshotInputFrom_eq_ok {fields : ProviderUsageSnapshotInputV1} :
    snapshotInputFrom input = .ok fields ↔ ValidInput input ∧ input = fields := by
  simp only [snapshotInputFrom, identifier, text, timestamp, positiveBigint, unsignedBigint, bind_eq_ok,
    require_eq_ok, pure_eq_ok, inRange_eq_ok, exists_const]
  constructor
  · rintro ⟨_, ⟨providerId, rfl⟩, _, ⟨planId, rfl⟩, _, ⟨billingPeriodId, rfl⟩, _, ⟨rfl, started⟩, _,
      ⟨rfl, ends⟩, _, ⟨_, ⟨rfl, limit⟩, positive, rfl⟩, _, ⟨rfl, used⟩, _, ⟨rfl, measured⟩, _,
      ⟨rfl, expires⟩, order, rfl⟩
    exact ⟨⟨providerId, planId, billingPeriodId, started, ends, ⟨limit, positive⟩, used, measured,
      expires, by omega, by omega, by omega, by omega⟩, rfl⟩
  · rintro ⟨valid, rfl⟩
    have periodOrder := valid.periodOrder
    have inPeriod := valid.inPeriod
    have lifetime := valid.lifetime
    have withinLimit := valid.withinLimit
    exact ⟨_, ⟨valid.providerId, rfl⟩, _, ⟨valid.planId, rfl⟩, _, ⟨valid.billingPeriodId, rfl⟩, _,
      ⟨rfl, valid.started⟩, _, ⟨rfl, valid.ends⟩, _, ⟨_, ⟨rfl, valid.limit.1⟩, valid.limit.2, rfl⟩, _,
      ⟨rfl, valid.used⟩, _, ⟨rfl, valid.measured⟩, _, ⟨rfl, valid.expires⟩, by omega, rfl⟩

variable {snapshot carried : ProviderUsageSnapshotV1}

section Snapshots

variable {libraries : Libraries}

/-- The snapshot of accepted fields, with its fingerprint and identity. -/
def stamped (libraries : Libraries) (fields : ProviderUsageSnapshotInputV1) : ProviderUsageSnapshotV1 :=
  { fields with
    snapshotId := "execution_provider_usage_" ++ snapshotFingerprintFor libraries fields
    payloadVersion := 1
    snapshotFingerprint := snapshotFingerprintFor libraries fields }

/-- A snapshot as `createProviderUsageSnapshot` makes them. -/
structure IsSnapshot (libraries : Libraries) (snapshot : ProviderUsageSnapshotV1) : Prop where
  valid : ValidInput snapshot.toProviderUsageSnapshotInputV1
  identity : stamped libraries snapshot.toProviderUsageSnapshotInputV1 = snapshot

theorem createProviderUsageSnapshot_eq_ok :
    createProviderUsageSnapshot libraries input = .ok snapshot ↔
      ValidInput input ∧ stamped libraries input = snapshot := by
  simp only [createProviderUsageSnapshot, catchInvalid, mapError_eq_ok, bind_eq_ok, pure_eq_ok,
    snapshotInputFrom_eq_ok]
  constructor
  · rintro ⟨_, ⟨valid, rfl⟩, same⟩
    exact ⟨valid, same⟩
  · rintro ⟨valid, same⟩
    exact ⟨input, ⟨valid, rfl⟩, same⟩

theorem stamped_isSnapshot (valid : ValidInput input) :
    IsSnapshot libraries (stamped libraries input) := ⟨valid, rfl⟩

theorem stamped_eq_iff :
    stamped libraries snapshot.toProviderUsageSnapshotInputV1 = snapshot ↔
      snapshot.payloadVersion = 1 ∧
      snapshot.snapshotId = "execution_provider_usage_" ++
        snapshotFingerprintFor libraries snapshot.toProviderUsageSnapshotInputV1 ∧
      snapshot.snapshotFingerprint =
        snapshotFingerprintFor libraries snapshot.toProviderUsageSnapshotInputV1 := by
  obtain ⟨fields, snapshotId, payloadVersion, snapshotFingerprint⟩ := snapshot
  simp only [stamped, ProviderUsageSnapshotV1.mk.injEq, true_and]
  constructor
  · rintro ⟨rfl, rfl, rfl⟩
    exact ⟨rfl, rfl, rfl⟩
  · rintro ⟨rfl, rfl, rfl⟩
    exact ⟨rfl, rfl, rfl⟩

theorem snapshotFrom_eq_ok {record : ProviderUsageSnapshotV1} :
    snapshotFrom libraries record = .ok snapshot ↔ IsSnapshot libraries record ∧ record = snapshot := by
  simp only [snapshotFrom, fingerprint, bind_eq_ok, require_eq_ok, pure_eq_ok,
    snapshotInputFrom_eq_ok]
  constructor
  · rintro ⟨_, version, _, ⟨valid, rfl⟩, _, ⟨_, hex, rfl⟩, _, ⟨same, identity⟩, rfl⟩
    refine ⟨⟨valid, stamped_eq_iff.mpr ⟨version, identity, same⟩⟩, ?_⟩
    rw [← version]
  · rintro ⟨⟨valid, identity⟩, rfl⟩
    obtain ⟨version, snapshotId, same⟩ := stamped_eq_iff.mp identity
    have hex : isHexId "" record.snapshotFingerprint = true := by
      rw [same]
      exact libraries.sha256Hex_isHex _
    refine ⟨(), version, _, ⟨valid, rfl⟩, _, ⟨(), hex, rfl⟩, (), ⟨same, snapshotId⟩, ?_⟩
    rw [← version]

theorem providerFrom_eq_ok {record : ProviderUsageSnapshotV1} :
    providerFrom libraries record = .ok snapshot ↔ IsSnapshot libraries record ∧ record = snapshot := by
  simp only [providerFrom, EntryEnvelope.caught, mapError_eq_ok, bind_eq_ok, require_eq_ok, pure_eq_ok,
    createProviderUsageSnapshot_eq_ok]
  constructor
  · rintro ⟨_, ⟨valid, rfl⟩, _, ⟨version, snapshotId, same⟩, rfl⟩
    have identity := stamped_eq_iff.mpr ⟨version, snapshotId, same⟩
    exact ⟨⟨valid, identity⟩, identity.symm⟩
  · rintro ⟨⟨valid, identity⟩, rfl⟩
    exact ⟨_, ⟨valid, rfl⟩, (), stamped_eq_iff.mp identity, identity⟩

theorem nullableSnapshotFrom_some (isSnapshot : IsSnapshot libraries snapshot) :
    nullableSnapshotFrom libraries (some snapshot) = .ok (some snapshot) := by
  have read : snapshotFrom libraries snapshot = .ok snapshot :=
    snapshotFrom_eq_ok.mpr ⟨isSnapshot, rfl⟩
  rw [nullableSnapshotFrom, read]
  rfl

/-! ## One carry -/

/-- The fields of a carried snapshot. -/
def carriedInput (latest : ProviderUsageSnapshotV1) (localUsedUnits measuredAtMs maximumAgeMs : Int) :
    ProviderUsageSnapshotInputV1 :=
  { latest.toProviderUsageSnapshotInputV1 with
    usedUnits := latest.usedUnits + localUsedUnits
    measuredAtMs
    expiresAtMs := minimum (measuredAtMs + maximumAgeMs) latest.billingPeriodEndsAtMs
    provenance := .EXECUTOR_COUNTERS }

/-- A carry that is accepted. -/
structure Carries (libraries : Libraries) (record : EnvelopeProviderCarryForwardInput) : Prop where
  latest : IsSnapshot libraries record.latest
  localUsed : 0 ≤ record.localUsedUnits ∧ record.localUsedUnits ≤ U64_MAX
  measured : 0 ≤ record.measuredAtMs ∧ record.measuredAtMs ≤ DATE_MAX_MS
  age : 30000 ≤ record.maximumAgeMs ∧ record.maximumAgeMs ≤ 900000
  later : record.latest.measuredAtMs < record.measuredAtMs
  /-- The carried snapshot lives for thirty seconds inside the billing period. -/
  remaining : record.measuredAtMs + 30000 ≤ record.latest.billingPeriodEndsAtMs
  withinLimit : record.latest.usedUnits + record.localUsedUnits ≤ record.latest.limitUnits

theorem carriedInput_valid {record : EnvelopeProviderCarryForwardInput}
    (carries : Carries libraries record) :
    ValidInput (carriedInput record.latest record.localUsedUnits record.measuredAtMs
      record.maximumAgeMs) := by
  have valid := carries.latest.valid
  have used := valid.used
  have limit := valid.limit
  have ends := valid.ends
  have inPeriod := valid.inPeriod
  obtain ⟨-, localUsed, measured, age, later, remaining, withinLimit⟩ := carries
  refine ⟨valid.providerId, valid.planId, valid.billingPeriodId, valid.started, valid.ends, valid.limit,
    ?_, measured, ?_, valid.periodOrder, ?_, ?_, withinLimit⟩
  · change 0 ≤ record.latest.usedUnits + record.localUsedUnits ∧ _
    exact ⟨by omega, withinLimit.trans limit.1.2⟩
  all_goals
    simp only [carriedInput, BuyRisk.minimum_eq_min]
    omega

theorem createEnvelopeProviderSnapshot_eq_ok {record : EnvelopeProviderCarryForwardInput} :
    createEnvelopeProviderSnapshot libraries record = .ok carried ↔
      Carries libraries record ∧ stamped libraries (carriedInput record.latest record.localUsedUnits
        record.measuredAtMs record.maximumAgeMs) = carried := by
  simp only [createEnvelopeProviderSnapshot, EntryEnvelope.timestamp, EntryEnvelope.caught,
    mapError_eq_ok, bind_eq_ok, require_eq_ok, inRange_eq_ok, providerFrom_eq_ok,
    createProviderUsageSnapshot_eq_ok]
  constructor
  · rintro ⟨_, ⟨latest, rfl⟩, _, ⟨rfl, localUsed⟩, _, ⟨rfl, measured⟩, _, ⟨rfl, age⟩, _, order,
      valid, rfl⟩
    have lifetime := valid.lifetime
    simp only [BuyRisk.minimum_eq_min] at lifetime
    exact ⟨⟨latest, by omega, by omega, by omega, by omega, by omega, by omega⟩, rfl⟩
  · rintro ⟨carries, rfl⟩
    have valid := carriedInput_valid carries
    obtain ⟨latest, localUsed, measured, age, later, remaining, withinLimit⟩ := carries
    exact ⟨_, ⟨latest, rfl⟩, _, ⟨rfl, localUsed⟩, _, ⟨rfl, measured⟩, _, ⟨rfl, age⟩, (),
      by omega, valid, rfl⟩

/-! ## Coherence -/

variable {record : EnvelopeProviderCarryForwardInput}

theorem coherent_some_iff {previous current : ProviderUsageSnapshotV1} :
    snapshotIsCoherent (some previous) current = true ↔
      (current.providerId = previous.providerId ∧ current.planId = previous.planId) ∧
      if current.billingPeriodId = previous.billingPeriodId then
        current.billingPeriodStartedAtMs = previous.billingPeriodStartedAtMs ∧
          current.billingPeriodEndsAtMs = previous.billingPeriodEndsAtMs ∧
          previous.measuredAtMs ≤ current.measuredAtMs ∧ previous.usedUnits ≤ current.usedUnits
      else previous.billingPeriodEndsAtMs ≤ current.billingPeriodStartedAtMs := by
  unfold snapshotIsCoherent
  by_cases samePlan : current.providerId = previous.providerId ∧ current.planId = previous.planId
  · have accepted : ¬ (current.providerId ≠ previous.providerId ∨ current.planId ≠ previous.planId) := by
      simpa using samePlan
    dsimp only
    rw [if_neg accepted, and_iff_right samePlan]
    split
    · exact decide_eq_true_iff
    · exact decide_eq_true_iff
  · have refused : current.providerId ≠ previous.providerId ∨ current.planId ≠ previous.planId :=
      not_and_or.mp samePlan
    dsimp only
    rw [if_pos refused]
    exact iff_of_false (by decide) (fun both => samePlan both.1)

/-- Whatever a snapshot is coherent with, its carried snapshot is coherent with. -/
theorem coherent_carried {previous : Option ProviderUsageSnapshotV1}
    (accepted : createEnvelopeProviderSnapshot libraries record = .ok carried)
    (coherent : snapshotIsCoherent previous record.latest = true) :
    snapshotIsCoherent previous carried = true := by
  obtain ⟨carries, rfl⟩ := createEnvelopeProviderSnapshot_eq_ok.mp accepted
  have later := carries.later
  have grows := carries.localUsed.1
  cases previous with
  | none => rfl
  | some previous =>
    obtain ⟨samePlan, period⟩ := coherent_some_iff.mp coherent
    refine coherent_some_iff.mpr ⟨samePlan, ?_⟩
    by_cases samePeriod : record.latest.billingPeriodId = previous.billingPeriodId
    · rw [if_pos samePeriod] at period
      obtain ⟨started, ends, measured, used⟩ := period
      refine (if_pos samePeriod).mpr ⟨started, ends, ?_, ?_⟩
      · exact measured.trans later.le
      · exact used.trans (le_add_of_nonneg_right grows)
    · rw [if_neg samePeriod] at period
      exact (if_neg samePeriod).mpr period

theorem coherent_self (snapshot : ProviderUsageSnapshotV1) :
    snapshotIsCoherent (some snapshot) snapshot = true :=
  coherent_some_iff.mpr ⟨⟨rfl, rfl⟩, (if_pos rfl).mpr ⟨rfl, rfl, le_rfl, le_rfl⟩⟩

/-! ## The decision -/

/-- The request to evaluate a snapshot in a context. -/
def asking (context : ProviderQuotaInputV1) (previous : Option ProviderUsageSnapshotV1)
    (snapshot : ProviderUsageSnapshotV1) (localUsedSinceMeasurement : Int) : ProviderQuotaInputV1 :=
  { context with
    previousSnapshot := previous
    snapshot := some snapshot
    localUsedSinceMeasurement }

/-- The part of a decision that says how much may be used. -/
def quotaOf (decision : ProviderQuotaDecisionV1) : Option Int × Int × ExecutionProviderQuotaState :=
  (decision.remainingUnits, decision.protectedUnits, decision.state)

/-- The same part, of the units that remain. -/
def quotaFor (context : ProviderQuotaInputV1) (remainingUnits : Int) :
    Option Int × Int × ExecutionProviderQuotaState :=
  (some remainingUnits, protectedUnits context,
    if context.allEndpointsUnavailable = true ∨ remainingUnits < protectedUnits context then .EXIT_ONLY
    else if recentRateLimitCount context ≥ 3 ∨
      remainingUnits - context.policy.providerEntryCostUnits < protectedUnits context then .ENTRY_BLOCKED
    else .NORMAL)

/-- The checks of a request that do not look at its snapshots. -/
def contextFrom (libraries : Libraries) (context : ProviderQuotaInputV1) : Checked ProviderQuotaInputV1 := do
  let policy ← policyFrom libraries context.policy
  let openPositions ← bounded context.openPositions 0 MAX_POSITION_INPUTS
  let consecutiveRateLimits ← timestampsFrom context.consecutiveRateLimits
  let nowMs ← timestamp context.nowMs
  require (¬ ∃ observedAtMs ∈ consecutiveRateLimits, observedAtMs > nowMs) invalid
  return { context with policy, openPositions, consecutiveRateLimits, nowMs }

theorem policyFrom_same {policy fields : ExecutionRiskPolicyV1}
    (accepted : policyFrom libraries policy = .ok fields) : fields = policy := by
  simp only [policyFrom, catchInvalid, createExecutionRiskPolicy, mapError_eq_ok, bind_eq_ok,
    require_eq_ok, pure_eq_ok, BuyRisk.catchInvalid_eq_ok] at accepted
  obtain ⟨_, version, _, ⟨inner, innerAccepted, rfl⟩, _, fingerprint, rfl⟩ := accepted
  obtain ⟨rfl, -⟩ := BuyRisk.policyInputFrom_ok innerAccepted
  dsimp only at fingerprint
  rw [fingerprint, ← version]

theorem contextFrom_same {context fields : ProviderQuotaInputV1}
    (accepted : contextFrom libraries context = .ok fields) :
    fields.policy = context.policy ∧ fields.nowMs = context.nowMs := by
  simp only [contextFrom, timestamp, bind_eq_ok, require_eq_ok, pure_eq_ok, inRange_eq_ok] at accepted
  obtain ⟨policy, isPolicy, _, _, _, _, _, ⟨rfl, -⟩, _, _, rfl⟩ := accepted
  exact ⟨policyFrom_same isPolicy, rfl⟩

section Asking

variable {context : ProviderQuotaInputV1} {previous : Option ProviderUsageSnapshotV1}
  {localUsed : Int}

/-- Accepted snapshots leave only the checks of the context. -/
theorem quotaInputFrom_asking (readPrevious : nullableSnapshotFrom libraries previous = .ok previous)
    (isSnapshot : IsSnapshot libraries snapshot) (localBounds : 0 ≤ localUsed ∧ localUsed ≤ U64_MAX) :
    quotaInputFrom libraries (asking context previous snapshot localUsed) =
      (contextFrom libraries context).map (asking · previous snapshot localUsed) := by
  have readSnapshot := nullableSnapshotFrom_some isSnapshot
  have readLocal : unsignedBigint localUsed = .ok localUsed := inRange_eq_ok.mpr ⟨rfl, localBounds⟩
  unfold quotaInputFrom contextFrom
  simp only [asking, readPrevious, readSnapshot, readLocal]
  cases policyFrom libraries context.policy with
  | error _ => rfl
  | ok policy =>
  cases bounded context.openPositions 0 MAX_POSITION_INPUTS with
  | error _ => rfl
  | ok openPositions =>
  cases timestampsFrom context.consecutiveRateLimits with
  | error _ => rfl
  | ok consecutiveRateLimits =>
  cases timestamp context.nowMs with
  | error _ => rfl
  | ok nowMs =>
    change (require _ _ >>= _) = Except.map _ (require _ _ >>= _)
    cases require (¬ ∃ observedAtMs ∈ consecutiveRateLimits, observedAtMs > nowMs) invalid with
    | error _ => rfl
    | ok _ => rfl

theorem quotaOf_decisionOf
    (usable : isUsable (asking context previous snapshot localUsed) snapshot = true) :
    quotaOf (decisionOf (asking context previous snapshot localUsed)) =
      quotaFor context (snapshot.limitUnits - snapshot.usedUnits - localUsed) := by
  have reached : ¬ isUsable (asking context previous snapshot localUsed) snapshot = false := by
    rw [usable]
    decide
  refine (congrArg quotaOf (if_neg reached)).trans ?_
  by_cases exitOnly : context.allEndpointsUnavailable = true ∨
      snapshot.limitUnits - snapshot.usedUnits - localUsed < protectedUnits context
  · refine (congrArg quotaOf (if_pos exitOnly)).trans ?_
    rw [quotaFor, if_pos exitOnly]
    rfl
  refine (congrArg quotaOf (if_neg exitOnly)).trans ?_
  rw [quotaFor, if_neg exitOnly]
  by_cases blocked : recentRateLimitCount context ≥ 3 ∨
      snapshot.limitUnits - snapshot.usedUnits - localUsed - context.policy.providerEntryCostUnits <
        protectedUnits context
  · refine (congrArg quotaOf (if_pos blocked)).trans ?_
    rw [if_pos blocked]
    rfl
  · refine (congrArg quotaOf (if_neg blocked)).trans ?_
    rw [if_neg blocked]
    rfl

theorem evaluate_of_usable (readPrevious : nullableSnapshotFrom libraries previous = .ok previous)
    (isSnapshot : IsSnapshot libraries snapshot)
    (localBounds : 0 ≤ localUsed ∧ localUsed ≤ U64_MAX)
    (usable : isUsable (asking context previous snapshot localUsed) snapshot = true) :
    (evaluateProviderQuota libraries (asking context previous snapshot localUsed)).map quotaOf =
      (catchInvalid (contextFrom libraries context)).map
        (quotaFor · (snapshot.limitUnits - snapshot.usedUnits - localUsed)) := by
  unfold evaluateProviderQuota
  rw [quotaInputFrom_asking readPrevious isSnapshot localBounds]
  cases accepted : contextFrom libraries context with
  | error _ => rfl
  | ok fields =>
    obtain ⟨samePolicy, sameNow⟩ := contextFrom_same accepted
    have stillUsable : isUsable (asking fields previous snapshot localUsed) snapshot = true := by
      unfold isUsable asking at usable ⊢
      dsimp only at usable ⊢
      rwa [samePolicy, sameNow]
    exact congrArg Except.ok (quotaOf_decisionOf stillUsable)

end Asking

/-! ## Several carries -/

/-- One carry of a chain: the usage since the last one, its time and the age it allows. -/
structure CarryStep where
  localUsedUnits : Int
  measuredAtMs : Int
  maximumAgeMs : Int

def carry (libraries : Libraries) (latest : ProviderUsageSnapshotV1) (step : CarryStep) :
    EntryEnvelope.Checked ProviderUsageSnapshotV1 :=
  createEnvelopeProviderSnapshot libraries
    ⟨latest, step.localUsedUnits, step.measuredAtMs, step.maximumAgeMs⟩

/-- Each carry starts from the snapshot of the one before it. -/
def carryAll (libraries : Libraries) (latest : ProviderUsageSnapshotV1) :
    List CarryStep → EntryEnvelope.Checked ProviderUsageSnapshotV1
  | [] => return latest
  | step :: rest => do
    let next ← carry libraries latest step
    carryAll libraries next rest

def totalUsed : List CarryStep → Int
  | [] => 0
  | step :: rest => step.localUsedUnits + totalUsed rest

/-- Two carries in a row are one, with the usage of both and the time and age of the second. -/
theorem carry_carry {latest between : ProviderUsageSnapshotV1} {first second : CarryStep}
    (carriedFirst : carry libraries latest first = .ok between)
    (carriedSecond : carry libraries between second = .ok carried) :
    carry libraries latest { second with
      localUsedUnits := first.localUsedUnits + second.localUsedUnits } = .ok carried := by
  obtain ⟨carries, rfl⟩ := createEnvelopeProviderSnapshot_eq_ok.mp carriedFirst
  obtain ⟨carries', rfl⟩ := createEnvelopeProviderSnapshot_eq_ok.mp carriedSecond
  have used := carries.latest.valid.used.1
  have limit := carries.latest.valid.limit.1.2
  have within : latest.usedUnits + first.localUsedUnits + second.localUsedUnits ≤ latest.limitUnits :=
    carries'.withinLimit
  have grows := carries.localUsed.1
  have grows' := carries'.localUsed.1
  dsimp only at used limit grows grows'
  refine createEnvelopeProviderSnapshot_eq_ok.mpr ⟨?_, ?_⟩
  · refine ⟨carries.latest, ?_, carries'.measured, carries'.age, ?_, carries'.remaining, ?_⟩
    · change 0 ≤ first.localUsedUnits + second.localUsedUnits ∧
        first.localUsedUnits + second.localUsedUnits ≤ U64_MAX
      omega
    · exact carries.later.trans carries'.later
    · change latest.usedUnits + (first.localUsedUnits + second.localUsedUnits) ≤ latest.limitUnits
      omega
  · simp only [stamped, carriedInput, Int.add_assoc]

/-- A chain is one carry of the total, with the time and age of its last step. -/
theorem carry_of_carryAll {latest : ProviderUsageSnapshotV1} {steps : List CarryStep} {last : CarryStep}
    (accepted : carryAll libraries latest (steps ++ [last]) = .ok carried) :
    carry libraries latest { last with localUsedUnits := totalUsed (steps ++ [last]) } = .ok carried := by
  induction steps generalizing latest with
  | nil =>
    obtain ⟨next, carriedLast, same⟩ := bind_eq_ok.mp accepted
    obtain rfl : next = carried := pure_eq_ok.mp same
    have total : totalUsed ([] ++ [last]) = last.localUsedUnits := Int.add_zero _
    rw [total]
    exact carriedLast
  | cons step rest ih =>
    obtain ⟨next, carriedStep, carriedRest⟩ := bind_eq_ok.mp accepted
    have total : totalUsed (step :: rest ++ [last]) =
      step.localUsedUnits + totalUsed (rest ++ [last]) := rfl
    have joined := carry_carry carriedStep (ih carriedRest)
    rw [total]
    exact joined

/-- A carried snapshot is coherent with the one it was carried from and with all that one is coherent
with. Evaluated with no local usage it gives the quota of the original with the local usage, wherever
both are usable, and a chain of carries is one carry of the total usage. -/
theorem carryForward_preserves_quota (libraries : Libraries) :
    (∀ record carried, createEnvelopeProviderSnapshot libraries record = .ok carried →
      snapshotIsCoherent (some record.latest) carried = true ∧
      (∀ previous, snapshotIsCoherent previous record.latest = true →
        snapshotIsCoherent previous carried = true) ∧
      ∀ context previous previous', nullableSnapshotFrom libraries previous = .ok previous →
        nullableSnapshotFrom libraries previous' = .ok previous' →
        isUsable (asking context previous record.latest record.localUsedUnits) record.latest = true →
        isUsable (asking context previous' carried 0) carried = true →
        (evaluateProviderQuota libraries (asking context previous' carried 0)).map quotaOf =
          (evaluateProviderQuota libraries
            (asking context previous record.latest record.localUsedUnits)).map quotaOf) ∧
    ∀ latest steps last carried, carryAll libraries latest (steps ++ [last]) = .ok carried →
      carry libraries latest { last with localUsedUnits := totalUsed (steps ++ [last]) } =
        .ok carried := by
  refine ⟨?_, fun latest steps last carried accepted => carry_of_carryAll accepted⟩
  intro record carried accepted
  refine ⟨coherent_carried accepted (coherent_self _), fun _ => coherent_carried accepted, ?_⟩
  intro context previous previous' readPrevious readPrevious' usable usable'
  obtain ⟨carries, rfl⟩ := createEnvelopeProviderSnapshot_eq_ok.mp accepted
  have isCarried : IsSnapshot libraries _ := stamped_isSnapshot (carriedInput_valid carries)
  have noUsage : (0 : Int) ≤ 0 ∧ (0 : Int) ≤ U64_MAX := ⟨le_rfl, by decide⟩
  rw [evaluate_of_usable readPrevious' isCarried noUsage usable',
    evaluate_of_usable readPrevious carries.latest carries.localUsed usable]
  have sameRemaining : record.latest.limitUnits - (record.latest.usedUnits + record.localUsedUnits) - 0 =
      record.latest.limitUnits - record.latest.usedUnits - record.localUsedUnits := by omega
  exact congrArg (fun remaining => (catchInvalid (contextFrom libraries context)).map (quotaFor · remaining))
    sameRemaining

end Snapshots

/-! ## A carried measurement -/

open Guarantees.EntryEnvelopeSafety (sampleDigest samplePolicy)

theorem sampleDigest_isHex : isHexId "" sampleDigest = true := by decide +kernel

def sampleHashes : Libraries := ⟨fun _ => sampleDigest, id, fun _ => sampleDigest_isHex⟩

/-- Five of a hundred units were used when the period was a minute old. -/
def sampleUsage : ProviderUsageSnapshotV1 where
  providerId := "provider"
  planId := "plan"
  billingPeriodId := "period"
  billingPeriodStartedAtMs := 0
  billingPeriodEndsAtMs := 1000000
  limitUnits := 100
  usedUnits := 5
  measuredAtMs := 60000
  expiresAtMs := 120000
  provenance := .AUTHORITATIVE_PROBE
  snapshotId := "execution_provider_usage_" ++ sampleDigest
  payloadVersion := 1
  snapshotFingerprint := sampleDigest

def sampleCarry : EnvelopeProviderCarryForwardInput := ⟨sampleUsage, 7, 90000, 60000⟩

def sampleCarried : ProviderUsageSnapshotV1 :=
  { sampleUsage with
    usedUnits := 12
    measuredAtMs := 90000
    expiresAtMs := 150000
    provenance := .EXECUTOR_COUNTERS }

def sampleContext : ProviderQuotaInputV1 where
  policy := samplePolicy
  previousSnapshot := none
  snapshot := none
  localUsedSinceMeasurement := 0
  openPositions := 1
  consecutiveRateLimits := [80000, 95000]
  allEndpointsUnavailable := false
  nowMs := 100000

theorem sampleCarried_accepted :
    createEnvelopeProviderSnapshot sampleHashes sampleCarry = .ok sampleCarried := by
  decide +kernel

theorem carryForward_preserves_quota_sample :
    createEnvelopeProviderSnapshot sampleHashes sampleCarry = .ok sampleCarried ∧
      (evaluateProviderQuota sampleHashes (asking sampleContext (some sampleUsage) sampleCarried 0)).map
          quotaOf =
        (evaluateProviderQuota sampleHashes (asking sampleContext none sampleUsage 7)).map quotaOf ∧
      (evaluateProviderQuota sampleHashes (asking sampleContext none sampleUsage 7)).map quotaOf =
        .ok (some 88, 3, .NORMAL) :=
  have carries := (carryForward_preserves_quota sampleHashes).1 sampleCarry sampleCarried
    sampleCarried_accepted
  ⟨sampleCarried_accepted,
    carries.2.2 sampleContext none (some sampleUsage) rfl (by decide +kernel) (by decide +kernel)
      (by decide +kernel),
    by decide +kernel⟩

end SolTokenListener.Guarantees.ProviderCarry
