import Mathlib.Order.MinMax
import SolTokenListener.Source.FinalityDiagnosticTracker

/-!
# The incident counters are validated exactly

After `n` failures the failure counter is `n`, the suppression counter is `n - 1 - n / 12`, both stopped
at 2^53 - 1, and the cadence is `n % 12`. Past the first stop only the suppression counter and the cadence
still tell how many failures there were, and past the second one only the cadence is left; the coherence
check accepts exactly the triples of this closed form.
-/

namespace SolTokenListener.Guarantees.DiagnosticCounters

open Lib.Checked Source.Chain
open Source.FinalityDiagnosticTracker

variable {n : Nat} {consecutive suppressed cadence observedAtMs : Int}
variable {state : FinalityDiagnosticTrackerState}

/-! ## The closed form -/

def failuresAfter (n : Nat) : Int := min n MAX_SAFE_INTEGER
def suppressedAfter (n : Nat) : Int := min (n - 1 - n / 12) MAX_SAFE_INTEGER
def cadenceAfter (n : Nat) : Int := n % 12

theorem isIndex_iff {value : Int} : isIndex value = true ↔ 0 ≤ value ∧ value ≤ MAX_SAFE_INTEGER := by
  have nonneg : 0 ≤ MAX_SAFE_INTEGER := by decide
  unfold isIndex isSafeInteger
  rw [decide_eq_true_iff, decide_eq_true_iff]
  omega

theorem baseline_eq : SATURATED_SUPPRESSION_BASELINE = 8256599316845908 := by decide

theorem baseCadence_eq : SATURATED_BASE_CADENCE = 7 := by decide

theorem maximum_eq : MAX_SAFE_INTEGER = 9007199254740991 := rfl

/-- The check as one proposition of linear arithmetic. -/
theorem coherent_iff :
    coherentIncidentCounters consecutive suppressed cadence = true ↔
      (consecutive = MAX_SAFE_INTEGER ∧ (suppressed = MAX_SAFE_INTEGER ∨
        (8256599316845908 ≤ suppressed ∧
          (cadence + 5) % 12 - (7 + (cadence + 5) % 12) / 12 ≤ suppressed - 8256599316845908 ∧
          (suppressed - 8256599316845908 - ((cadence + 5) % 12 - (7 + (cadence + 5) % 12) / 12)) % 11 = 0))) ∨
      (consecutive ≠ MAX_SAFE_INTEGER ∧ cadence = consecutive % 12 ∧
        suppressed = consecutive - 1 - consecutive / 12) := by
  unfold coherentIncidentCounters
  rw [baseline_eq, baseCadence_eq, show cadence - 7 + 12 = cadence + 5 by omega]
  split
  · next saturated =>
      split
      · next alsoSaturated => exact iff_of_true rfl (.inl ⟨saturated, .inl alsoSaturated⟩)
      · dsimp only
        split
        · next early => exact iff_of_false nofun (by omega)
        · rw [decide_eq_true_iff]
          omega
  · rw [decide_eq_true_iff]
    omega

theorem coherent_after (positive : 1 ≤ n) :
    coherentIncidentCounters (failuresAfter n) (suppressedAfter n) (cadenceAfter n) = true := by
  rw [coherent_iff]
  unfold failuresAfter suppressedAfter cadenceAfter
  rw [maximum_eq]
  omega

/-- The triple of a number of failures. -/
structure IsAfter (n : Nat) (consecutive suppressed cadence : Int) : Prop where
  failures : consecutive = failuresAfter n
  suppressed : suppressed = suppressedAfter n
  cadence : cadence = cadenceAfter n

theorem isAfter_iff :
    IsAfter n consecutive suppressed cadence ↔ consecutive = min (n : Int) MAX_SAFE_INTEGER ∧
      suppressed = min ((n : Int) - 1 - n / 12) MAX_SAFE_INTEGER ∧ cadence = (n : Int) % 12 :=
  ⟨fun isAfter => ⟨isAfter.failures, isAfter.suppressed, isAfter.cadence⟩,
    fun ⟨failures, suppressed, cadence⟩ => ⟨failures, suppressed, cadence⟩⟩

theorem exists_after (positive : 1 ≤ consecutive) (consecutiveIndex : isIndex consecutive = true)
    (suppressedIndex : isIndex suppressed = true) (cadenceLow : 0 ≤ cadence)
    (cadenceHigh : cadence ≤ 11)
    (coherent : coherentIncidentCounters consecutive suppressed cadence = true) :
    ∃ n, 1 ≤ n ∧ IsAfter n consecutive suppressed cadence := by
  rw [isIndex_iff, maximum_eq] at consecutiveIndex suppressedIndex
  rw [coherent_iff, maximum_eq] at coherent
  simp only [isAfter_iff, maximum_eq]
  rcases coherent with ⟨rfl, saturated | ⟨late, reached, whole⟩⟩ | ⟨notSaturated, position, count⟩
  · -- Both counters have stopped: far enough on there is a number of failures for each cadence.
    exact ⟨(12 * (MAX_SAFE_INTEGER + 1) + cadence).toNat, by rw [maximum_eq]; omega⟩
  · -- The suppression counter says how many rounds of twelve came after the cadence was first reached.
    generalize offset : (cadence + 5) % 12 = steps at reached whole
    generalize rounds : (suppressed - 8256599316845908 - (steps - (7 + steps) / 12)) / 11 = more at *
    exact ⟨(MAX_SAFE_INTEGER + steps + 12 * more).toNat, by rw [maximum_eq]; omega⟩
  · exact ⟨consecutive.toNat, by omega⟩

theorem IsAfter.succ (isAfter : IsAfter n consecutive suppressed cadence)
    (withinRound : cadence ≠ 11) :
    IsAfter (n + 1) (min (consecutive + 1) MAX_SAFE_INTEGER) (min (suppressed + 1) MAX_SAFE_INTEGER) (cadence + 1) := by
  rw [isAfter_iff, maximum_eq] at *
  push_cast
  omega

/-- The twelfth failure of a round is not suppressed. -/
theorem IsAfter.succ_round (isAfter : IsAfter n consecutive suppressed 11) :
    IsAfter (n + 1) (min (consecutive + 1) MAX_SAFE_INTEGER) suppressed 0 := by
  rw [isAfter_iff, maximum_eq] at *
  push_cast
  omega

/-! ## States of an incident -/

structure Degraded (n : Nat) (state : FinalityDiagnosticTrackerState) : Prop where
  positive : 1 ≤ n
  counters : IsAfter n state.consecutiveFailures state.suppressedFailures state.cadencePosition
  times : ∃ degradedAtMs lastObservedAtMs, state.degradedAtMs = some degradedAtMs ∧
    state.lastObservedAtMs = some lastObservedAtMs ∧ isIndex degradedAtMs = true ∧
    isIndex lastObservedAtMs = true ∧ degradedAtMs ≤ lastObservedAtMs
  reason : state.latestReasonCode ≠ none

structure InRange (consecutive suppressed cadence : Int) : Prop where
  consecutiveIndex : isIndex consecutive = true
  suppressedIndex : isIndex suppressed = true
  positive : 1 ≤ consecutive
  ordered : suppressed ≤ consecutive
  reachable : isReachableSuppressionCount consecutive suppressed = true
  cadenceLow : 0 ≤ cadence
  cadenceHigh : cadence ≤ 11

theorem IsAfter.inRange (positive : 1 ≤ n) (isAfter : IsAfter n consecutive suppressed cadence) :
    InRange consecutive suppressed cadence := by
  rw [isAfter_iff, maximum_eq] at isAfter
  refine ⟨isIndex_iff.mpr ?_, isIndex_iff.mpr ?_, by omega, by omega, ?_, by omega, by omega⟩
  · rw [maximum_eq]
    omega
  · rw [maximum_eq]
    omega
  · unfold isReachableSuppressionCount
    rw [maximum_eq]
    split
    · rw [decide_eq_true_iff]
      omega
    · rw [decide_eq_true_iff]
      omega

theorem Degraded.accepted (degraded : Degraded n state) :
    createFinalityDiagnosticTrackerState state = .ok state := by
  obtain ⟨degradedAtMs, lastObservedAtMs, isDegraded, isLast, degradedIndex, lastIndex, ordered⟩ := degraded.times
  have inRange := degraded.counters.inRange degraded.positive
  have coherent := coherent_after degraded.positive
  rw [← degraded.counters.failures, ← degraded.counters.suppressed, ← degraded.counters.cadence] at coherent
  have active : isActive state = true := by
    unfold isActive
    rw [isDegraded, isLast]
    exact decide_eq_true ⟨ordered, inRange.positive, coherent, degraded.reason⟩
  unfold createFinalityDiagnosticTrackerState
  rw [isDegraded, isLast, require, if_pos ⟨degradedIndex, lastIndex, inRange.consecutiveIndex, inRange.suppressedIndex⟩,
    require, if_pos ⟨inRange.cadenceLow, inRange.cadenceHigh⟩, require, if_pos (.inr active)]
  rfl

/-- A diagnostic of an incident passes its own checks. -/
theorem diagnostic_accepted {consecutive suppressed cadence degradedAtMs observedAtMs : Int} {phase : Phase}
    {reasonCode : Option FinalityReconcilerDiagnosticReason} (inRange : InRange consecutive suppressed cadence)
    (degradedIndex : isIndex degradedAtMs = true) (observedIndex : isIndex observedAtMs = true)
    (ordered : degradedAtMs ≤ observedAtMs) (hasReason : phase = .DEGRADED ↔ reasonCode ≠ none) :
    createFinalityReconcilerDiagnostic ⟨1, phase, reasonCode, degradedAtMs, observedAtMs,
      observedAtMs - degradedAtMs, consecutive, suppressed⟩ = .ok ⟨1, phase, reasonCode, degradedAtMs, observedAtMs,
      observedAtMs - degradedAtMs, consecutive, suppressed⟩ := by
  have duration : isIndex (observedAtMs - degradedAtMs) = true := by
    rw [isIndex_iff] at *
    omega
  unfold createFinalityReconcilerDiagnostic
  rw [require, if_pos ⟨rfl, degradedIndex, observedIndex, duration, inRange.consecutiveIndex,
    inRange.suppressedIndex, inRange.positive, inRange.ordered, inRange.reachable, ordered, rfl⟩]
  cases phase with
  | DEGRADED =>
    dsimp only
    rw [require, if_pos (hasReason.mp rfl)]
    rfl
  | RECOVERED =>
    have noReason : reasonCode = none := by
      by_contra present
      exact absurd (hasReason.mpr present) nofun
    dsimp only
    rw [require, if_pos noReason]
    rfl

theorem Degraded.diagnostic (degraded : Degraded n state) :
    ∃ diagnostic, degradedDiagnostic state = .ok diagnostic ∧
      createFinalityReconcilerDiagnostic diagnostic = .ok diagnostic := by
  obtain ⟨degradedAtMs, lastObservedAtMs, isDegraded, isLast, degradedIndex, lastIndex, ordered⟩ := degraded.times
  obtain ⟨reasonCode, isReason⟩ := Option.ne_none_iff_exists'.mp degraded.reason
  have inRange := degraded.counters.inRange degraded.positive
  have created := @diagnostic_accepted _ _ _ _ _ .DEGRADED (some reasonCode) inRange degradedIndex lastIndex ordered
    (by simp)
  refine ⟨_, ?_, created⟩
  unfold degradedDiagnostic
  rw [isDegraded, isLast, isReason]
  exact created

/-! ## Steps -/

theorem increment_eq {value : Int} (index : isIndex value = true) :
    saturatingDiagnosticIncrement value = .ok (min (value + 1) MAX_SAFE_INTEGER) := by
  have bound := isIndex_iff.mp index
  unfold saturatingDiagnosticIncrement
  rw [require, if_pos index]
  change Except.ok _ = _
  rw [maximum_eq] at *
  congr 1
  split <;> omega

/-- What a call leaves: it returned, and a diagnostic it emitted passes its own checks. -/
def Emits (next : FinalityDiagnosticTrackerState → Prop) (call : Checked FinalityDiagnosticReduction) : Prop :=
  ∃ reduction, call = .ok reduction ∧ next reduction.state ∧
    ∀ diagnostic ∈ reduction.diagnostic, createFinalityReconcilerDiagnostic diagnostic = .ok diagnostic

theorem emits_first (reasonCode : FinalityReconcilerDiagnosticReason)
    (time : isIndex observedAtMs = true) :
    Emits (Degraded 1) (recordFinalityDiagnosticFailure emptyState reasonCode observedAtMs) := by
  have degraded : Degraded 1 ⟨some observedAtMs, some observedAtMs, 1, 0, 1, some reasonCode⟩ :=
    ⟨le_rfl, isAfter_iff.mpr (by dsimp only; decide), ⟨_, _, rfl, rfl, time, time, le_rfl⟩, nofun⟩
  obtain ⟨diagnostic, emitted, accepted⟩ := degraded.diagnostic
  refine ⟨⟨_, some diagnostic⟩, ?_, degraded, by rintro _ ⟨⟩; exact accepted⟩
  unfold recordFinalityDiagnosticFailure
  rw [show createFinalityDiagnosticTrackerState emptyState = .ok emptyState by rfl]
  change (require _ _ >>= _) = _
  rw [require, if_pos time]
  change (degradedDiagnostic ⟨some observedAtMs, some observedAtMs, 1, 0, 1, some reasonCode⟩ >>= _) = _
  rw [emitted]
  rfl

theorem isIndex_max {first second : Int} (firstIndex : isIndex first = true) (secondIndex : isIndex second = true) :
    isIndex (max first second) = true := by
  rcases max_choice first second with isFirst | isSecond
  · rwa [isFirst]
  · rwa [isSecond]

theorem emits_failure (degraded : Degraded n state)
    (reasonCode : FinalityReconcilerDiagnosticReason) (time : isIndex observedAtMs = true) :
    Emits (Degraded (n + 1)) (recordFinalityDiagnosticFailure state reasonCode observedAtMs) := by
  obtain ⟨degradedAtMs, lastObservedAtMs, isDegraded, isLast, degradedIndex, lastIndex, ordered⟩ := degraded.times
  have inRange := degraded.counters.inRange degraded.positive
  have acceptedIndex := isIndex_max lastIndex time
  have later : degradedAtMs ≤ max lastObservedAtMs observedAtMs := ordered.trans (le_max_left _ _)
  have positive := degraded.positive
  unfold recordFinalityDiagnosticFailure
  rw [degraded.accepted]
  change Emits _ (require _ _ >>= _)
  rw [require, if_pos time]
  dsimp only [bind, Except.bind]
  rw [isDegraded, isLast]
  dsimp only
  rw [increment_eq inRange.consecutiveIndex, increment_eq inRange.suppressedIndex]
  by_cases summary : state.cadencePosition = 11
  · -- The twelfth failure of a round emits a summary and suppresses nothing.
    rw [if_pos summary]
    have next : Degraded (n + 1) ⟨some degradedAtMs, some (max lastObservedAtMs observedAtMs),
        min (state.consecutiveFailures + 1) MAX_SAFE_INTEGER, state.suppressedFailures, 0, some reasonCode⟩ :=
      ⟨by omega, (summary ▸ degraded.counters).succ_round, ⟨_, _, rfl, rfl, degradedIndex, acceptedIndex, later⟩, nofun⟩
    obtain ⟨diagnostic, emitted, accepted⟩ := next.diagnostic
    refine ⟨⟨_, some diagnostic⟩, ?_, next, by rintro _ ⟨⟩; exact accepted⟩
    change (degradedDiagnostic _ >>= _) = _
    rw [emitted]
    rfl
  · have withinRound : ¬ state.cadencePosition + 1 = 0 := by
      have := inRange.cadenceLow
      omega
    simp only [if_neg summary, if_neg withinRound]
    refine ⟨⟨⟨_, _, _, _, _, _⟩, none⟩, rfl, ?_, fun _ member => absurd member (Option.not_mem_none _)⟩
    exact ⟨by omega, degraded.counters.succ summary, ⟨_, _, rfl, rfl, degradedIndex, acceptedIndex, later⟩, nofun⟩

theorem emits_recovery (degraded : Degraded n state) (time : isIndex observedAtMs = true) :
    Emits (· = emptyState) (recordFinalityDiagnosticRecovery state observedAtMs) := by
  obtain ⟨degradedAtMs, lastObservedAtMs, isDegraded, isLast, degradedIndex, lastIndex, ordered⟩ := degraded.times
  have created := @diagnostic_accepted _ _ _ _ _ .RECOVERED none (degraded.counters.inRange degraded.positive)
    degradedIndex (isIndex_max lastIndex time) (ordered.trans (le_max_left _ _)) (by simp)
  refine ⟨⟨emptyState, some _⟩, ?_, rfl, by rintro _ ⟨⟩; exact created⟩
  unfold recordFinalityDiagnosticRecovery
  rw [degraded.accepted]
  change (require _ _ >>= _) = _
  rw [require, if_pos time]
  dsimp only [bind, Except.bind]
  rw [isDegraded, isLast]
  change (createFinalityReconcilerDiagnostic _ >>= _) = _
  rw [created]
  rfl

/-! ## Runs -/

/-- The state after a number of failures since the last recovery. -/
def Reached : Nat → FinalityDiagnosticTrackerState → Prop
  | 0, state => state = emptyState
  | n + 1, state => Degraded (n + 1) state

def isFailure : Event → Bool
  | .failure _ _ => true
  | .recovery _ => false

theorem emits_record (reached : Reached n state) (event : Event)
    (time : isIndex event.observedAtMs = true) :
    Emits (Reached (if isFailure event then n + 1 else 0)) (record state event) := by
  cases event with
  | failure reasonCode observedAtMs =>
    cases n with
    | zero =>
      cases reached
      exact emits_first reasonCode time
    | succ n => exact emits_failure reached reasonCode time
  | recovery observedAtMs =>
    cases n with
    | zero =>
      cases reached
      refine ⟨⟨emptyState, none⟩, ?_, rfl, fun _ member => absurd member (Option.not_mem_none _)⟩
      unfold record recordFinalityDiagnosticRecovery
      rw [show createFinalityDiagnosticTrackerState emptyState = .ok emptyState by rfl]
      change (require (isIndex observedAtMs = true) _ >>= _) = _
      rw [require, if_pos (show isIndex observedAtMs = true from time)]
      rfl
    | succ n => exact emits_recovery reached time

/-- The failures since the last recovery. -/
def failuresSince (n : Nat) (events : List Event) : Nat :=
  events.foldl (fun count event => if isFailure event then count + 1 else 0) n

theorem recordAll_emits {n : Nat} {state : FinalityDiagnosticTrackerState} (reached : Reached n state)
    (events : List Event) (times : ∀ event ∈ events, isIndex event.observedAtMs = true) :
    ∃ last diagnostics, recordAll state events = .ok (last, diagnostics) ∧
      Reached (failuresSince n events) last ∧
      ∀ diagnostic ∈ diagnostics, createFinalityReconcilerDiagnostic diagnostic = .ok diagnostic := by
  induction events generalizing n state with
  | nil => exact ⟨state, [], rfl, reached, fun _ member => absurd member List.not_mem_nil⟩
  | cons event events ih =>
    obtain ⟨time, others⟩ := List.forall_mem_cons.mp times
    obtain ⟨reduction, recorded, next, accepted⟩ := emits_record reached event time
    obtain ⟨last, diagnostics, ran, lastReached, allAccepted⟩ := ih next others
    refine ⟨last, reduction.diagnostic.toList ++ diagnostics, ?_, lastReached, ?_⟩
    · rw [recordAll, recorded]
      change (recordAll reduction.state events >>= _) = _
      rw [ran]
      rfl
    · intro diagnostic member
      rcases List.mem_append.mp member with isNew | isLater
      · exact accepted diagnostic (Option.mem_toList.mp isNew)
      · exact allAccepted diagnostic isLater

theorem failuresSince_failures {events : List Event} (failures : ∀ event ∈ events, isFailure event = true) (n : Nat) :
    failuresSince n events = n + events.length := by
  induction events generalizing n with
  | nil => rfl
  | cons event events ih =>
    obtain ⟨isFirst, others⟩ := List.forall_mem_cons.mp failures
    rw [failuresSince, List.foldl_cons, if_pos isFirst]
    refine (ih others (n + 1)).trans ?_
    rw [List.length_cons]
    omega

/-- The check accepts exactly the counters that some run of failures reaches, and every diagnostic that
a run emits passes its own check. -/
theorem incidentCounters_exact :
    (∀ consecutive suppressed cadence : Int,
      (1 ≤ consecutive ∧ isIndex consecutive = true ∧ isIndex suppressed = true ∧ 0 ≤ cadence ∧ cadence ≤ 11 ∧
        coherentIncidentCounters consecutive suppressed cadence = true) ↔
      ∃ failures state diagnostics, failures ≠ [] ∧
        (∀ event ∈ failures, isFailure event = true ∧ isIndex event.observedAtMs = true) ∧
        recordAll emptyState failures = .ok (state, diagnostics) ∧ state.consecutiveFailures = consecutive ∧
        state.suppressedFailures = suppressed ∧ state.cadencePosition = cadence) ∧
    ∀ events : List Event, (∀ event ∈ events, isIndex event.observedAtMs = true) →
      ∃ state diagnostics, recordAll emptyState events = .ok (state, diagnostics) ∧
        ∀ diagnostic ∈ diagnostics, createFinalityReconcilerDiagnostic diagnostic = .ok diagnostic := by
  have ran : ∀ failures : List Event, failures ≠ [] →
      (∀ event ∈ failures, isFailure event = true ∧ isIndex event.observedAtMs = true) →
      ∃ state diagnostics, recordAll emptyState failures = .ok (state, diagnostics) ∧
        Degraded failures.length state := by
    intro failures nonempty each
    obtain ⟨state, diagnostics, recorded, reached, -⟩ := @recordAll_emits 0 emptyState rfl failures
      fun event member => (each event member).2
    rw [failuresSince_failures (fun event member => (each event member).1), Nat.zero_add] at reached
    refine ⟨state, diagnostics, recorded, ?_⟩
    cases failures with
    | nil => exact absurd rfl nonempty
    | cons event events => exact reached
  refine ⟨fun consecutive suppressed cadence => ⟨?_, ?_⟩, ?_⟩
  · rintro ⟨positive, consecutiveIndex, suppressedIndex, cadenceLow, cadenceHigh, coherent⟩
    obtain ⟨n, some, isAfter⟩ :=
      exists_after positive consecutiveIndex suppressedIndex cadenceLow cadenceHigh coherent
    have each : ∀ event ∈ List.replicate n (Event.failure .UNKNOWN 0),
        isFailure event = true ∧ isIndex event.observedAtMs = true := by
      intro event member
      rw [List.eq_of_mem_replicate member]
      exact ⟨rfl, rfl⟩
    have nonempty : List.replicate n (Event.failure .UNKNOWN 0) ≠ [] := by
      rw [Ne, List.replicate_eq_nil_iff]
      omega
    obtain ⟨state, diagnostics, recorded, degraded⟩ := ran _ nonempty each
    rw [List.length_replicate] at degraded
    refine ⟨_, state, diagnostics, nonempty, each, recorded, ?_, ?_, ?_⟩
    · rw [degraded.counters.failures, isAfter.failures]
    · rw [degraded.counters.suppressed, isAfter.suppressed]
    · rw [degraded.counters.cadence, isAfter.cadence]
  · rintro ⟨failures, state, diagnostics, nonempty, each, recorded, rfl, rfl, rfl⟩
    obtain ⟨last, others, recordedAgain, degraded⟩ := ran failures nonempty each
    rw [recorded] at recordedAgain
    cases recordedAgain
    have inRange := degraded.counters.inRange degraded.positive
    refine ⟨inRange.positive, inRange.consecutiveIndex, inRange.suppressedIndex, inRange.cadenceLow,
      inRange.cadenceHigh, ?_⟩
    rw [degraded.counters.failures, degraded.counters.suppressed, degraded.counters.cadence]
    exact coherent_after degraded.positive
  · intro events times
    obtain ⟨state, diagnostics, recorded, -, accepted⟩ := @recordAll_emits 0 emptyState rfl events times
    exact ⟨state, diagnostics, recorded, accepted⟩

/-- Twelve failures and a recovery: the first failure, the summary and the recovery are reported. -/
theorem incidentCounters_exact_round :
    (∃ failures state diagnostics, failures ≠ [] ∧
      (∀ event ∈ failures, isFailure event = true ∧ isIndex event.observedAtMs = true) ∧
      recordAll emptyState failures = .ok (state, diagnostics) ∧ state.consecutiveFailures = 12 ∧
      state.suppressedFailures = 10 ∧ state.cadencePosition = 0) ∧
    ∃ state diagnostics,
      recordAll emptyState (List.replicate 12 (.failure .UNKNOWN 5) ++ [.recovery 9]) = .ok (state, diagnostics) ∧
      diagnostics.map (fun diagnostic => (diagnostic.phase, diagnostic.suppressedFailures)) =
        [(.DEGRADED, 0), (.DEGRADED, 10), (.RECOVERED, 10)] ∧
      ∀ diagnostic ∈ diagnostics, createFinalityReconcilerDiagnostic diagnostic = .ok diagnostic := by
  refine ⟨(incidentCounters_exact.1 12 10 0).mp (by decide), ?_⟩
  obtain ⟨state, diagnostics, recorded, accepted⟩ := incidentCounters_exact.2
    (List.replicate 12 (.failure .UNKNOWN 5) ++ [.recovery 9]) (by decide)
  refine ⟨state, diagnostics, recorded, ?_, accepted⟩
  have reported : (recordAll emptyState (List.replicate 12 (.failure .UNKNOWN 5) ++ [.recovery 9])).map
      (fun result => result.2.map fun diagnostic => (diagnostic.phase, diagnostic.suppressedFailures)) =
      .ok [(.DEGRADED, 0), (.DEGRADED, 10), (.RECOVERED, 10)] := by decide +kernel
  rw [recorded] at reported
  exact Except.ok.inj reported

end SolTokenListener.Guarantees.DiagnosticCounters
