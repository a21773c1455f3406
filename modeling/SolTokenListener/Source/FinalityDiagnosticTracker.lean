import SolTokenListener.Source.Chain

/-!
# The incident counters of the finality diagnostics

Source: src/application/finality-reconciler-diagnostic-tracker.ts:10-263,
src/domain/finality-reconciler-diagnostic.ts:3-150. A seed and an input have exactly their keys, so the
prototype, proxy and key tests have nothing to reject; a `number` is an `Int`, and `Math.floor(n / 12)` of
a safe integer is exact.
-/

namespace SolTokenListener.Source.FinalityDiagnosticTracker

open Lib.Checked Source.Chain

abbrev Checked := Except String

inductive FinalityReconcilerDiagnosticReason where
  | PROVIDER_UNAVAILABLE | PROVIDER_CHANGED | FINALITY_LIST | FINALITY_PASS | FINALITY_HISTORY | FINALITY_ROOT
  | FINALITY_POLL | FINALITY_BLOCK | FINALITY_REVISION | FINALITY_CLOCK | FINALITY_CONTRADICTION | UNKNOWN
  deriving DecidableEq, Repr

inductive Phase where
  | DEGRADED | RECOVERED
  deriving DecidableEq, Repr

/-! ## Diagnostics -/

structure FinalityReconcilerDiagnosticV1 where
  version : Int
  phase : Phase
  reasonCode : Option FinalityReconcilerDiagnosticReason
  degradedAtMs : Int
  observedAtMs : Int
  durationMs : Int
  consecutiveFailures : Int
  suppressedFailures : Int
  deriving DecidableEq, Repr

def invalid : String := "Invalid finality reconciler diagnostic."

/-- One failure in twelve is reported; at the largest safe integer the count only has a lower bound. -/
def isReachableSuppressionCount (consecutiveFailures suppressedFailures : Int) : Bool :=
  let firstSaturatedSuppressionCount := consecutiveFailures - 1 - consecutiveFailures / 12
  if consecutiveFailures = MAX_SAFE_INTEGER then firstSaturatedSuppressionCount ≤ suppressedFailures
  else suppressedFailures = firstSaturatedSuppressionCount

/-- A degradation names its reason, a recovery has none. -/
def createFinalityReconcilerDiagnostic (fields : FinalityReconcilerDiagnosticV1) :
    Checked FinalityReconcilerDiagnosticV1 := do
  require (fields.version = 1 ∧ isIndex fields.degradedAtMs ∧ isIndex fields.observedAtMs ∧
    isIndex fields.durationMs ∧ isIndex fields.consecutiveFailures ∧ isIndex fields.suppressedFailures ∧
    1 ≤ fields.consecutiveFailures ∧ fields.suppressedFailures ≤ fields.consecutiveFailures ∧
    isReachableSuppressionCount fields.consecutiveFailures fields.suppressedFailures ∧
    fields.degradedAtMs ≤ fields.observedAtMs ∧
    fields.durationMs = fields.observedAtMs - fields.degradedAtMs) invalid
  match fields.phase with
  | .DEGRADED => require (fields.reasonCode ≠ none) invalid
  | .RECOVERED => require (fields.reasonCode = none) invalid
  return fields

/-- Counters stop at the largest safe integer. -/
def saturatingDiagnosticIncrement (value : Int) : Checked Int := do
  require (isIndex value) invalid
  return if value = MAX_SAFE_INTEGER then value else value + 1

/-! ## The tracker -/

/-- The incident under way; `cadencePosition` counts failures modulo 12 past saturation. -/
structure FinalityDiagnosticTrackerState where
  degradedAtMs : Option Int
  lastObservedAtMs : Option Int
  consecutiveFailures : Int
  suppressedFailures : Int
  cadencePosition : Int
  latestReasonCode : Option FinalityReconcilerDiagnosticReason
  deriving DecidableEq, Repr

structure FinalityDiagnosticReduction where
  state : FinalityDiagnosticTrackerState
  diagnostic : Option FinalityReconcilerDiagnosticV1
  deriving DecidableEq, Repr

def SATURATED_FAILURES : Int := MAX_SAFE_INTEGER
def SATURATED_SUPPRESSION_BASELINE : Int := SATURATED_FAILURES - 1 - SATURATED_FAILURES / 12
def SATURATED_BASE_CADENCE : Int := SATURATED_FAILURES % 12

def invalidState : String := "Invalid finality diagnostic tracker state."

def emptyState : FinalityDiagnosticTrackerState := ⟨none, none, 0, 0, 0, none⟩

/-- The counters some run of failures leaves, also once one of them is saturated. -/
def coherentIncidentCounters (consecutiveFailures suppressedFailures cadencePosition : Int) : Bool :=
  if consecutiveFailures = MAX_SAFE_INTEGER then
    if suppressedFailures = MAX_SAFE_INTEGER then true
    else
      let suppressionDelta := suppressedFailures - SATURATED_SUPPRESSION_BASELINE
      if suppressionDelta < 0 then false
      else
        let failureOffset := (cadencePosition - SATURATED_BASE_CADENCE + 12) % 12
        let summariesCrossed := (SATURATED_BASE_CADENCE + failureOffset) / 12
        let suppressionAtOffset := failureOffset - summariesCrossed
        suppressionAtOffset ≤ suppressionDelta ∧ (suppressionDelta - suppressionAtOffset) % 11 = 0
  else
    cadencePosition = consecutiveFailures % 12 ∧
      suppressedFailures = consecutiveFailures - 1 - consecutiveFailures / 12

def isInactive (seed : FinalityDiagnosticTrackerState) : Bool := seed = emptyState

def isActive (seed : FinalityDiagnosticTrackerState) : Bool :=
  match seed.degradedAtMs, seed.lastObservedAtMs with
  | some degradedAtMs, some lastObservedAtMs =>
    degradedAtMs ≤ lastObservedAtMs ∧ 1 ≤ seed.consecutiveFailures ∧
      coherentIncidentCounters seed.consecutiveFailures seed.suppressedFailures seed.cadencePosition ∧
      seed.latestReasonCode ≠ none
  | _, _ => false

def createFinalityDiagnosticTrackerState (seed : FinalityDiagnosticTrackerState) :
    Checked FinalityDiagnosticTrackerState := do
  require (seed.degradedAtMs.all isIndex ∧ seed.lastObservedAtMs.all isIndex ∧
    isIndex seed.consecutiveFailures ∧ isIndex seed.suppressedFailures) invalidState
  require (0 ≤ seed.cadencePosition ∧ seed.cadencePosition ≤ 11) invalidState
  require (isInactive seed ∨ isActive seed) invalidState
  return seed

variable (state : FinalityDiagnosticTrackerState)

def degradedDiagnostic : Checked FinalityReconcilerDiagnosticV1 :=
  match state.degradedAtMs, state.lastObservedAtMs, state.latestReasonCode with
  | some degradedAtMs, some lastObservedAtMs, some reasonCode =>
    createFinalityReconcilerDiagnostic {
      version := 1
      phase := .DEGRADED
      reasonCode := some reasonCode
      degradedAtMs
      observedAtMs := lastObservedAtMs
      durationMs := lastObservedAtMs - degradedAtMs
      consecutiveFailures := state.consecutiveFailures
      suppressedFailures := state.suppressedFailures }
  | _, _, _ => throw invalidState

/-- The first failure and every twelfth one are reported. Observed times never go back. -/
def recordFinalityDiagnosticFailure (reasonCode : FinalityReconcilerDiagnosticReason)
    (observedAtMs : Int) : Checked FinalityDiagnosticReduction := do
  let current ← createFinalityDiagnosticTrackerState state
  require (isIndex observedAtMs) invalidState
  let acceptedAtMs := match current.lastObservedAtMs with
    | none => observedAtMs
    | some lastObservedAtMs => max lastObservedAtMs observedAtMs
  match current.degradedAtMs with
  | none =>
    let next := ⟨some acceptedAtMs, some acceptedAtMs, 1, 0, 1, some reasonCode⟩
    return ⟨next, some (← degradedDiagnostic next)⟩
  | some degradedAtMs =>
    let cadencePosition := if current.cadencePosition = 11 then 0 else current.cadencePosition + 1
    let emitsSummary := cadencePosition = 0
    let next := ⟨some degradedAtMs, some acceptedAtMs,
      ← saturatingDiagnosticIncrement current.consecutiveFailures,
      ← if emitsSummary then pure current.suppressedFailures
        else saturatingDiagnosticIncrement current.suppressedFailures,
      cadencePosition, some reasonCode⟩
    if emitsSummary then return ⟨next, some (← degradedDiagnostic next)⟩
    else return ⟨next, none⟩

/-- A recovery ends the incident and reports it; outside an incident it reports nothing. -/
def recordFinalityDiagnosticRecovery (observedAtMs : Int) :
    Checked FinalityDiagnosticReduction := do
  let current ← createFinalityDiagnosticTrackerState state
  require (isIndex observedAtMs) invalidState
  match current.degradedAtMs, current.lastObservedAtMs with
  | some degradedAtMs, some lastObservedAtMs =>
    let acceptedAtMs := max lastObservedAtMs observedAtMs
    let diagnostic ← createFinalityReconcilerDiagnostic {
      version := 1
      phase := .RECOVERED
      reasonCode := none
      degradedAtMs
      observedAtMs := acceptedAtMs
      durationMs := acceptedAtMs - degradedAtMs
      consecutiveFailures := current.consecutiveFailures
      suppressedFailures := current.suppressedFailures }
    return ⟨emptyState, some diagnostic⟩
  | _, _ => return ⟨emptyState, none⟩

/-! ## Runs -/

inductive Event where
  | failure (reasonCode : FinalityReconcilerDiagnosticReason) (observedAtMs : Int)
  | recovery (observedAtMs : Int)
  deriving DecidableEq, Repr

def Event.observedAtMs : Event → Int
  | .failure _ observedAtMs | .recovery observedAtMs => observedAtMs

def record : Event → Checked FinalityDiagnosticReduction
  | .failure reasonCode observedAtMs => recordFinalityDiagnosticFailure state reasonCode observedAtMs
  | .recovery observedAtMs => recordFinalityDiagnosticRecovery state observedAtMs

/-- The state after the events, and the diagnostics that were emitted. -/
def recordAll (state : FinalityDiagnosticTrackerState) :
    List Event → Checked (FinalityDiagnosticTrackerState × List FinalityReconcilerDiagnosticV1)
  | [] => return (state, [])
  | event :: events => do
    let reduction ← record state event
    let (last, diagnostics) ← recordAll reduction.state events
    return (last, reduction.diagnostic.toList ++ diagnostics)

end SolTokenListener.Source.FinalityDiagnosticTracker
