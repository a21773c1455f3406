import Mathlib.Algebra.Group.Nat.Defs
import SolTokenListener.Source.Chain

/-!
# Strict catch-up runs

Source: src/domain/strict-catch-up-run.ts:13-429, src/domain/rpc-provider.ts. A `bigint` is a `Nat`
here, so the tests that reject negative ones have nothing to reject, and the tests for own enumerable
data properties, frozen objects and proxies are left out. The digest behind the ids is a parameter.
-/

namespace SolTokenListener.Source.StrictCatchUp

open Lib.Checked Source.Chain

def MAX_STRICT_CATCH_UP_SLOT : Nat := 10 ^ 78 - 1

def MAX_DATE_MS : Int := 8640000000000000

def STRICT_CATCH_UP_RUN_RETENTION_MS : Int := 14400000

def MAX_STRICT_CATCH_UP_RUN_COUNTER : Nat := 9223372036854775807

/-! ## Data -/

inductive ProcessingCheckpointKey where
  | launchpad | market
  deriving DecidableEq, Repr

inductive RpcProviderId where
  | primary | fallback1 | fallback2 | fallback3
  deriving DecidableEq, Repr

structure ProcessingCheckpoint where
  key : ProcessingCheckpointKey
  slot : Nat
  signature : String
  updatedAtMs : Int
  deriving DecidableEq, Repr

inductive StrictCatchUpRunState where
  | ACTIVE | COMPLETED | FAILED | SUPERSEDED
  deriving DecidableEq, Repr

inductive StrictCatchUpRunTerminalReason where
  | CATCH_UP_WINDOW_EXCEEDED | CHECKPOINT_SUPERSEDED
  deriving DecidableEq, Repr

structure StrictCatchUpRunHead where
  slot : Nat
  signature : String
  deriving DecidableEq, Repr

structure StrictCatchUpRun where
  runId : String
  checkpointKey : ProcessingCheckpointKey
  previous : ProcessingCheckpoint
  providerId : RpcProviderId
  observedHead : StrictCatchUpRunHead
  beforeSignature : String
  lastAcceptedSlot : Nat
  pagesScanned : Nat
  signaturesEnqueued : Nat
  signaturesClassified : Nat
  revision : Nat
  state : StrictCatchUpRunState
  terminalReason : Option StrictCatchUpRunTerminalReason
  startedAtMs : Int
  updatedAtMs : Int
  completedAtMs : Option Int
  purgeAfterMs : Option Int
  deriving DecidableEq, Repr

/-- The validation error carries a fixed message and nothing else. -/
inductive StrictCatchUpValidationError where
  | invalidRun
  deriving DecidableEq, Repr

abbrev Checked := Except StrictCatchUpValidationError

structure CatchUpDigests where
  /-- Of the key, the slot and signature of the previous checkpoint, and the provider. -/
  strictCatchUpRunId : ProcessingCheckpointKey → Nat → String → RpcProviderId → String

/-! ## Field checks -/

/-- `value === value.trim()`. -/
def isOwnTrim (value : String) : Bool :=
  value.toList.head?.all (fun c => ¬ isTrimmed c) ∧ value.toList.getLast?.all (fun c => ¬ isTrimmed c)

/-- `signatureFrom` accepts. -/
def isSignature (value : String) : Bool :=
  value ≠ "" ∧ isOwnTrim value ∧ value.utf8ByteSize ≤ 128

/-- `slotFrom` accepts. -/
def isSlot (value : Nat) : Bool := value ≤ MAX_STRICT_CATCH_UP_SLOT

/-- `counterFrom` accepts. -/
def isCounter (value : Nat) : Bool := value ≤ MAX_STRICT_CATCH_UP_RUN_COUNTER

/-- `positiveCounterFrom` accepts. -/
def isPositiveCounter (value : Nat) : Bool := isCounter value ∧ value ≠ 0

/-- `millisecondsFrom` accepts. -/
def isMilliseconds (value : Int) : Bool := isSafeInteger value ∧ 0 ≤ value ∧ value ≤ MAX_DATE_MS

/-- `snapshotCheckpoint` accepts. -/
def isCheckpointOf (key : ProcessingCheckpointKey) (checkpoint : ProcessingCheckpoint) : Bool :=
  isSlot checkpoint.slot ∧ isSignature checkpoint.signature ∧ isMilliseconds checkpoint.updatedAtMs ∧
    checkpoint.key = key

def isHead (head : StrictCatchUpRunHead) : Bool := isSlot head.slot ∧ isSignature head.signature

def terminalReasonMatchesState (state : StrictCatchUpRunState)
    (terminalReason : Option StrictCatchUpRunTerminalReason) : Bool :=
  (state = .COMPLETED ∧ terminalReason = none) ∨
    (state = .FAILED ∧ terminalReason = some .CATCH_UP_WINDOW_EXCEEDED) ∨
    (state = .SUPERSEDED ∧ terminalReason = some .CHECKPOINT_SUPERSEDED)

/-! ## Runs -/

section Runs

variable (digests : CatchUpDigests)

/-- The fields of a run, each on its own. -/
def hasValidFields (run : StrictCatchUpRun) : Bool :=
  isCheckpointOf run.checkpointKey run.previous ∧ isHead run.observedHead ∧
    isSignature run.beforeSignature ∧ isSlot run.lastAcceptedSlot ∧ isPositiveCounter run.pagesScanned ∧
    isCounter run.signaturesEnqueued ∧ isCounter run.signaturesClassified ∧ isCounter run.revision ∧
    isMilliseconds run.startedAtMs ∧ isMilliseconds run.updatedAtMs ∧
    run.completedAtMs.all isMilliseconds ∧ run.purgeAfterMs.all isMilliseconds

/-- A run whose only row so far is its head. -/
def initialSingleRowHead (run : StrictCatchUpRun) : Bool :=
  run.beforeSignature = run.observedHead.signature ∧ run.lastAcceptedSlot = run.observedHead.slot ∧
    run.pagesScanned = 1 ∧ run.signaturesClassified ≤ 1 ∧
    run.signaturesEnqueued ≤ run.signaturesClassified ∧
    ((run.state = .ACTIVE ∧ run.revision = 0) ∨ (run.state ≠ .ACTIVE ∧ run.revision = 1))

/-- How the fields of a run fit together. -/
def hasValidOrder (run : StrictCatchUpRun) : Bool :=
  run.previous.updatedAtMs ≤ run.startedAtMs ∧ run.startedAtMs ≤ run.updatedAtMs ∧
    run.previous.slot ≤ run.observedHead.slot ∧ run.previous.slot ≤ run.lastAcceptedSlot ∧
    run.beforeSignature ≠ run.previous.signature ∧
    (run.beforeSignature = run.observedHead.signature → initialSingleRowHead run) ∧
    run.lastAcceptedSlot ≤ run.observedHead.slot ∧
    run.signaturesEnqueued ≤ run.signaturesClassified

def hasValidLifecycle (run : StrictCatchUpRun) : Bool :=
  if run.state = .ACTIVE then
    run.terminalReason = none ∧ run.completedAtMs = none ∧ run.purgeAfterMs = none
  else
    match run.completedAtMs, run.purgeAfterMs with
    | some completedAtMs, some purgeAfterMs =>
      completedAtMs = run.updatedAtMs ∧ run.startedAtMs ≤ completedAtMs ∧
        completedAtMs ≤ MAX_DATE_MS - STRICT_CATCH_UP_RUN_RETENTION_MS ∧
        purgeAfterMs = completedAtMs + STRICT_CATCH_UP_RUN_RETENTION_MS ∧
        terminalReasonMatchesState run.state run.terminalReason
    | _, _ => false

def assertValidStrictCatchUpRun (run : StrictCatchUpRun) : Checked Unit := do
  require (hasValidFields run) .invalidRun
  require (run.runId = digests.strictCatchUpRunId run.checkpointKey run.previous.slot
    run.previous.signature run.providerId ∧ hasValidOrder run) .invalidRun
  require (hasValidLifecycle run) .invalidRun

structure StrictCatchUpRunInput where
  checkpointKey : ProcessingCheckpointKey
  previous : ProcessingCheckpoint
  providerId : RpcProviderId
  observedHead : StrictCatchUpRunHead
  beforeSignature : String
  lastAcceptedSlot : Nat
  pagesScanned : Nat
  signaturesEnqueued : Nat
  signaturesClassified : Nat
  revision : Nat
  startedAtMs : Int
  updatedAtMs : Int

/-- The run a creation asks for, before it is checked. -/
def runOfInput (input : StrictCatchUpRunInput) : StrictCatchUpRun where
  runId := digests.strictCatchUpRunId input.checkpointKey input.previous.slot input.previous.signature
    input.providerId
  checkpointKey := input.checkpointKey
  previous := input.previous
  providerId := input.providerId
  observedHead := input.observedHead
  beforeSignature := input.beforeSignature
  lastAcceptedSlot := input.lastAcceptedSlot
  pagesScanned := input.pagesScanned
  signaturesEnqueued := input.signaturesEnqueued
  signaturesClassified := input.signaturesClassified
  revision := input.revision
  state := .ACTIVE
  terminalReason := none
  startedAtMs := input.startedAtMs
  updatedAtMs := input.updatedAtMs
  completedAtMs := none
  purgeAfterMs := none

/-- The guards of a creation are the field and order checks of the run it builds: with no terminal
time, and with the state ACTIVE, the single-row test asks for revision 0. -/
def createStrictCatchUpRun (input : StrictCatchUpRunInput) : Checked StrictCatchUpRun := do
  let result := runOfInput digests input
  require (hasValidFields result) .invalidRun
  require (hasValidOrder result) .invalidRun
  assertValidStrictCatchUpRun digests result
  return result

structure StrictCatchUpRunProgress where
  beforeSignature : String
  lastAcceptedSlot : Nat
  pagesScanned : Nat
  signaturesEnqueued : Nat
  signaturesClassified : Nat
  updatedAtMs : Int

variable (current : StrictCatchUpRun) (progress : StrictCatchUpRunProgress)

def hasValidProgressFields : Bool :=
  isSignature progress.beforeSignature ∧ isSlot progress.lastAcceptedSlot ∧
    isPositiveCounter progress.pagesScanned ∧ isCounter progress.signaturesEnqueued ∧
    isCounter progress.signaturesClassified ∧ isMilliseconds progress.updatedAtMs

/-- The progress moves every cursor of the run in its direction. -/
def progresses : Bool :=
  progress.beforeSignature ≠ current.beforeSignature ∧
    progress.beforeSignature ≠ current.previous.signature ∧
    progress.beforeSignature ≠ current.observedHead.signature ∧
    current.previous.slot ≤ progress.lastAcceptedSlot ∧
    progress.lastAcceptedSlot ≤ current.lastAcceptedSlot ∧
    current.pagesScanned < progress.pagesScanned ∧
    current.signaturesEnqueued ≤ progress.signaturesEnqueued ∧
    current.signaturesClassified ≤ progress.signaturesClassified ∧
    progress.signaturesEnqueued ≤ progress.signaturesClassified ∧
    current.updatedAtMs ≤ progress.updatedAtMs

def progressed : StrictCatchUpRun :=
  { current with
    beforeSignature := progress.beforeSignature
    lastAcceptedSlot := progress.lastAcceptedSlot
    pagesScanned := progress.pagesScanned
    signaturesEnqueued := progress.signaturesEnqueued
    signaturesClassified := progress.signaturesClassified
    revision := current.revision + 1
    updatedAtMs := progress.updatedAtMs }

def advanceStrictCatchUpRun : Checked StrictCatchUpRun := do
  assertValidStrictCatchUpRun digests current
  require (current.state = .ACTIVE ∧ current.revision ≠ MAX_STRICT_CATCH_UP_RUN_COUNTER) .invalidRun
  require (hasValidProgressFields progress) .invalidRun
  require (progresses current progress) .invalidRun
  let result := progressed current progress
  assertValidStrictCatchUpRun digests result
  return result

structure StrictCatchUpRunTermination where
  state : StrictCatchUpRunState
  terminalReason : Option StrictCatchUpRunTerminalReason
  completedAtMs : Int

def terminalized (termination : StrictCatchUpRunTermination) : StrictCatchUpRun :=
  { current with
    revision := current.revision + 1
    state := termination.state
    terminalReason := termination.terminalReason
    updatedAtMs := termination.completedAtMs
    completedAtMs := some termination.completedAtMs
    purgeAfterMs := some (termination.completedAtMs + STRICT_CATCH_UP_RUN_RETENTION_MS) }

def terminalizeStrictCatchUpRun (termination : StrictCatchUpRunTermination) :
    Checked StrictCatchUpRun := do
  assertValidStrictCatchUpRun digests current
  require (current.state = .ACTIVE ∧ current.revision ≠ MAX_STRICT_CATCH_UP_RUN_COUNTER) .invalidRun
  require (termination.state ≠ .ACTIVE ∧ isMilliseconds termination.completedAtMs) .invalidRun
  require (current.updatedAtMs ≤ termination.completedAtMs ∧
    terminalReasonMatchesState termination.state termination.terminalReason ∧
    termination.completedAtMs ≤ MAX_DATE_MS - STRICT_CATCH_UP_RUN_RETENTION_MS) .invalidRun
  let result := terminalized current termination
  assertValidStrictCatchUpRun digests result
  return result

end Runs

end SolTokenListener.Source.StrictCatchUp
