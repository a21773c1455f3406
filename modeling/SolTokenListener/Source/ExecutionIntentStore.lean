import SolTokenListener.Lib.EventRun

/-!
# Execution intents and their store

Source: src/domain/execution-intent.ts:4-299 and 433-453, src/storage/execution-intent.repository.ts:202-236,
318-725, 868-920 and 1251-1284, src/storage/execution-intent-expiration.ts. The row of one intent with its
attempts and its journal, under any number of workers; each method is one transaction, at the clock of the
database. A worker may use any claim it was ever given. An INT32 or INT64 that is exhausted and the tables of the
preflight and the dry run are left out. So are the other writers of the row, in the repositories of live
execution, risk, simulation, dry run and operations: some of them move it while its attempt is `STARTED`, so
that nothing is said here of an intent they write.
-/

namespace SolTokenListener.Source.ExecutionIntentStore

inductive ExecutionIntentStatus where
  | PENDING | PROCESSING | SIMULATED | RETRY_READY | SIGNED_NOT_SUBMITTED | SUBMITTED | CONFIRMED | RECONCILING
  | SUCCEEDED | FAILED | EXPIRED | CANCELLED | UNKNOWN_REQUIRES_RECONCILIATION
deriving DecidableEq

inductive ExecutionIntentReasonCode where
  | INTENT_EXPIRED | INTENT_DUPLICATE | INTENT_LEASE_LOST | QUALIFICATION_STALE | DECISION_STALE | QUOTE_STALE
  | QUOTE_MINT_NOT_ALLOWED | VENUE_UNAVAILABLE | BUY_SIMULATION_FAILED | SELL_SIMULATION_FAILED
  | SELL_QUOTE_UNAVAILABLE | MINIMUM_AMOUNT_OUT_VIOLATED | UNSUPPORTED_TOKEN_EXTENSION | WALLET_MISMATCH
  | GENESIS_MISMATCH | EXECUTION_PROVIDER_FAILED | EXECUTION_BUILD_FAILED | EXECUTION_EVIDENCE_INVALID
  | CAPITAL_LIMIT_EXCEEDED | EXPOSURE_LIMIT_EXCEEDED | DRAWDOWN_LIMIT_EXCEEDED | PROVIDER_USAGE_UNKNOWN
  | PROVIDER_ENTRY_LIMIT_REACHED | PROVIDER_EXIT_ONLY | KILL_SWITCH_ACTIVE | HARD_STOP_ACTIVE | ARMING_REQUIRED
  | ARMING_EXPIRED | SIGNATURE_PERSIST_FAILED | PRE_SUBMISSION_REVOKED_NO_SEND | SUBMISSION_AMBIGUOUS
  | CONFIRMATION_TIMEOUT | RECONCILIATION_REQUIRED | BALANCE_MISMATCH | RESIDUAL_TOKEN_BALANCE
  | DOUBLE_ORDER_SUSPECTED | EXECUTION_STARTED | SIMULATION_SUCCEEDED | ATTEMPT_COMPLETED | RETRY_AUTHORIZED
  | SIGNATURE_PERSISTED | SUBMISSION_ACCEPTED | CONFIRMATION_OBSERVED | RECONCILIATION_STARTED | INTENT_SUCCEEDED
  | INTENT_CANCELLED | RECONCILIATION_PROVED_NO_EFFECT
deriving DecidableEq

def TERMINAL_STATUSES : List ExecutionIntentStatus := [.SUCCEEDED, .FAILED, .EXPIRED, .CANCELLED]

def EXACT_STATUS_REASONS : ExecutionIntentStatus → Option ExecutionIntentReasonCode
  | .PROCESSING => some .EXECUTION_STARTED
  | .SIMULATED => some .SIMULATION_SUCCEEDED
  | .SIGNED_NOT_SUBMITTED => some .SIGNATURE_PERSISTED
  | .SUBMITTED => some .SUBMISSION_ACCEPTED
  | .CONFIRMED => some .CONFIRMATION_OBSERVED
  | .RECONCILING => some .RECONCILIATION_STARTED
  | .SUCCEEDED => some .INTENT_SUCCEEDED
  | .EXPIRED => some .INTENT_EXPIRED
  | .CANCELLED => some .INTENT_CANCELLED
  | .UNKNOWN_REQUIRES_RECONCILIATION => some .RECONCILIATION_REQUIRED
  | _ => none

def POSITIVE_REASON_CODES : List ExecutionIntentReasonCode :=
  [.EXECUTION_STARTED, .SIMULATION_SUCCEEDED, .ATTEMPT_COMPLETED, .RETRY_AUTHORIZED, .SIGNATURE_PERSISTED,
    .SUBMISSION_ACCEPTED, .CONFIRMATION_OBSERVED, .RECONCILIATION_STARTED, .INTENT_SUCCEEDED, .INTENT_CANCELLED]

def ALLOWED_TRANSITIONS : ExecutionIntentStatus → List ExecutionIntentStatus
  | .PENDING => [.PROCESSING, .EXPIRED, .CANCELLED]
  | .RETRY_READY => [.PROCESSING, .EXPIRED, .CANCELLED]
  | .PROCESSING => [.SIMULATED, .FAILED, .EXPIRED, .CANCELLED]
  | .SIMULATED => [.SUCCEEDED, .FAILED, .EXPIRED, .CANCELLED, .SIGNED_NOT_SUBMITTED]
  | .SIGNED_NOT_SUBMITTED => [.SUBMITTED, .UNKNOWN_REQUIRES_RECONCILIATION, .FAILED, .RETRY_READY]
  | .SUBMITTED => [.CONFIRMED, .UNKNOWN_REQUIRES_RECONCILIATION]
  | .CONFIRMED => [.RECONCILING, .UNKNOWN_REQUIRES_RECONCILIATION, .SUCCEEDED]
  | .RECONCILING => [.UNKNOWN_REQUIRES_RECONCILIATION, .SUCCEEDED]
  | .UNKNOWN_REQUIRES_RECONCILIATION => [.CONFIRMED, .FAILED, .RETRY_READY]
  | _ => []

def assertStatusReason (status : ExecutionIntentStatus) (reasonCode : ExecutionIntentReasonCode) : Bool :=
  match status with
  | .PENDING => false
  | .FAILED => reasonCode ∉ POSITIVE_REASON_CODES
  | .RETRY_READY =>
    reasonCode = .RECONCILIATION_PROVED_NO_EFFECT ∨ reasonCode = .PRE_SUBMISSION_REVOKED_NO_SEND
  | _ => some reasonCode = EXACT_STATUS_REASONS status

def assertExecutionIntentTransitionReason (previous next : ExecutionIntentStatus)
    (reasonCode : ExecutionIntentReasonCode) : Bool :=
  let provesUnknownHadNoEffect : Bool :=
    previous = .UNKNOWN_REQUIRES_RECONCILIATION ∧ (next = .FAILED ∨ next = .RETRY_READY)
  next ∈ ALLOWED_TRANSITIONS previous && assertStatusReason next reasonCode &&
    provesUnknownHadNoEffect == decide (reasonCode = .RECONCILIATION_PROVED_NO_EFFECT)

/-! ## The row -/

structure Lease where
  leaseToken : Nat
  leaseExpiresAtMs : Nat

/-- A row of the journal, with the lease the transition was made under. -/
structure Transition where
  previous : ExecutionIntentStatus
  next : ExecutionIntentStatus
  reasonCode : ExecutionIntentReasonCode
  leaseToken : Option Nat

structure Store where
  status : ExecutionIntentStatus
  attemptCount : Nat
  /-- The latest attempt is `STARTED`. -/
  started : Bool
  stateRevision : Nat
  lease : Option Lease
  liveReserved : Bool
  expiresAtMs : Nat
  journal : List Transition
  now : Nat
  /-- How many tokens were drawn: no two are the same. -/
  tokens : Nat

def create (liveReserved : Bool) (expiresAtMs now : Nat) : Store :=
  ⟨.PENDING, 0, false, 0, none, liveReserved, expiresAtMs, [], now, 0⟩

structure ClaimedExecutionIntent where
  status : ExecutionIntentStatus
  stateRevision : Nat
  leaseToken : Nat

inductive ExecutionClaimPurpose where
  | EXECUTE | CONFIRM | RECONCILE | LIVE_EXECUTE | LIVE_RECOVER

/-- The statuses, whether the intent must not have expired, and `live_reserved`. -/
def claimSql : ExecutionClaimPurpose → List ExecutionIntentStatus × Bool × Bool
  | .EXECUTE => ([.PENDING, .RETRY_READY, .PROCESSING], true, false)
  | .CONFIRM => ([.SUBMITTED], false, true)
  | .RECONCILE => ([.CONFIRMED, .RECONCILING, .UNKNOWN_REQUIRES_RECONCILIATION], false, true)
  | .LIVE_EXECUTE => ([.PENDING, .RETRY_READY, .PROCESSING], true, true)
  | .LIVE_RECOVER => ([.SIGNED_NOT_SUBMITTED], false, true)

namespace Store

def leaseFree (store : Store) : Bool := store.lease.all (·.leaseExpiresAtMs ≤ store.now)

/-- `lockClaimedIntent`. -/
def locks (store : Store) (claim : ClaimedExecutionIntent) : Bool :=
  store.status = claim.status && store.stateRevision = claim.stateRevision &&
    store.lease.any fun lease => lease.leaseToken = claim.leaseToken && store.now < lease.leaseExpiresAtMs

def latestAttempt (store : Store) : Option Nat := if store.attemptCount = 0 then none else some store.attemptCount

/-- The status changes, and the journal says so. -/
def record (store : Store) (next : ExecutionIntentStatus) (reasonCode : ExecutionIntentReasonCode)
    (leaseToken : Option Nat) : Store :=
  { store with
    status := next
    stateRevision := store.stateRevision + 1
    lease := if next ∈ TERMINAL_STATUSES then none else store.lease
    journal := store.journal ++ [⟨store.status, next, reasonCode, leaseToken⟩] }

inductive StoreEvent where
  | tick (ms : Nat)
  | claim (purpose : ExecutionClaimPurpose) (leaseMs : Nat)
  | renew (claim : ClaimedExecutionIntent) (leaseMs : Nat)
  | release (claim : ClaimedExecutionIntent)
  | beginAttempt (claim : ClaimedExecutionIntent)
  | finishAttempt (claim : ClaimedExecutionIntent) (attemptNumber : Nat)
  | transition (claim : ClaimedExecutionIntent) (next : ExecutionIntentStatus)
      (reasonCode : ExecutionIntentReasonCode) (attemptNumber : Option Nat)
  | expirePreSubmission

def step (store : Store) : StoreEvent → Store
  | .tick ms => { store with now := store.now + ms }
  | .claim purpose leaseMs =>
    let (statuses, unexpired, live) := claimSql purpose
    if store.liveReserved = live ∧ store.status ∈ statuses ∧ (unexpired → store.now < store.expiresAtMs) ∧
        store.leaseFree then
      { store with lease := some ⟨store.tokens, store.now + leaseMs⟩, tokens := store.tokens + 1 }
    else store
  | .renew claim leaseMs =>
    if store.locks claim then { store with lease := some ⟨claim.leaseToken, store.now + leaseMs⟩ } else store
  | .release claim => if store.locks claim then { store with lease := none } else store
  | .beginAttempt claim =>
    if store.locks claim ∧ claim.status = .PROCESSING ∧ !store.started then
      { store with attemptCount := store.attemptCount + 1, started := true }
    else store
  | .finishAttempt claim attemptNumber =>
    if store.locks claim ∧ claim.status = .PROCESSING ∧ attemptNumber = store.attemptCount then
      { store with started := false }
    else store
  | .transition claim next reasonCode attemptNumber =>
    if assertExecutionIntentTransitionReason claim.status next reasonCode ∧ store.locks claim ∧
        attemptNumber = store.latestAttempt ∧ !store.started then
      store.record next reasonCode (some claim.leaseToken)
    else store
  | .expirePreSubmission =>
    if store.status ∈ [.PENDING, .RETRY_READY, .PROCESSING, .SIMULATED] ∧ store.expiresAtMs ≤ store.now ∧
        store.leaseFree then
      { store.record .EXPIRED .INTENT_EXPIRED none with started := false }
    else store

end Store

end SolTokenListener.Source.ExecutionIntentStore
