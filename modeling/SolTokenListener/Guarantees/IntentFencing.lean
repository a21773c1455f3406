import SolTokenListener.Source.ExecutionIntentStore

/-!
# What the journal of an intent can say

Whatever the workers ask of the repository, and whichever of their claims are stale, the journal is a chain of
allowed transitions, a lease that was superseded moves nothing, and an intent whose transaction may be on chain is
not executed again before its absence was proved.
-/

namespace SolTokenListener.Guarantees.IntentFencing

open Lib.EventRun Source.ExecutionIntentStore Store

variable {store : Store}

/-- Each transition starts where the one before ended, and is allowed. -/
def Legal : ExecutionIntentStatus → List Transition → ExecutionIntentStatus → Prop
  | first, [], last => first = last
  | first, entry :: rest, last => entry.previous = first ∧
      assertExecutionIntentTransitionReason first entry.next entry.reasonCode ∧ Legal entry.next rest last

theorem legal_concat {first last next : ExecutionIntentStatus} {journal : List Transition}
    {reasonCode : ExecutionIntentReasonCode} (legal : Legal first journal last)
    (allowed : assertExecutionIntentTransitionReason last next reasonCode) (token : Option Nat) :
    Legal first (journal ++ [⟨last, next, reasonCode, token⟩]) next := by
  induction journal generalizing first with
  | nil => exact ⟨legal.symm, legal ▸ allowed, rfl⟩
  | cons entry rest ih =>
    obtain ⟨fits, isAllowed, legalRest⟩ := legal
    exact ⟨fits, isAllowed, ih legalRest⟩

/-- The leases the transitions were made under, oldest first. -/
def heldBy (journal : List Transition) : List Nat := journal.filterMap Transition.leaseToken

/-- What holds of the row and its journal in every state. -/
structure Sound (store : Store) : Prop where
  legal : Legal .PENDING store.journal store.status
  revision : store.stateRevision = store.journal.length
  lease : ∀ lease ∈ store.lease, lease.leaseToken + 1 = store.tokens
  drawn : ∀ token ∈ heldBy store.journal, token < store.tokens
  fenced : (heldBy store.journal).Pairwise (· ≤ ·)

/-- A claim that locks the row holds the last lease that was given. -/
theorem lease_of_locks {claim : ClaimedExecutionIntent} (sound : Sound store) (locks : store.locks claim = true) :
    store.status = claim.status ∧ claim.leaseToken + 1 = store.tokens := by
  simp only [Store.locks, Bool.and_eq_true, decide_eq_true_eq, Option.any_eq_true] at locks
  obtain ⟨⟨status, _⟩, lease, isLease, token, _⟩ := locks
  exact ⟨status, token ▸ sound.lease lease isLease⟩

/-- An allowed transition is recorded, under the last lease or under none. -/
theorem sound_record (sound : Sound store) {next : ExecutionIntentStatus} {reasonCode : ExecutionIntentReasonCode}
    {token : Option Nat} (allowed : assertExecutionIntentTransitionReason store.status next reasonCode)
    (last : ∀ drawn ∈ token, drawn + 1 = store.tokens) :
    Sound (store.record next reasonCode token) := by
  have held : heldBy (store.record next reasonCode token).journal = heldBy store.journal ++ token.toList := by
    rw [Store.record, heldBy, List.filterMap_append]
    cases token <;> rfl
  exact
    { legal := legal_concat sound.legal allowed token
      revision := (congrArg (· + 1) sound.revision).trans (@List.length_append _ store.journal [_]).symm
      lease := fun lease isLease => by
        simp only [Store.record] at isLease
        split at isLease
        · cases isLease
        · exact sound.lease lease isLease
      drawn := fun drawn mem => by
        rcases List.mem_append.mp (held ▸ mem) with before | isLast
        · exact sound.drawn drawn before
        · exact Nat.lt_of_succ_le (Nat.le_of_eq (last drawn (Option.mem_toList.mp isLast)))
      fenced := by
        refine held ▸ List.pairwise_append.mpr ⟨sound.fenced, ?_, fun before mem after isLast => ?_⟩
        · cases token <;> simp only [Option.toList, List.Pairwise.nil, List.pairwise_singleton]
        · have isDrawn := sound.drawn before mem
          have isLatest := last after (Option.mem_toList.mp isLast)
          omega }

theorem sound_step (store : Store) (event : StoreEvent) (sound : Sound store) : Sound (store.step event) := by
  cases event with simp only [Store.step]
  | tick ms => exact { sound with }
  | claim purpose leaseMs =>
    split
    · exact { sound with
        lease := fun lease isLease => Option.some.inj isLease ▸ rfl
        drawn := fun token mem => Nat.lt_succ_of_lt (sound.drawn token mem) }
    · exact sound
  | renew claim leaseMs =>
    split
    · next locks =>
      exact { sound with lease := fun lease isLease => Option.some.inj isLease ▸ (lease_of_locks sound locks).2 }
    · exact sound
  | release claim =>
    split
    · exact { sound with lease := nofun }
    · exact sound
  | beginAttempt claim =>
    split
    · exact { sound with }
    · exact sound
  | finishAttempt claim attemptNumber =>
    split
    · exact { sound with }
    · exact sound
  | transition claim next reasonCode attemptNumber =>
    split
    · next moves =>
      obtain ⟨allowed, locks, -⟩ := moves
      obtain ⟨status, token⟩ := lease_of_locks sound locks
      exact sound_record sound (status ▸ allowed) fun drawn isToken => Option.some.inj isToken ▸ token
    · exact sound
  | expirePreSubmission =>
    split
    · next expires =>
      refine { @sound_record _ sound .EXPIRED .INTENT_EXPIRED none ?_ nofun with }
      have early := expires.1
      simp only [List.mem_cons, List.not_mem_nil, or_false] at early
      rcases early with isStatus | isStatus | isStatus | isStatus <;> rw [isStatus] <;> rfl
    · exact sound

theorem sound_create {liveReserved : Bool} {expiresAtMs now : Nat} : Sound (create liveReserved expiresAtMs now) :=
  ⟨rfl, rfl, nofun, nofun, .nil⟩

/-- In every run the journal is a chain of allowed transitions that ends at the status and counts the revision, and
no transition is made under a lease after one made under a later lease. -/
theorem store_sound (liveReserved : Bool) (expiresAtMs now : Nat) (events : List StoreEvent) :
    Sound (run Store.step (create liveReserved expiresAtMs now) events) :=
  run_invariant sound_step sound_create events

/-! ## Executing once -/

/-- Its transaction was given to the network, or may have been. -/
def onChain : List ExecutionIntentStatus :=
  [.SUBMITTED, .CONFIRMED, .RECONCILING, .UNKNOWN_REQUIRES_RECONCILIATION]

/-- Only the proof that it had no effect lets the intent leave these statuses otherwise than by success. -/
def Leaves (entry : Transition) : Prop :=
  entry.next ∈ .SUCCEEDED :: onChain ∨
    entry.next ∈ [.FAILED, .RETRY_READY] ∧ entry.reasonCode = .RECONCILIATION_PROVED_NO_EFFECT

/-- While a transaction may be on chain, the intent is not executed again, nor expired, nor cancelled. -/
def Guarded : Bool → List Transition → Prop
  | _, [] => True
  | exposed, entry :: rest => (exposed = true → Leaves entry) ∧
      Guarded (entry.next ∈ onChain || exposed && entry.next = .SUCCEEDED) rest

theorem leaves_of_allowed {entry : Transition} {previous : ExecutionIntentStatus}
    (held : previous ∈ .SUCCEEDED :: onChain)
    (allowed : assertExecutionIntentTransitionReason previous entry.next entry.reasonCode) : Leaves entry := by
  simp only [assertExecutionIntentTransitionReason, Bool.and_eq_true, decide_eq_true_eq, beq_iff_eq,
    decide_eq_decide] at allowed
  obtain ⟨⟨mem, _⟩, proves⟩ := allowed
  simp only [Leaves, onChain, List.mem_cons, List.not_mem_nil, or_false] at held ⊢
  rcases held with rfl | rfl | rfl | rfl | rfl <;>
    simp only [ALLOWED_TRANSITIONS, List.mem_cons, List.not_mem_nil, or_false] at mem
  · rcases mem with is | is <;> simp [is]
  · rcases mem with is | is | is <;> simp [is]
  · rcases mem with is | is <;> simp [is]
  · rcases mem with is | fails
    · simp [is]
    · exact .inr ⟨fails, proves.mp ⟨rfl, fails⟩⟩

theorem guarded_of_legal {first last : ExecutionIntentStatus} {journal : List Transition}
    (legal : Legal first journal last) {exposed : Bool} (held : exposed = true → first ∈ .SUCCEEDED :: onChain) :
    Guarded exposed journal := by
  induction journal generalizing first exposed with
  | nil => trivial
  | cons entry rest ih =>
    obtain ⟨_, allowed, legalRest⟩ := legal
    refine ⟨fun isExposed => leaves_of_allowed (held isExposed) allowed, ih legalRest fun later => ?_⟩
    rw [Bool.or_eq_true, Bool.and_eq_true, decide_eq_true_eq, decide_eq_true_eq] at later
    rcases later with isOnChain | ⟨_, succeeded⟩
    · exact List.mem_cons_of_mem _ isOnChain
    · exact List.mem_cons.mpr (.inl succeeded)

/-- An intent whose transaction may be on chain is executed again only after a proof that it had no effect. -/
theorem executes_once (liveReserved : Bool) (expiresAtMs now : Nat) (events : List StoreEvent) :
    Guarded false (run Store.step (create liveReserved expiresAtMs now) events).journal :=
  guarded_of_legal (run_invariant sound_step sound_create events).legal nofun

/-- Signed, perhaps sent, proved to have had no effect, and executed again. -/
example : (run Store.step (create true 9 0) (.claim .LIVE_EXECUTE 9 :: [(.PENDING, .PROCESSING, .EXECUTION_STARTED),
    (.PROCESSING, .SIMULATED, .SIMULATION_SUCCEEDED), (.SIMULATED, .SIGNED_NOT_SUBMITTED, .SIGNATURE_PERSISTED),
    (.SIGNED_NOT_SUBMITTED, .UNKNOWN_REQUIRES_RECONCILIATION, .RECONCILIATION_REQUIRED),
    (.UNKNOWN_REQUIRES_RECONCILIATION, .RETRY_READY, .RECONCILIATION_PROVED_NO_EFFECT),
    (.RETRY_READY, .PROCESSING, .EXECUTION_STARTED)].mapIdx fun revision (previous, next, reasonCode) =>
      .transition ⟨previous, revision, 0⟩ next reasonCode none)).stateRevision = 6 := by
  decide

end SolTokenListener.Guarantees.IntentFencing
