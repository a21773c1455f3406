import Mathlib.Data.List.Perm.Subperm
import SolTokenListener.Lib.EventRun
import SolTokenListener.Source.HttpFailoverTransport

/-!
# The discipline of the HTTP failover

Whatever the interleaving, each attempt of a request takes the first endpoint, in cyclic order from
the index the request started with, that it has not attempted and that is out of cooldown; the
exhausted error is raised when there is none. The shared deadlines only grow, each by a cooldown of at
most a minute.
-/

namespace SolTokenListener.Guarantees.HttpFailover

open Lib.EventRun Lib.CyclicOrder Source.HttpFailoverTransport

variable {id start elapsed : Nat} {after : System} {attempted : List Nat}
variable {states : List EndpointState} {attempts : List Attempt}
variable {size : Nat} {system : System} {request : Request}

/-! ## What holds of one request -/

/-- An endpoint the request may still select. -/
def Eligible (attempted : List Nat) (states : List EndpointState) (now : Int) (index : Nat) : Prop :=
  index ∉ attempted ∧ cooldownOf states index ≤ now

instance (attempted : List Nat) (states : List EndpointState) (now : Int) :
    DecidablePred (Eligible attempted states now) :=
  fun index => inferInstanceAs (Decidable (index ∉ attempted ∧ cooldownOf states index ≤ now))

/-- The first eligible endpoint in cyclic order from the index the request started with. -/
def FirstEligible (size start : Nat) (attempted : List Nat) (attempt : Attempt) : Prop :=
  ∃ offset < size, (start + offset) % size = attempt.index ∧
    Eligible attempted attempt.states attempt.selectedAt attempt.index ∧
    ∀ earlier < offset,
      ¬ Eligible attempted attempt.states attempt.selectedAt ((start + earlier) % size)

/-- Attempts, newest first, each of which took the first endpoint eligible after those before it. -/
def InOrder (size start : Nat) : List Attempt → Prop
  | [] => True
  | attempt :: earlier =>
    FirstEligible size start (earlier.map (·.index)) attempt ∧ InOrder size start earlier

/-- No endpoint was eligible when the error was raised. -/
def ExhaustedRightly (size : Nat) (request : Request) : Prop :=
  ∀ raisedAt states, request.phase = .exhausted raisedAt states →
    ∀ index < size, ¬ Eligible (request.attempts.map (·.index)) states raisedAt index

structure RequestSound (size : Nat) (request : Request) : Prop where
  start_lt : request.startIndex < size
  inOrder : InOrder size request.startIndex request.attempts
  recorded : ∀ index, index ∈ request.attemptedIndices ↔ index ∈ request.attempts.map (·.index)
  exhausted : ExhaustedRightly size request
  attempting_lt : ∀ index, request.phase = .attempting index → index < size

theorem FirstEligible.index_lt {attempt : Attempt}
    (first : FirstEligible size start attempted attempt) : attempt.index < size := by
  obtain ⟨offset, offset_lt, met, -⟩ := first
  rw [← met]
  exact Nat.mod_lt _ (by omega)

/-- Attempts in order are attempts of different endpoints. -/
theorem InOrder.nodup (inOrder : InOrder size start attempts) :
    (attempts.map (·.index)).Nodup := by
  induction attempts with
  | nil => exact List.nodup_nil
  | cons attempt earlier ih =>
    obtain ⟨⟨_, _, _, eligible, _⟩, rest⟩ := inOrder
    exact List.nodup_cons.mpr ⟨eligible.1, ih rest⟩

theorem InOrder.index_lt (inOrder : InOrder size start attempts) :
    ∀ index ∈ attempts.map (·.index), index < size := by
  induction attempts with
  | nil => simp
  | cons attempt earlier ih =>
    exact List.forall_mem_cons.mpr ⟨inOrder.1.index_lt, ih inOrder.2⟩

theorem InOrder.length_le (inOrder : InOrder size start attempts) : attempts.length ≤ size := by
  have within : attempts.map (·.index) ⊆ List.range size := by
    intro index member
    exact List.mem_range.mpr (inOrder.index_lt index member)
  have shorter := (List.subperm_of_subset inOrder.nodup within).length_le
  rwa [List.length_range, List.length_map] at shorter

/-- A request whose phase becomes one that needs nothing. -/
theorem RequestSound.phased (sound : RequestSound size request) {phase : Phase}
    (idle : ∀ index, phase ≠ .attempting index) (quiet : ∀ now states, phase ≠ .exhausted now states) :
    RequestSound size { request with phase := phase } where
  start_lt := sound.start_lt
  inOrder := sound.inOrder
  recorded := sound.recorded
  exhausted := by
    intro now states raised
    exact absurd raised (quiet now states)
  attempting_lt := by
    intro index attempting
    exact absurd attempting (idle index)

/-! ## The choice of an endpoint -/

variable {index : Nat}

theorem nextEligibleIndex_some {now : Int}
    (found : nextEligibleIndex states start attempted now = some index) :
    FirstEligible states.length start attempted ⟨index, now, states⟩ := by
  obtain ⟨offset, offset_lt, met, eligible, before⟩ := find_placesFrom_zero found
  refine ⟨offset, offset_lt, met, of_decide_eq_true eligible, ?_⟩
  intro earlier early
  exact of_decide_eq_false (before earlier early)

theorem nextEligibleIndex_none {now : Int} (start_lt : start < states.length)
    (missed : nextEligibleIndex states start attempted now = none) :
    ∀ index < states.length, ¬ Eligible attempted states now index := by
  intro index index_lt eligible
  have met := mem_placesFrom_zero start_lt index_lt
  exact List.find?_eq_none.mp missed index met (decide_eq_true eligible)

/-- Eligibility depends on the attempted endpoints as a set. -/
theorem FirstEligible.congr {others : List Nat} {attempt : Attempt}
    (same : ∀ index, index ∈ attempted ↔ index ∈ others)
    (first : FirstEligible size start attempted attempt) :
    FirstEligible size start others attempt := by
  simpa only [FirstEligible, Eligible, same] using first

/-! ## The shared states -/

/-- The deadline of an endpoint is the end of a cooldown that was set on it. -/
def DeadlineSet (system : System) (index : Nat) : Prop :=
  cooldownOf system.states index = 0 ∨ ∃ cooldown ∈ system.cooldowns, cooldown.index = index ∧
    cooldownOf system.states index = cooldown.degradedAt + cooldown.cooldownMs

def CooldownBounded (cooldownMs : Int) : Prop := 0 ≤ cooldownMs ∧ cooldownMs ≤ 60000

structure SharedSound (size : Nat) (system : System) : Prop where
  length_eq : system.states.length = size
  sticky_lt : system.stickyIndex < size
  bounded : ∀ cooldown ∈ system.cooldowns, CooldownBounded cooldown.cooldownMs
  deadlines : ∀ index, DeadlineSet system index

structure SystemSound (size : Nat) (system : System) : Prop where
  shared : SharedSound size system
  requests : ∀ request ∈ system.requests, RequestSound size request

variable (libraries : Libraries) (options : RpcHttpFailoverFetchOptions)

theorem retryAfterCooldown_bounded (value : Option String) (now : Int) :
    CooldownBounded (retryAfterCooldown libraries value now) := by
  have byDefault : CooldownBounded DEFAULT_COOLDOWN_MS := by
    simp [CooldownBounded, DEFAULT_COOLDOWN_MS]
  have atMost : ∀ cooldown : Int, 0 ≤ cooldown → CooldownBounded (bounded cooldown) := by
    intro cooldown positive
    unfold bounded CooldownBounded MAX_RETRY_AFTER_MS
    split <;> omega
  have positive : ∀ remaining : Int, 0 ≤ notNegative remaining := by
    intro remaining
    unfold notNegative
    split <;> omega
  unfold retryAfterCooldown
  split
  · exact byDefault
  · split
    · exact atMost _ (by omega)
    · split
      · exact byDefault
      · split
        · exact byDefault
        · split
          · exact byDefault
          · exact atMost _ (positive _)

variable {endpoint : EndpointState}

theorem cooldownOf_set (index_lt : index < states.length) (other : Nat) :
    cooldownOf (states.set index endpoint) other =
      if other = index then endpoint.cooldownUntil else cooldownOf states other := by
  unfold cooldownOf
  split
  next same =>
    rw [same, List.getElem?_set_self index_lt]
    rfl
  next different => rw [List.getElem?_set_ne (Ne.symm different)]

theorem cooldownOf_some (present : states[index]? = some endpoint) :
    cooldownOf states index = endpoint.cooldownUntil := by
  simp [cooldownOf, present]

theorem le_degradedUntil (cooldownUntil degradedAt cooldownMs : Int) :
    cooldownUntil ≤ degradedUntil cooldownUntil degradedAt cooldownMs := by
  unfold degradedUntil
  split <;> omega

variable {reason : RpcHttpFailureReason} {cooldownMs : Int}

theorem degrade_cooldownOf (present : system.states[index]? = some endpoint) (other : Nat) :
    cooldownOf (degrade system index endpoint reason cooldownMs).states other =
      if other = index then degradedUntil endpoint.cooldownUntil system.clock cooldownMs
      else cooldownOf system.states other := by
  obtain ⟨index_lt, -⟩ := List.getElem?_eq_some_iff.mp present
  exact cooldownOf_set index_lt other

/-- Degrading an endpoint moves no deadline backwards. -/
theorem degrade_later (present : system.states[index]? = some endpoint) (other : Nat) :
    cooldownOf system.states other ≤
      cooldownOf (degrade system index endpoint reason cooldownMs).states other := by
  rw [degrade_cooldownOf present]
  split
  next same =>
    rw [same, cooldownOf_some present]
    exact le_degradedUntil _ _ _
  next => exact Int.le_refl _

theorem degrade_deadline (present : system.states[index]? = some endpoint)
    (set : ∀ other, DeadlineSet system other) (other : Nat) :
    DeadlineSet (degrade system index endpoint reason cooldownMs) other := by
  have kept : cooldownOf (degrade system index endpoint reason cooldownMs).states other =
      cooldownOf system.states other →
      DeadlineSet (degrade system index endpoint reason cooldownMs) other := by
    intro unchanged
    rcases set other with zero | ⟨cooldown, member, named, ends⟩
    · exact Or.inl (unchanged.trans zero)
    · exact Or.inr ⟨cooldown, List.mem_cons_of_mem _ member, named, unchanged.trans ends⟩
  have after := @degrade_cooldownOf system index endpoint reason cooldownMs present other
  by_cases same : other = index
  · rw [if_pos same] at after
    unfold degradedUntil at after
    split at after
    · apply kept
      rw [after, same, cooldownOf_some present]
    · exact Or.inr ⟨⟨index, system.clock, cooldownMs⟩, List.mem_cons_self, same.symm, after⟩
  · rw [if_neg same] at after
    exact kept after

theorem degrade_shared (sound : SharedSound size system)
    (present : system.states[index]? = some endpoint) (short : CooldownBounded cooldownMs) :
    SharedSound size (degrade system index endpoint reason cooldownMs) where
  length_eq := by
    rw [← sound.length_eq]
    exact List.length_set
  sticky_lt := sound.sticky_lt
  bounded := List.forall_mem_cons.mpr ⟨short, sound.bounded⟩
  deadlines := degrade_deadline present sound.deadlines

/-! ## One event -/

/-- A turn of the loop leaves the states, the cooldowns and the sticky index. -/
theorem turn_shared {place : Request → List Request} :
    (turn system request place).states = system.states ∧
      (turn system request place).cooldowns = system.cooldowns ∧
      (turn system request place).stickyIndex = system.stickyIndex := by
  unfold turn
  split
  · exact ⟨rfl, rfl, rfl⟩
  · split
    · exact ⟨rfl, rfl, rfl⟩
    · split <;> exact ⟨rfl, rfl, rfl⟩

theorem SharedSound.of_same (sound : SharedSound size system)
    (states : after.states = system.states) (cooldowns : after.cooldowns = system.cooldowns)
    (sticky_lt : after.stickyIndex < size) : SharedSound size after where
  length_eq := states ▸ sound.length_eq
  sticky_lt := sticky_lt
  bounded := cooldowns ▸ sound.bounded
  deadlines := by
    intro other
    unfold DeadlineSet
    rw [states, cooldowns]
    exact sound.deadlines other

/-- The request as a turn of the loop stores it. -/
theorem turn_request {place : Request → List Request} (length_eq : system.states.length = size)
    (sound : RequestSound size request) :
    ∃ stored, (turn system request place).requests = place stored ∧ RequestSound size stored := by
  have thrown : RequestSound size { request with phase := .thrown } :=
    sound.phased (by simp) (by simp)
  unfold turn
  split
  · exact ⟨_, rfl, thrown⟩
  · split
    next missed =>
      refine ⟨_, rfl, sound.start_lt, sound.inOrder, sound.recorded, ?_, by simp⟩
      intro raisedAt states raised index index_lt eligible
      cases raised
      have start_lt : request.startIndex < system.states.length := length_eq ▸ sound.start_lt
      have none := nextEligibleIndex_none start_lt missed index (length_eq ▸ index_lt)
      refine none ⟨?_, eligible.2⟩
      rw [sound.recorded]
      exact eligible.1
    next index found =>
      split
      · exact ⟨_, rfl, thrown⟩
      · have first := (nextEligibleIndex_some found).congr sound.recorded
        rw [length_eq] at first
        refine ⟨_, rfl, sound.start_lt, ⟨first, sound.inOrder⟩, ?_, ?_, ?_⟩
        · intro other
          simp only [List.mem_insert_iff, List.map_cons, List.mem_cons, sound.recorded]
        · intro raisedAt states raised
          cases raised
        · intro other attempting
          cases attempting
          exact first.index_lt

theorem turn_sound {place : Request → List Request} (shared : SharedSound size system)
    (sound : RequestSound size request)
    (placed : ∀ stored, RequestSound size stored → ∀ kept ∈ place stored, RequestSound size kept) :
    SystemSound size (turn system request place) := by
  obtain ⟨states, cooldowns, sticky⟩ := @turn_shared system request place
  obtain ⟨stored, written, storedSound⟩ := @turn_request size system request place shared.length_eq sound
  refine ⟨shared.of_same states cooldowns (sticky ▸ shared.sticky_lt), ?_⟩
  rw [written]
  exact placed stored storedSound

theorem put_sound (sound : SystemSound size system) {id : Nat} (written : RequestSound size request) :
    ∀ kept ∈ system.requests.set id request, RequestSound size kept := by
  intro kept member
  rcases List.mem_or_eq_of_mem_set member with unchanged | rfl
  · exact sound.requests kept unchanged
  · exact written

theorem failed_sound (sound : SystemSound size system) (requestSound : RequestSound size request)
    (short : CooldownBounded cooldownMs) :
    SystemSound size (failed system id request index reason cooldownMs elapsed) := by
  unfold failed
  split
  · exact sound
  next endpoint present =>
    have degraded := @degrade_shared size system index endpoint reason cooldownMs sound.shared present
      short
    refine turn_sound (degraded.of_same rfl rfl degraded.sticky_lt) ?_ ?_
    · exact ⟨requestSound.start_lt, requestSound.inOrder, requestSound.recorded,
        requestSound.exhausted, requestSound.attempting_lt⟩
    · intro stored storedSound
      exact put_sound sound storedSound

/-- A settled attempt ends its request and may move the sticky index, or it failed. -/
theorem settle_rule {holds : System → Prop}
    (ends : ∀ phase sticky, (∀ index, phase ≠ .attempting index) →
      (∀ now states, phase ≠ .exhausted now states) → sticky = system.stickyIndex ∨ sticky = index ∨ sticky = 0 →
      holds ({ system with stickyIndex := sticky }.put id { request with phase := phase }))
    (fails : ∀ reason cooldownMs, CooldownBounded cooldownMs →
      holds (failed system id request index reason cooldownMs elapsed)) (settlement : Settlement) :
    holds (settle libraries system id request index elapsed settlement) := by
  have byDefault : CooldownBounded DEFAULT_COOLDOWN_MS := by
    simp [CooldownBounded, DEFAULT_COOLDOWN_MS]
  have thrown : holds (system.put id { request with phase := .thrown }) :=
    ends .thrown system.stickyIndex (by simp) (by simp) (.inl rfl)
  cases settlement with
  | rejected =>
    dsimp only [settle]
    split
    · exact thrown
    · exact fails _ _ byDefault
  | budgetError => exact thrown
  | unreadable => exact thrown
  | answered response =>
    dsimp only [settle]
    split
    · exact thrown
    · split
      · refine ends _ _ (by simp) (by simp) (.inr ?_)
        split
        · exact .inl rfl
        · exact .inr rfl
      · exact fails _ _ (retryAfterCooldown_bounded _ _ _)
      · exact fails _ _ byDefault

theorem settle_sound (sound : SystemSound size system) (requestSound : RequestSound size request)
    (index_lt : index < size) (settlement : Settlement) :
    SystemSound size (settle libraries system id request index elapsed settlement) := by
  refine settle_rule libraries ?_ ?_ settlement
  · intro phase sticky idle quiet isSticky
    have sticky_lt : sticky < size := by
      have known := sound.shared.sticky_lt
      omega
    exact ⟨sound.shared.of_same rfl rfl sticky_lt, put_sound sound (requestSound.phased idle quiet)⟩
  · intro reason cooldownMs short
    exact failed_sound sound requestSound short

theorem step_sound (event : Event) (sound : SystemSound size system) :
    SystemSound size (step libraries system event) := by
  cases event with
  | fetch aborted =>
    dsimp only [step]
    refine turn_sound sound.shared ?_ ?_
    · exact ⟨sound.shared.sticky_lt, trivial, by simp, by simp [ExhaustedRightly], by simp⟩
    · intro stored storedSound kept member
      rcases List.mem_append.mp member with earlier | last
      · exact sound.requests kept earlier
      · rw [List.mem_singleton.mp last]
        exact storedSound
  | settle id settlement elapsed =>
    dsimp only [step]
    split
    · exact sound
    next request known =>
      have requestSound := sound.requests request (List.mem_of_getElem? known)
      split
      next index attempting =>
        exact settle_sound libraries sound requestSound
          (requestSound.attempting_lt index attempting) settlement
      · exact sound
  | abort id =>
    dsimp only [step]
    split
    · exact sound
    next request known =>
      have requestSound := sound.requests request (List.mem_of_getElem? known)
      refine ⟨sound.shared.of_same rfl rfl sound.shared.sticky_lt, put_sound sound ?_⟩
      exact ⟨requestSound.start_lt, requestSound.inOrder, requestSound.recorded,
        requestSound.exhausted, requestSound.attempting_lt⟩
  | tick elapsed =>
    exact ⟨sound.shared.of_same rfl rfl sound.shared.sticky_lt, sound.requests⟩

/-! ## What an event records -/

/-- A request before it is sent. -/
def unsent : Request := ⟨0, false, [], [], none, .thrown, []⟩

/-- What was recorded on a request since is stamped with the clock and the states of the system. -/
structure Stamps (after : System) (request stored : Request) : Prop where
  attempts : stored.attempts = request.attempts ∨
    ∃ index, stored.attempts = ⟨index, after.clock, after.states⟩ :: request.attempts
  raised : ∀ raisedAt states, stored.phase = .exhausted raisedAt states →
    request.phase = .exhausted raisedAt states ∨ (raisedAt = after.clock ∧ states = after.states)

def Stamped (before after : System) : Prop :=
  ∀ (id : Nat) (stored : Request), after.requests[id]? = some stored →
    Stamps after ((before.requests[id]?).getD unsent) stored

theorem Stamps.refl : Stamps after request request :=
  ⟨.inl rfl, fun _ _ raised => .inl raised⟩

theorem Stamps.phased {phase : Phase} (quiet : ∀ now states, phase ≠ .exhausted now states) :
    Stamps after request { request with phase := phase } :=
  ⟨.inl rfl, fun now states raised => absurd raised (quiet now states)⟩

theorem stamped_same (same : after.requests = system.requests) :
    Stamped system after := by
  intro id stored known
  rw [← same, known]
  exact .refl

theorem stamped_set {stored : Request} (known : system.requests[id]? = some request)
    (written : after.requests = system.requests.set id stored)
    (stamps : Stamps after request stored) :
    Stamped system after := by
  intro other kept isKept
  rw [written, List.getElem?_set] at isKept
  split at isKept
  next same =>
    rw [← same, known]
    split at isKept
    · cases isKept
      exact stamps
    · cases isKept
  next => rw [isKept]; exact .refl

theorem turn_stamps {place : Request → List Request} :
    ∃ stored, (turn system request place).requests = place stored ∧
      Stamps (turn system request place) request stored := by
  unfold turn
  split
  · exact ⟨_, rfl, .phased (by simp)⟩
  · split
    · refine ⟨_, rfl, .inl rfl, ?_⟩
      intro raisedAt states raised
      cases raised
      exact .inr ⟨rfl, rfl⟩
    · split
      · exact ⟨_, rfl, .phased (by simp)⟩
      · refine ⟨_, rfl, .inr ⟨_, rfl⟩, ?_⟩
        intro raisedAt states raised
        cases raised

theorem failed_stamped (known : system.requests[id]? = some request) :
    Stamped system (failed system id request index reason cooldownMs elapsed) := by
  unfold failed
  split
  · exact stamped_same rfl
  next endpoint present =>
    obtain ⟨stored, written, stamps⟩ := @turn_stamps
      { degrade system index endpoint reason cooldownMs with clock := system.clock + elapsed }
      { request with lastFailure := some ⟨endpoint.id, reason⟩ } (system.requests.set id)
    exact stamped_set known written ⟨stamps.attempts, stamps.raised⟩

theorem settle_stamped (known : system.requests[id]? = some request) (settlement : Settlement) :
    Stamped system (settle libraries system id request index elapsed settlement) :=
  settle_rule libraries (fun _ _ _ quiet _ => stamped_set known rfl (.phased quiet))
    (fun _ _ _ => failed_stamped known) settlement

theorem step_stamped (system : System) (event : Event) :
    Stamped system (step libraries system event) := by
  cases event with
  | fetch aborted =>
    intro id stored known
    obtain ⟨sent, written, stamps⟩ := @turn_stamps system
      ⟨system.stickyIndex, aborted, [], [], none, .thrown, []⟩ fun sent => system.requests ++ [sent]
    dsimp only [step] at known ⊢
    rw [written, List.getElem?_append] at known
    split at known
    · rw [known]
      exact .refl
    next beyond =>
      obtain rfl := List.mem_singleton.mp (List.mem_of_getElem? known)
      rw [List.getElem?_eq_none (Nat.le_of_not_lt beyond)]
      exact ⟨stamps.attempts, stamps.raised⟩
  | settle id settlement elapsed =>
    dsimp only [step]
    split
    · exact stamped_same rfl
    next request known =>
      split
      · exact settle_stamped libraries known settlement
      · exact stamped_same rfl
  | abort id =>
    dsimp only [step]
    split
    · exact stamped_same rfl
    next request known => exact stamped_set known rfl ⟨.inl rfl, fun _ _ raised => .inl raised⟩
  | tick elapsed => exact stamped_same rfl

/-! ## Deadlines over a run -/

/-- No deadline has moved backwards. -/
def NoEarlier (before after : System) : Prop :=
  ∀ index, cooldownOf before.states index ≤ cooldownOf after.states index

theorem NoEarlier.of_same (states : after.states = system.states) :
    NoEarlier system after := by
  intro index
  rw [states]

theorem failed_noEarlier :
    NoEarlier system (failed system id request index reason cooldownMs elapsed) := by
  unfold failed
  split
  · exact .of_same rfl
  next endpoint present =>
    intro other
    dsimp only
    rw [turn_shared.1]
    exact @degrade_later system index endpoint reason cooldownMs present other

theorem settle_noEarlier (settlement : Settlement) :
    NoEarlier system (settle libraries system id request index elapsed settlement) :=
  settle_rule libraries (fun _ _ _ _ _ => .of_same rfl) (fun _ _ _ => failed_noEarlier) settlement

theorem step_noEarlier (system : System) (event : Event) :
    NoEarlier system (step libraries system event) := by
  cases event with
  | fetch aborted => exact .of_same turn_shared.1
  | settle id settlement elapsed =>
    dsimp only [step]
    split
    · exact .of_same rfl
    · split
      · exact settle_noEarlier libraries settlement
      · exact .of_same rfl
  | abort id =>
    dsimp only [step]
    split
    · exact .of_same rfl
    · exact .of_same rfl
  | tick elapsed => exact .of_same rfl

/-! ## Whole runs -/

/-- The system after the events, from the creation of the fetch at the given time. -/
def reached (libraries : Libraries) (clock : Int) (events : List Event) : System :=
  run (step libraries) (.initial options clock) events

theorem initial_systemSound (clock : Int) :
    SystemSound options.endpoints.length (.initial options clock) where
  shared :=
    { length_eq := List.length_map _
      sticky_lt := Nat.lt_of_lt_of_le Nat.zero_lt_two options.two_le_length
      bounded := by simp [System.initial]
      deadlines := by
        intro index
        refine Or.inl ?_
        simp only [cooldownOf, System.initial, List.getElem?_map, Option.map_map]
        cases options.endpoints[index]? <;> rfl }
  requests := by simp [System.initial]

theorem reached_sound (libraries : Libraries) (clock : Int) (events : List Event) :
    SystemSound options.endpoints.length (reached options libraries clock events) :=
  run_invariant (fun _ event sound => step_sound libraries event sound)
    (initial_systemSound options clock) events

/-- For every run: a request attempts each endpoint at most once, each time the first in cyclic order
from its start that is unattempted and out of cooldown; the exhausted error is raised only when there
is none; the clock and the states an attempt or the error saw are the system's at that event; every
deadline ends a cooldown of at most a minute and never moves backwards. -/
theorem failover_discipline (libraries : Libraries) (clock : Int) (events : List Event) :
    (∀ request ∈ (reached options libraries clock events).requests,
      (request.attempts.map (·.index)).Nodup ∧
      request.attempts.length ≤ options.endpoints.length ∧
      InOrder options.endpoints.length request.startIndex request.attempts ∧
      ExhaustedRightly options.endpoints.length request) ∧
    (∀ cooldown ∈ (reached options libraries clock events).cooldowns,
      0 ≤ cooldown.cooldownMs ∧ cooldown.cooldownMs ≤ 60000) ∧
    (∀ index, DeadlineSet (reached options libraries clock events) index) ∧
    (∀ event, Stamped (reached options libraries clock events)
      (reached options libraries clock (events ++ [event]))) ∧
    ∀ more index, cooldownOf (reached options libraries clock events).states index ≤
      cooldownOf (reached options libraries clock (events ++ more)).states index := by
  have sound := reached_sound options libraries clock events
  refine ⟨?_, sound.shared.bounded, sound.shared.deadlines, ?_, ?_⟩
  · intro request member
    have requestSound := sound.requests request member
    exact ⟨requestSound.inOrder.nodup, requestSound.inOrder.length_le, requestSound.inOrder,
      requestSound.exhausted⟩
  · intro event
    unfold reached
    rw [run_append]
    exact step_stamped libraries _ event
  · intro more index
    unfold reached
    rw [run_append]
    have later : NoEarlier (run (step libraries) (.initial options clock) events)
        (run (step libraries) (run (step libraries) (.initial options clock) events) more) :=
      run_related (fun _ => .of_same rfl) (fun first second index => (first index).trans (second index))
        (step_noEarlier libraries) _ more
    exact later index

/-- A rate-limited primary and an unavailable fallback: one attempt each, then the error. -/
example :
    let options : RpcHttpFailoverFetchOptions :=
      ⟨[("primary", "https://a/"), ("fallback-1", "https://b/")], by decide, by decide⟩
    let system := reached options ⟨fun _ => none, fun _ => ""⟩ 0
      [.fetch false, .settle 0 (.answered ⟨429, some "7"⟩) 1, .settle 0 (.answered ⟨503, none⟩) 0]
    system.requests.map (·.attempts.map (·.index)) = [[1, 0]] ∧
      system.states.map (·.cooldownUntil) = [7000, 1001] ∧
      system.events.head? = some (.exhausted ["primary", "fallback-1"]) := by
  decide +kernel

end SolTokenListener.Guarantees.HttpFailover
