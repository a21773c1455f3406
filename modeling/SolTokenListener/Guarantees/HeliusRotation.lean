import Mathlib.Data.List.Perm.Subperm
import SolTokenListener.Lib.EventRun
import SolTokenListener.Source.HeliusAccountRotation

/-!
# What a request sees of the account rotation

An account inside its window is selected only when every account is set aside, in every run. A
request contacts an account at most once as long as no window of an account it has tried ends while
it waits for the cancellation of a refused answer: the account the loop found before that wait is
looked up again after it, and the second lookup is not compared with the tried ones.
-/

namespace SolTokenListener.Guarantees.HeliusRotation

open Lib.EventRun Lib.CyclicOrder Source.HeliusAccountRotation

variable {index size status : Nat} {request : Request} {reason : HeliusAccountSetAsideReason}
variable {options : HeliusAccountRotationOptions} {rotation : Rotation} {now : Int}

/-! ## The shared rotation -/

/-- The windows seen at a selection: a set aside account was selected only if all of them are. -/
def Selection.Sound (size : Nat) (selection : Selection) : Prop :=
  selection.now < untilOf selection.setAsideUntil selection.index →
    ∀ index < size, selection.now < untilOf selection.setAsideUntil index

structure RotationSound (options : HeliusAccountRotationOptions) (rotation : Rotation) : Prop where
  index_lt : rotation.index < options.accounts.length
  selections : ∀ selection ∈ rotation.selections, Selection.Sound options.accounts.length selection

@[simp]
theorem moved_setAsideUntil : (moved options rotation now).setAsideUntil = rotation.setAsideUntil := by
  unfold moved
  split
  · rfl
  · split <;> rfl

@[simp]
theorem moved_selections : (moved options rotation now).selections = rotation.selections := by
  unfold moved
  split
  · rfl
  · split <;> rfl

theorem nextAvailable_some {setAsideUntil : List Int} {start : Nat}
    (found : nextAvailable options setAsideUntil start now = some index) :
    index < options.accounts.length ∧ untilOf setAsideUntil index ≤ now := by
  unfold nextAvailable at found
  have met := List.mem_of_find?_eq_some found
  have available := List.find?_some found
  exact ⟨lt_of_mem_placesFrom met, of_decide_eq_true available⟩

/-- A selection leaves the index or moves it to an available account. -/
theorem moved_index :
    (moved options rotation now).index = rotation.index ∨
      (moved options rotation now).index < options.accounts.length ∧
        untilOf rotation.setAsideUntil (moved options rotation now).index ≤ now := by
  unfold moved
  split
  · exact Or.inl rfl
  · split
    · exact Or.inl rfl
    next next found => exact Or.inr (nextAvailable_some found)

/-- An index that stays inside its window has found no account outside of its own. -/
theorem moved_blocked (bound : rotation.index < options.accounts.length)
    (blocked : now < untilOf rotation.setAsideUntil (moved options rotation now).index) :
    ∀ index < options.accounts.length, now < untilOf rotation.setAsideUntil index := by
  intro index index_lt
  unfold moved at blocked
  split at blocked
  next available => exact absurd available (Int.not_le.mpr blocked)
  next =>
    split at blocked
    next none =>
      by_cases current : index = rotation.index
      · rw [current]
        exact blocked
      · have listed := mem_placesFrom_one bound index_lt current
        have missed := List.find?_eq_none.mp none index listed
        simpa using missed
    next next found => exact absurd (nextAvailable_some found).2 (Int.not_le.mpr blocked)

theorem select_sound (sound : RotationSound options rotation) :
    RotationSound options (select options rotation now).2 where
  index_lt := by
    rcases @moved_index options rotation now with same | ⟨bound, -⟩
    · exact same ▸ sound.index_lt
    · exact bound
  selections := by
    intro selection member
    rcases List.mem_cons.mp member with rfl | earlier
    · intro blocked
      simp only [moved_setAsideUntil] at blocked ⊢
      exact moved_blocked sound.index_lt blocked
    · exact sound.selections selection (by simpa using earlier)

theorem setAside_index :
    (setAside options rotation index reason status now).index = rotation.index := by
  unfold setAside
  dsimp only
  split
  · rfl
  · split <;> rfl

theorem setAside_selections :
    (setAside options rotation index reason status now).selections = rotation.selections := by
  unfold setAside
  dsimp only
  split
  · rfl
  · split <;> rfl

theorem setAside_sound (sound : RotationSound options rotation) :
    RotationSound options (setAside options rotation index reason status now) where
  index_lt := by
    rw [setAside_index]
    exact sound.index_lt
  selections := by
    rw [setAside_selections]
    exact sound.selections

theorem initial_sound : RotationSound options (.initial options) where
  index_lt := List.length_pos_iff.mpr options.accounts_ne_nil
  selections := by
    intro selection member
    cases member

/-- A selection does not come back to accounts whose windows are open, if it did not start there. -/
theorem select_untried {tried : List Nat} (elsewhere : rotation.index ∉ tried)
    (opened : ∀ index ∈ tried, now < untilOf rotation.setAsideUntil index) :
    (select options rotation now).1 ∉ tried := by
  intro member
  rcases @moved_index options rotation now with same | ⟨-, available⟩
  · have current : rotation.index ∈ tried := by
      rw [← same]
      exact member
    exact elsewhere current
  · exact absurd available (Int.not_le.mpr (opened _ member))

/-! ## One event -/

variable {system : System}

/-- What an event can do: which request it changes, and through which calls of the rotation. -/
inductive Outcome (options : HeliusAccountRotationOptions) (system : System) : System → Prop
  | same : Outcome options system system
  | phased (id : Nat) (request : Request) (phase : Phase)
      (known : request ∈ system.requests) (settled : phase ≠ .cancelling) :
      Outcome options system (system.put id { request with phase := phase })
  | setAside (id : Nat) (request : Request) (index : Nat) (reason : HeliusAccountSetAsideReason)
      (status : Nat) (phase : Phase)
      (known : request ∈ system.requests) (settled : phase ≠ .cancelling) :
      Outcome options system
        ({ system with
            rotation := setAside options system.rotation index reason status system.clock }.put id
          { request with phase := phase })
  | checked (id : Nat) (request : Request) (index : Nat) (reason : HeliusAccountSetAsideReason)
      (status elapsed : Nat) (phase : Phase) (known : request ∈ system.requests)
      (untried : phase = .cancelling →
        (select options (setAside options system.rotation index reason status system.clock)
          (system.clock + elapsed)).1 ∉ request.tried) :
      Outcome options system
        ({ system with
            clock := system.clock + elapsed
            rotation := (select options
              (setAside options system.rotation index reason status system.clock)
              (system.clock + elapsed)).2 }.put id { request with phase := phase })
  | contacted (request : Request) (place : Request → List Request)
      (ready : request.tried = [] ∧ request.contacts = [] ∨
        request ∈ system.requests ∧ request.phase = .cancelling)
      (placed : ∀ sent, ∀ kept ∈ place sent, kept = sent ∨ kept ∈ system.requests) :
      Outcome options system (contact options system request place)
  | inspected :
      Outcome options system
        { system with rotation := (select options system.rotation system.clock).2 }
  | ticked (elapsed : Nat) :
      Outcome options system { system with clock := system.clock + elapsed }

theorem mem_put {id : Nat} {kept : Request} (member : kept ∈ (system.put id request).requests) :
    kept = request ∨ kept ∈ system.requests :=
  (List.mem_or_eq_of_mem_set member).symm

theorem classify_outcome {id elapsed : Nat} {response : Response}
    (known : request ∈ system.requests) :
    Outcome options system (classify options system id request index response elapsed) := by
  unfold classify
  split
  · exact .phased id request _ known (by simp)
  next reason _ =>
    dsimp only
    split
    · exact .setAside id request index reason _ _ known (by simp)
    · refine .checked id request index reason _ elapsed _ known ?_
      intro waiting tried
      rw [if_pos tried] at waiting
      cases waiting

theorem step_outcome (event : Event) : Outcome options system (step options system event) := by
  cases event with
  | send body =>
    dsimp only [step]
    refine .contacted ⟨body, [], .cancelling, []⟩ _ (Or.inl ⟨rfl, rfl⟩) ?_
    intro sent kept member
    rcases List.mem_append.mp member with earlier | last
    · exact Or.inr earlier
    · exact Or.inl (List.mem_singleton.mp last)
  | answer id response =>
    dsimp only [step]
    split
    next known =>
      exact .phased id _ (.classifying _ response) (List.mem_of_getElem? known) (by simp)
    · exact .same
  | fail id =>
    dsimp only [step]
    split
    next known => exact .phased id _ .rejected (List.mem_of_getElem? known) (by simp)
    · exact .same
  | classify id elapsed =>
    dsimp only [step]
    split
    next known => exact classify_outcome (List.mem_of_getElem? known)
    · exact .same
  | cancelled id =>
    dsimp only [step]
    split
    next known =>
      refine .contacted _ _ (Or.inr ⟨List.mem_of_getElem? known, rfl⟩) ?_
      intro sent kept member
      exact (List.mem_or_eq_of_mem_set member).symm
    · exact .same
  | currentAccount => exact .inspected
  | tick elapsed => exact .ticked elapsed

theorem Outcome.rotation_sound {after : System} (outcome : Outcome options system after)
    (sound : RotationSound options system.rotation) : RotationSound options after.rotation := by
  cases outcome with
  | same => exact sound
  | phased => exact sound
  | setAside => exact setAside_sound sound
  | checked => exact select_sound (setAside_sound sound)
  | contacted => exact select_sound sound
  | inspected => exact select_sound sound
  | ticked => exact sound

/-! ## The accounts of one request -/

/-- No window of an account tried by a request that waits for a cancellation has ended. -/
def WindowsOpen (system : System) : Prop :=
  ∀ request ∈ system.requests, request.phase = .cancelling →
    ∀ index ∈ request.tried, system.clock < untilOf system.rotation.setAsideUntil index

instance : DecidablePred WindowsOpen := fun _ => by
  unfold WindowsOpen
  infer_instance

/-- The accounts a request has contacted, and where the rotation stands while it waits. -/
structure Accounted (size index : Nat) (request : Request) : Prop where
  inRange : ∀ account ∈ request.contacts, account < size
  once : request.contacts.Nodup
  recorded : ∀ account, account ∈ request.tried ↔ account ∈ request.contacts
  elsewhere : request.phase = .cancelling → index ∉ request.tried

def RequestsAccounted (options : HeliusAccountRotationOptions) (system : System) : Prop :=
  ∀ request ∈ system.requests, Accounted options.accounts.length system.rotation.index request

/-- A request whose accounts are the same, the rotation's index having moved or not. -/
theorem Accounted.moved {moved : Nat} {phase : Phase} (accounted : Accounted size index request)
    (elsewhere : phase = .cancelling → moved ∉ request.tried) :
    Accounted size moved { request with phase := phase } where
  inRange := accounted.inRange
  once := accounted.once
  recorded := accounted.recorded
  elsewhere := elsewhere

/-- A contact with an account that was not tried. -/
theorem Accounted.contacted {fresh : Nat} (accounted : Accounted size index request)
    (bound : fresh < size) (untried : fresh ∉ request.tried) :
    Accounted size fresh (request.contacted fresh) where
  inRange := List.forall_mem_cons.mpr ⟨bound, accounted.inRange⟩
  once := by
    have uncontacted : fresh ∉ request.contacts := by
      rw [← accounted.recorded]
      exact untried
    exact List.nodup_cons.mpr ⟨uncontacted, accounted.once⟩
  recorded := by
    intro account
    simp only [Request.contacted, List.mem_insert_iff, List.mem_cons, accounted.recorded]
  elsewhere := by
    intro waiting
    cases waiting

/-- A selection keeps the accounts of every request whose tried windows are open. -/
theorem Accounted.select (accounted : Accounted size rotation.index request)
    (opened : request.phase = .cancelling → ∀ index ∈ request.tried,
      now < untilOf rotation.setAsideUntil index) :
    Accounted size (select options rotation now).1 request :=
  accounted.moved fun waiting =>
    select_untried (accounted.elsewhere waiting) (opened waiting)

/-- The account a request is about to contact is one it has not tried. -/
theorem ready_untried (before : WindowsOpen system) (accounted : RequestsAccounted options system)
    (ready : request.tried = [] ∧ request.contacts = [] ∨
      request ∈ system.requests ∧ request.phase = .cancelling) :
    Accounted options.accounts.length system.rotation.index request ∧
      (select options system.rotation system.clock).1 ∉ request.tried := by
  rcases ready with ⟨untried, uncontacted⟩ | ⟨known, waiting⟩
  · refine ⟨⟨?_, ?_, ?_, ?_⟩, ?_⟩ <;> simp [untried, uncontacted]
  · have standing := accounted request known
    exact ⟨standing, select_untried (standing.elsewhere waiting) (before request known waiting)⟩

theorem Outcome.requestsAccounted {after : System} (outcome : Outcome options system after)
    (sound : RotationSound options system.rotation) (before : WindowsOpen system)
    (later : WindowsOpen after) (accounted : RequestsAccounted options system) :
    RequestsAccounted options after := by
  cases outcome with
  | same => exact accounted
  | ticked => exact accounted
  | inspected =>
    intro request known
    exact (accounted request known).select (before request known)
  | phased id request phase known settled =>
    intro kept member
    rcases mem_put member with rfl | unchanged
    · exact (accounted request known).moved fun waiting => absurd waiting settled
    · exact accounted kept unchanged
  | setAside id request index reason status phase known settled =>
    intro kept member
    dsimp only [System.put]
    rw [setAside_index]
    rcases mem_put member with rfl | unchanged
    · exact (accounted request known).moved fun waiting => absurd waiting settled
    · exact accounted kept unchanged
  | checked id request index reason status elapsed phase known untried =>
    intro kept member
    rcases mem_put member with rfl | unchanged
    · exact (accounted request known).moved untried
    · have standing := accounted kept unchanged
      rw [← setAside_index] at standing
      refine standing.select fun waiting account tried => ?_
      have opened := later kept member waiting account tried
      simpa [System.put, Source.HeliusAccountRotation.select] using opened
  | contacted request place ready placed =>
    obtain ⟨standing, untried⟩ := ready_untried before accounted ready
    intro kept member
    rcases placed _ kept member with rfl | unchanged
    · exact standing.contacted (select_sound sound).index_lt untried
    · exact (accounted kept unchanged).select (before kept unchanged)

/-! ## Whole runs -/

/-- The system after the events, from the start of the listener at the given time. -/
def reached (options : HeliusAccountRotationOptions) (clock : Int) (events : List Event) : System :=
  run (step options) (.initial options clock) events

theorem reached_rotation_sound (clock : Int) (events : List Event) :
    RotationSound options (reached options clock events).rotation := by
  have kept : ∀ system event, RotationSound options system.rotation →
      RotationSound options (step options system event).rotation := by
    intro system event sound
    exact (step_outcome event).rotation_sound sound
  have started : RotationSound options (System.initial options clock).rotation := initial_sound
  exact run_invariant kept started events

theorem reached_requestsAccounted {clock : Int} {events : List Event}
    (opened : Always (step options) WindowsOpen (.initial options clock) events) :
    RequestsAccounted options (reached options clock events) := by
  have kept : ∀ system event, WindowsOpen system → WindowsOpen (step options system event) →
      RotationSound options system.rotation ∧ RequestsAccounted options system →
      RotationSound options (step options system event).rotation ∧
        RequestsAccounted options (step options system event) := by
    intro system event before later ⟨sound, accounted⟩
    have outcome := @step_outcome options system event
    exact ⟨outcome.rotation_sound sound, outcome.requestsAccounted sound before later accounted⟩
  have unsent : RequestsAccounted options (.initial options clock) := by
    intro request known
    cases known
  exact (run_invariant_of_always kept ⟨initial_sound, unsent⟩ opened).2

theorem Accounted.length_le (accounted : Accounted size index request) :
    request.contacts.length ≤ size := by
  have within : request.contacts ⊆ List.range size := by
    intro account member
    exact List.mem_range.mpr (accounted.inRange account member)
  have shorter := (List.subperm_of_subset accounted.once within).length_le
  rwa [List.length_range] at shorter

/-- In every run, an account inside its window is selected only when every account is set aside. In
every run in which no window of a tried account ends while its request waits for a cancellation, a
request contacts an account at most once, so at most as many times as there are accounts. -/
theorem rotation_contacts_once (options : HeliusAccountRotationOptions) (clock : Int)
    (events : List Event) :
    (∀ selection ∈ (reached options clock events).rotation.selections,
      selection.now < untilOf selection.setAsideUntil selection.index →
        ∀ index < options.accounts.length, selection.now < untilOf selection.setAsideUntil index) ∧
    (Always (step options) WindowsOpen (.initial options clock) events →
      ∀ request ∈ (reached options clock events).requests,
        request.contacts.Nodup ∧ request.contacts.length ≤ options.accounts.length) := by
  refine ⟨(reached_rotation_sound clock events).selections, ?_⟩
  intro opened request known
  have accounted := reached_requestsAccounted opened request known
  exact ⟨accounted.once, accounted.length_le⟩

/-- Two accounts with windows of one minute. -/
def twoAccounts : HeliusAccountRotationOptions where
  accounts := [⟨"main", "first"⟩, ⟨"spare", "second"⟩]
  cooldownMs := 60000
  accounts_ne_nil := by simp
  cooldownMs_pos := by decide

/-- A request refused by the first account and answered by the second. -/
def replayedOnce : List Event :=
  [.send .text, .answer 0 ⟨401, none⟩, .classify 0 1, .cancelled 0, .answer 0 ⟨200, none⟩,
    .classify 0 0]

theorem rotation_contacts_once_sample :
    Always (step twoAccounts) WindowsOpen (.initial twoAccounts 0) replayedOnce ∧
      (reached twoAccounts 0 replayedOnce).requests.map (·.contacts) = [[1, 0]] ∧
      ∀ request ∈ (reached twoAccounts 0 replayedOnce).requests,
        request.contacts.Nodup ∧ request.contacts.length ≤ 2 := by
  have opened : Always (step twoAccounts) WindowsOpen (.initial twoAccounts 0) replayedOnce := by
    decide +kernel
  exact ⟨opened, by decide +kernel, (rotation_contacts_once twoAccounts 0 replayedOnce).2 opened⟩

/-- The first request waits long for the first account's refusal, which the second one has already
seen. While its body is cancelled the second account is refused too, and the first window ends. -/
def contactedTwice : List Event :=
  [.send .text, .send .text, .answer 1 ⟨401, none⟩, .classify 1 0, .cancelled 1, .tick 59990,
    .answer 0 ⟨401, none⟩, .classify 0 0, .tick 5, .answer 1 ⟨401, none⟩, .classify 1 0, .tick 5,
    .cancelled 0]

/-- The first request is sent to the first account a second time. -/
theorem contactedTwice_contacts :
    (reached twoAccounts 0 contactedTwice).requests.map (·.contacts) = [[0, 0], [1, 0]] := by
  decide +kernel

end SolTokenListener.Guarantees.HeliusRotation
