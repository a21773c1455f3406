import Mathlib.Data.List.Forall2

/-!
# Checked computations

Validators that reject with an error and otherwise return a value. `require`
models a guard clause that throws; the simp lemmas turn an accepted run into the
conjunction of the guards it passed.
-/

namespace SolTokenListener.Lib.Checked

variable {ε α β : Type}

/-- A guard clause: throw `error` unless `condition` holds. -/
def require (condition : Prop) [Decidable condition] (error : ε) : Except ε Unit :=
  if condition then .ok () else .error error

variable {condition : Prop}

@[simp] theorem require_eq_ok [Decidable condition] {error : ε} {u : Unit} :
    require condition error = .ok u ↔ condition := by
  unfold require
  split <;> simp_all

theorem require_eq_error [Decidable condition] {error e : ε} :
    require condition error = .error e ↔ ¬ condition ∧ error = e := by
  unfold require
  split <;> simp_all

/-- A guard clause whose condition the rest of the computation uses as a proof. -/
def demand (condition : Prop) [Decidable condition] (error : ε) : Except ε (PLift condition) :=
  if holds : condition then .ok ⟨holds⟩ else .error error

@[simp] theorem demand_eq_ok [Decidable condition] {error : ε} (holds : PLift condition) :
    demand condition error = .ok holds :=
  dif_pos holds.down

@[simp] theorem bind_eq_ok {step : Except ε α} {next : α → Except ε β} {value : β} :
    (step >>= next) = .ok value ↔ ∃ a, step = .ok a ∧ next a = .ok value := by
  cases step with
  | error e => simp [bind, Except.bind]
  | ok a => simp [bind, Except.bind]

@[simp] theorem pure_eq_ok {a value : α} :
    (pure a : Except ε α) = .ok value ↔ a = value := by
  simp [pure, Except.pure]

/-- An optional item, checked when it is there. -/
theorem mapM_some_eq_ok {item : α} {check : α → Except ε β} {result : Option β} :
    (some item).mapM check = .ok result ↔ ∃ found, check item = .ok found ∧ result = some found := by
  change (some <$> check item) = .ok result ↔ _
  cases checked : check item with
  | error error => exact iff_of_false (by rintro ⟨⟩) (by rintro ⟨found, ⟨⟩, -⟩)
  | ok found =>
    constructor
    · rintro ⟨⟩
      exact ⟨found, rfl, rfl⟩
    · rintro ⟨_, ⟨⟩, rfl⟩
      rfl

/-- An optional item whose check keeps it is kept. -/
theorem mapM_same {check : α → Except ε α} {value result : Option α}
    (same : ∀ item checked, check item = .ok checked → checked = item)
    (ok : value.mapM check = .ok result) : result = value := by
  cases value with
  | none =>
    cases ok
    rfl
  | some item =>
    obtain ⟨found, checked, rfl⟩ := mapM_some_eq_ok.mp ok
    rw [same item found checked]

/-- Pass on a number that lies in a range. -/
def inRange (error : ε) (value minimumValue maximumValue : Int) : Except ε Int := do
  require (minimumValue ≤ value ∧ value ≤ maximumValue) error
  return value

@[simp] theorem inRange_eq_ok {error : ε} {value lo hi result : Int} :
    inRange error value lo hi = .ok result ↔ result = value ∧ lo ≤ value ∧ value ≤ hi := by
  simp only [inRange, bind_eq_ok, require_eq_ok, pure_eq_ok, exists_const]
  rw [and_comm, eq_comm]

theorem exists_of_isOk {step : Except ε α} (isOk : step.isOk = true) : ∃ value, step = .ok value := by
  cases step with
  | error e => cases isOk
  | ok value => exact ⟨value, rfl⟩

/-- A loop of checks passes when each check does. -/
theorem forM_eq_ok {items : List α} {check : α → Except ε Unit} :
    items.forM check = .ok () ↔ ∀ item ∈ items, check item = .ok () := by
  induction items with
  | nil => simp
  | cons item rest ih =>
    have step : (item :: rest).forM check = (check item >>= fun _ => rest.forM check) := rfl
    rw [step, bind_eq_ok, List.forall_mem_cons, ← ih]
    exact ⟨fun ⟨(), first, others⟩ => ⟨first, others⟩, fun ⟨first, others⟩ => ⟨(), first, others⟩⟩

/-- A loop that selects, converts and pushes, stopping at the first error. -/
def collect (select : α → Except ε (Option β)) : List α → Except ε (List β)
  | [] => return []
  | item :: rest => do
    let chosen ← select item
    let others ← collect select rest
    return chosen.toList ++ others

variable {select : α → Except ε (Option β)}

theorem mem_collect {items : List α} {chosen : List β} {value : β}
    (collected : collect select items = .ok chosen) (member : value ∈ chosen) :
    ∃ item ∈ items, select item = .ok (some value) := by
  induction items generalizing chosen with
  | nil =>
    simp only [collect, pure_eq_ok] at collected
    subst collected
    cases member
  | cons item rest ih =>
    simp only [collect, bind_eq_ok, pure_eq_ok] at collected
    obtain ⟨first, selected, others, collectedRest, rfl⟩ := collected
    rcases List.mem_append.mp member with isFirst | isLater
    · rw [Option.mem_toList] at isFirst
      exact ⟨item, List.mem_cons_self, isFirst ▸ selected⟩
    · obtain ⟨found, isItem, chosen⟩ := ih collectedRest isLater
      exact ⟨found, List.mem_cons_of_mem _ isItem, chosen⟩

/-- A collected list, seen through a key that the selection determines item by item. -/
theorem map_collect {γ : Type} {key : β → γ} {keyOf : α → Option γ}
    (spec : ∀ item choice, select item = .ok choice →
      choice.map key = keyOf item) {items : List α} :
    ∀ {chosen : List β}, collect select items = .ok chosen →
      chosen.map key = items.filterMap keyOf := by
  induction items with
  | nil =>
    intro chosen collected
    simp only [collect, pure_eq_ok] at collected
    subst collected
    rfl
  | cons item rest ih =>
    intro chosen collected
    simp only [collect, bind_eq_ok, pure_eq_ok] at collected
    obtain ⟨first, selected, others, collectedRest, rfl⟩ := collected
    rw [List.map_append, ih collectedRest, List.filterMap_cons, ← spec item first selected]
    cases first <;> rfl

end SolTokenListener.Lib.Checked
