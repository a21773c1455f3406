/-!
# Transactions over a mutable store

A transaction body reads and writes a store and may throw part way; the writes made
before a throw are visible until the transaction is rolled back. `transact` keeps the
store of a body that returned and restores the store of a body that threw.
-/

namespace SolTokenListener.Lib.Transaction

variable {σ ε α β : Type}

/-- A transaction body: a throw leaves the writes made so far. -/
abbrev Tx (σ ε : Type) := ExceptT ε (StateM σ)

/-- Run a body from a store, with no rollback. -/
def exec (body : Tx σ ε α) (store : σ) : Except ε α × σ := body.run.run store

/-- `BEGIN … COMMIT`, or `ROLLBACK` when the body throws. -/
def transact (body : Tx σ ε α) (store : σ) : Except ε α × σ :=
  match exec body store with
  | (.ok value, after) => (.ok value, after)
  | (.error error, _) => (.error error, store)

/-- Lift a pure check into a body. -/
def check (result : Except ε α) : Tx σ ε α := ExceptT.mk (pure result)

@[simp] theorem exec_pure (value : α) (store : σ) :
    exec (pure value : Tx σ ε α) store = (.ok value, store) := rfl

@[simp] theorem exec_get (store : σ) : exec (get : Tx σ ε σ) store = (.ok store, store) := rfl

@[simp] theorem exec_check (result : Except ε α) (store : σ) :
    exec (check result : Tx σ ε α) store = (result, store) := rfl

theorem exec_bind (first : Tx σ ε α) (next : α → Tx σ ε β) (store : σ) :
    exec (first >>= next) store =
      match exec first store with
      | (.ok value, after) => exec (next value) after
      | (.error error, after) => (.error error, after) := by
  have step : exec (first >>= next) store =
      exec (match (exec first store).1 with
        | .ok value => next value
        | .error error => throw error) (exec first store).2 := by
    change StateT.run (match (exec first store).1 with
      | .ok value => next value
      | .error error => pure (Except.error error)) (exec first store).2 = _
    cases (exec first store).1 <;> rfl
  rw [step]
  rcases exec first store with ⟨result, after⟩
  cases result <;> rfl

variable {first : Tx σ ε α} {next : α → Tx σ ε β}

/-- A body that returns did return at each of its steps. -/
theorem exec_bind_ok {store after : σ} {value : β} :
    exec (first >>= next) store = (.ok value, after) ↔
      ∃ a middle, exec first store = (.ok a, middle) ∧ exec (next a) middle = (.ok value, after) := by
  rw [exec_bind]
  rcases exec first store with ⟨result, middle⟩
  cases result with
  | error e => simp
  | ok a =>
    constructor
    · intro h
      exact ⟨a, middle, rfl, h⟩
    · rintro ⟨_, _, same, h⟩
      cases same
      exact h

theorem exec_bind_of_ok {store middle : σ} {a : α} (returned : exec first store = (.ok a, middle)) :
    exec (first >>= next) store = exec (next a) middle := by
  rw [exec_bind, returned]

theorem exec_bind_of_error {store middle : σ} {e : ε}
    (threw : exec first store = (.error e, middle)) :
    exec (first >>= next) store = (.error e, middle) := by
  rw [exec_bind, threw]

theorem transact_ok {body : Tx σ ε α} {store after : σ} {value : α} :
    transact body store = (.ok value, after) ↔ exec body store = (.ok value, after) := by
  unfold transact
  rcases exec body store with ⟨result, middle⟩
  cases result <;> simp

/-- A transaction that throws has no effect on the store. -/
theorem transact_error {body : Tx σ ε α} {store after : σ} {error : ε}
    (threw : transact body store = (.error error, after)) : after = store := by
  unfold transact at threw
  cases ran : exec body store with
  | mk result middle =>
    rw [ran] at threw
    cases result with
    | ok value => cases threw
    | error e =>
      cases threw
      rfl

end SolTokenListener.Lib.Transaction
