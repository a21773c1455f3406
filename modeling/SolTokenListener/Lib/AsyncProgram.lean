/-!
# Programs that await

A program is pure code between awaited calls. What a call answers or throws is decided
outside the program, and a program that is never resumed again has crashed there.
-/

namespace SolTokenListener.Lib.AsyncProgram

/-- The calls a program can await, the type of their answers, and what can be thrown. -/
structure Interface where
  Call : Type
  Answer : Call → Type
  Error : Type

inductive Program (interface : Interface) (α : Type) where
  | done (value : α)
  | thrown (error : interface.Error)
  | await (request : interface.Call)
      (resume : Except interface.Error (interface.Answer request) → Program interface α)

namespace Program

variable {interface : Interface} {α β : Type}

def bind : Program interface α → (α → Program interface β) → Program interface β
  | .done value, next => next value
  | .thrown error, _ => .thrown error
  | .await request resume, next => .await request fun answer => (resume answer).bind next

/-- `try … catch`: the handler sees what the body throws, at whichever call it does. -/
def recover : Program interface α → (interface.Error → Program interface α) → Program interface α
  | .done value, _ => .done value
  | .thrown error, handler => handler error
  | .await request resume, handler => .await request fun answer => (resume answer).recover handler

instance : Monad (Program interface) where
  pure := .done
  bind := bind

instance : MonadExcept interface.Error (Program interface) where
  throw := .thrown
  tryCatch := recover

end Program

variable {interface : Interface} {α : Type}

/-- Await one call and throw what it throws. -/
def call (request : interface.Call) : Program interface (interface.Answer request) :=
  .await request fun
    | .ok answer => .done answer
    | .error error => .thrown error

/-- A check made between two calls. -/
def lift : Except interface.Error α → Program interface α
  | .ok value => .done value
  | .error error => .thrown error

/-- What the program throws, taken as an answer. -/
def attempt (program : Program interface α) : Program interface (Except interface.Error α) :=
  tryCatch (do return .ok (← program)) fun error => return .error error

@[simp] theorem lift_ok_bind {β : Type} (value : α) (next : α → Program interface β) :
    (lift (.ok value) >>= next) = next value := rfl

end SolTokenListener.Lib.AsyncProgram
