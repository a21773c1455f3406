import SolTokenListener.Source.RpcTransaction

/-!
# The scope of an action in the Pump decoder

Source: src/launchpads/pumpfun/transaction-decoder.ts:256-282.
-/

namespace SolTokenListener.Source.PumpTransactions

open Source.RpcTransaction

/-- The first later instruction of the same outer one that is no deeper than the action. -/
def scopeBoundary (action : NormalizedInstruction) (actionInnerIndex : Nat) (actionStackHeight : Int)
    (instructions : List NormalizedInstruction) : Option NormalizedInstruction :=
  instructions.find? fun candidate =>
    candidate.instructionIndex = action.instructionIndex ∧
      candidate.innerInstructionIndex.any (actionInnerIndex < ·) ∧
      candidate.stackHeight.any (· ≤ actionStackHeight)

def isEventInsideActionScope (action event : NormalizedInstruction)
    (instructions : List NormalizedInstruction) : Bool :=
  match event.innerInstructionIndex, action.stackHeight with
  | some eventInnerIndex, some actionStackHeight =>
    if event.instructionIndex ≠ action.instructionIndex ∨
        event.stackHeight ≠ some (actionStackHeight + 1) then false
    else
      match action.innerInstructionIndex with
      | none => true
      | some actionInnerIndex =>
        actionInnerIndex < eventInnerIndex ∧
          ((scopeBoundary action actionInnerIndex actionStackHeight instructions).bind
            (·.innerInstructionIndex)).all (eventInnerIndex < ·)
  | _, _ => false

end SolTokenListener.Source.PumpTransactions
