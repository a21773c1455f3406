import SolTokenListener.Source.PumpTransactions

/-!
# The parent test of the PumpSwap decoder

Source: src/markets/pumpswap/transaction-decoder.ts:159-183. The bounds of a scope are those of
`PumpTransactions.scopeBoundary`.
-/

namespace SolTokenListener.Source.PumpSwapTransactions

open Source.PumpTransactions (scopeBoundary)
open Source.RpcTransaction

def insideScope (parent child : NormalizedInstruction) (instructions : List NormalizedInstruction) :
    Bool :=
  match parent.stackHeight, child.stackHeight, child.innerInstructionIndex with
  | some parentStackHeight, some childStackHeight, some childInnerIndex =>
    if child.instructionIndex ≠ parent.instructionIndex ∨
        childStackHeight ≠ parentStackHeight + 1 then false
    else
      match parent.innerInstructionIndex with
      | none => true
      | some parentInnerIndex =>
        parentInnerIndex < childInnerIndex ∧
          ((scopeBoundary parent parentInnerIndex parentStackHeight instructions).bind
            (·.innerInstructionIndex)).all (childInnerIndex < ·)
  | _, _, _ => false

end SolTokenListener.Source.PumpSwapTransactions
