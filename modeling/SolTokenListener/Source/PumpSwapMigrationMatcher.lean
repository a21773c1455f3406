import SolTokenListener.Source.PumpTransactions

/-!
# The parent test of the migration matcher

Source: src/application/pumpswap-migration-matcher.ts:155-193. Only the test is modelled here. The boundary
it looks for is the one of the Pump decoder, and its inner index is never `null`, so `requireInnerIndex`
does not throw.
-/

namespace SolTokenListener.Source.PumpSwapMigrationMatcher

open Source.RpcTransaction
open Source.PumpTransactions (scopeBoundary)

def isDirectCpiChild (parent child : NormalizedInstruction) (instructions : List NormalizedInstruction) : Bool :=
  match parent.stackHeight with
  | none => false
  | some parentStackHeight =>
    if child.stackHeight ≠ some (parentStackHeight + 1) then false
    else
      match child.innerInstructionIndex with
      | none => false
      | some childInnerIndex =>
        if child.instructionIndex ≠ parent.instructionIndex ∨
            parent.innerInstructionIndex.any (childInnerIndex ≤ ·) then false
        else
          match parent.innerInstructionIndex with
          | none => true
          | some parentInnerInstructionIndex =>
            ((scopeBoundary parent parentInnerInstructionIndex parentStackHeight instructions).bind
              (·.innerInstructionIndex)).all (childInnerIndex < ·)

end SolTokenListener.Source.PumpSwapMigrationMatcher
