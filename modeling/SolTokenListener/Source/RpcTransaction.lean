/-!
# Normalized instructions

Source: src/solana/rpc/types.ts:1-41.
-/

namespace SolTokenListener.Source.RpcTransaction

structure NormalizedInstruction where
  programId : String
  accounts : List String
  data : List UInt8
  instructionIndex : Nat
  innerInstructionIndex : Option Nat
  parentInstructionIndex : Option Nat
  stackHeight : Option Int
  deriving DecidableEq, Repr

end SolTokenListener.Source.RpcTransaction
