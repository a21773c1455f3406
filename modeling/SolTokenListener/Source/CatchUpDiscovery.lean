import SolTokenListener.Lib.Utf16Text
import SolTokenListener.Source.StrictCatchUp

/-!
# Merging catch-up discoveries

Source: src/application/catch-up-discovery.ts:1-84, src/solana/rpc/catch-up-source.ts:84-170. A `Map`
keeps its keys in the order they were first set, so it is the list of its values here, each with its
signature as key. A status of a discovery is never `orphaned`, so reconciling two statuses never throws.
-/

namespace SolTokenListener.Source.CatchUpDiscovery

open Lib.Utf16Text
open Source.Chain Source.StrictCatchUp

/-- A status a source reports: never `orphaned`. -/
inductive CatchUpConfirmationStatus where
  | processed | confirmed | finalized
  deriving DecidableEq, Repr

def CatchUpConfirmationStatus.chain : CatchUpConfirmationStatus → ChainConfirmationStatus
  | .processed => .processed
  | .confirmed => .confirmed
  | .finalized => .finalized

structure CatchUpSignature where
  signature : String
  slot : Nat
  confirmationStatus : CatchUpConfirmationStatus
  blockTimeMs : Option Int
  transactionFailed : Bool
  deriving DecidableEq, Repr

inductive CatchUpSourceStage where
  | request | response | pagination
  deriving DecidableEq, Repr

structure CatchUpDiscoveryProgram where
  key : ProcessingCheckpointKey
  id : String
  deriving DecidableEq, Repr

structure CatchUpDiscoveryScan where
  program : CatchUpDiscoveryProgram
  rows : List CatchUpSignature
  deriving DecidableEq, Repr

structure MergedCatchUpDiscovery extends CatchUpSignature where
  programIds : List String
  deriving DecidableEq, Repr

structure CatchUpSourceError where
  stage : CatchUpSourceStage
  program : Option ProcessingCheckpointKey
  deriving DecidableEq, Repr

/-- Two one-row scans of one signature merge to this row, or the merge throws. -/
def reconcileDiscovery (current incoming : CatchUpSignature) : Option CatchUpSignature :=
  if current.slot ≠ incoming.slot then none
  else if current.blockTimeMs.isSome ∧ incoming.blockTimeMs.isSome ∧
      current.blockTimeMs ≠ incoming.blockTimeMs then none
  else if current.transactionFailed ≠ incoming.transactionFailed then none
  else
    match reconcileConfirmationStatus current.confirmationStatus.chain
        incoming.confirmationStatus.chain with
    | .error _ => none
    | .ok reconciliation => some
        { signature := current.signature
          slot := current.slot
          confirmationStatus :=
            if reconciliation = .update then incoming.confirmationStatus else current.confirmationStatus
          blockTimeMs := current.blockTimeMs.or incoming.blockTimeMs
          transactionFailed := current.transactionFailed }

def lexicalOrder (left right : String) : Int :=
  if left = right then 0 else if before left right then -1 else 1

def discoveryOrder (left right : MergedCatchUpDiscovery) : Int :=
  if left.slot ≠ right.slot then if left.slot < right.slot then -1 else 1
  else
    let signature := lexicalOrder left.signature right.signature
    if signature ≠ 0 then signature
    else lexicalOrder (left.programIds.head?.getD "") (right.programIds.head?.getD "")

/-- `[...previous, id].sort(lexicalOrder)`. -/
def addProgramId (previous : List String) (id : String) : List String :=
  (previous ++ [id]).mergeSort fun left right => lexicalOrder left right ≤ 0

/-- One row of one scan. -/
def mergeRow (program : CatchUpDiscoveryProgram) (bySignature : List MergedCatchUpDiscovery)
    (row : CatchUpSignature) : Except CatchUpSourceError (List MergedCatchUpDiscovery) :=
  match bySignature.find? (·.signature = row.signature) with
  | none => return bySignature ++ [⟨row, [program.id]⟩]
  | some previous =>
    match reconcileDiscovery previous.toCatchUpSignature row with
    | none => throw ⟨.response, some program.key⟩
    | some reconciled => return bySignature.map fun entry =>
      if entry.signature = row.signature then
        ⟨reconciled, addProgramId previous.programIds program.id⟩
      else entry

def mergeScan (bySignature : List MergedCatchUpDiscovery) (scan : CatchUpDiscoveryScan) :
    Except CatchUpSourceError (List MergedCatchUpDiscovery) :=
  scan.rows.foldlM (mergeRow scan.program) bySignature

def mergeCatchUpDiscoveries (scans : List CatchUpDiscoveryScan) :
    Except CatchUpSourceError (List MergedCatchUpDiscovery) := do
  let bySignature ← scans.foldlM mergeScan []
  return bySignature.mergeSort fun left right => discoveryOrder left right ≤ 0

end SolTokenListener.Source.CatchUpDiscovery
