import SolTokenListener.Lib.Checked

/-!
# Chain cursors, confirmation statuses, timestamps and observed events

Source: src/domain/types.ts:1-18, src/domain/cursor.ts:1-93, src/domain/timestamp.ts:1-41,
src/domain/confirmation-status.ts:1-34, src/domain/events.ts:31-45. A JavaScript `number`
is an `Int` here, so the NaN, fraction and negative-zero tests have nothing to reject;
`Number.isSafeInteger` keeps its bound. The `type`, `source`, `payloadVersion` and `payload`
of an observed event are read by no modelled function and are left out.
-/

namespace SolTokenListener.Source.Chain

open Lib.Checked

def MAX_SAFE_INTEGER : Int := 9007199254740991

def isSafeInteger (value : Int) : Bool := -MAX_SAFE_INTEGER ≤ value ∧ value ≤ MAX_SAFE_INTEGER

/-- White space and line terminators removed by `String.prototype.trim`. -/
def isTrimmed (c : Char) : Bool :=
  let code := c.toNat
  (0x09 ≤ code ∧ code ≤ 0x0d) ∨ code = 0x20 ∨ code = 0xa0 ∨ code = 0x1680 ∨
    (0x2000 ≤ code ∧ code ≤ 0x200a) ∨ code = 0x2028 ∨ code = 0x2029 ∨ code = 0x202f ∨
    code = 0x205f ∨ code = 0x3000 ∨ code = 0xfeff

/-- `value.trim() === ''`. -/
def isBlank (value : String) : Bool := value.toList.all isTrimmed

inductive ChainConfirmationStatus where
  | processed | confirmed | finalized | orphaned
  deriving DecidableEq, Repr

structure ChainCursor where
  slot : Int
  transactionIndex : Int
  instructionIndex : Int
  innerInstructionIndex : Option Int
  deriving DecidableEq, Repr

inductive ChainCursorField where
  | slot | transactionIndex | instructionIndex | innerInstructionIndex
  deriving DecidableEq, Repr

inductive TimestampField where
  | observedAtMs | blockchainTimeMs | occurredAtMs | evaluatedAtMs | pendingExitTriggerAtMs
  deriving DecidableEq, Repr

/-- The errors of the domain helpers, with the data they carry. -/
inductive DomainError where
  | invalidChainCursor (field : ChainCursorField) (value : Int)
  | invalidTimestamp (field : TimestampField) (value : Int)
  | confirmationStatusConflict (current incoming : ChainConfirmationStatus)
  deriving DecidableEq, Repr

/-- The part of `DomainEvent` the modelled functions read. -/
structure DomainEvent where
  id : String
  mint : String
  program : String
  signature : String
  cursor : ChainCursor
  confirmationStatus : ChainConfirmationStatus
  blockchainTimeMs : Option Int
  observedAtMs : Int
  deriving DecidableEq, Repr

def isIndex (value : Int) : Bool := 0 ≤ value ∧ isSafeInteger value

def assertValidCursorIndex (field : ChainCursorField) (value : Int) : Except DomainError Unit :=
  require (isIndex value) (.invalidChainCursor field value)

def assertValidChainCursor (cursor : ChainCursor) : Except DomainError Unit := do
  require (0 ≤ cursor.slot) (.invalidChainCursor .slot cursor.slot)
  assertValidCursorIndex .transactionIndex cursor.transactionIndex
  assertValidCursorIndex .instructionIndex cursor.instructionIndex
  match cursor.innerInstructionIndex with
  | none => return ()
  | some value => assertValidCursorIndex .innerInstructionIndex value

def compareInt (left right : Int) : Ordering :=
  if left < right then .lt else if left > right then .gt else .eq

def compareInnerInstructionIndex : Option Int → Option Int → Ordering
  | none, none => .eq
  | none, some _ => .lt
  | some _, none => .gt
  | some left, some right => compareInt left right

/-- `compareCursors` on cursors that passed `assertValidChainCursor`. -/
def compareValidCursors (left right : ChainCursor) : Ordering :=
  (compareInt left.slot right.slot).then <|
    (compareInt left.transactionIndex right.transactionIndex).then <|
      (compareInt left.instructionIndex right.instructionIndex).then <|
        compareInnerInstructionIndex left.innerInstructionIndex right.innerInstructionIndex

def compareCursors (left right : ChainCursor) : Except DomainError Ordering := do
  assertValidChainCursor left
  assertValidChainCursor right
  return compareValidCursors left right

def isTimestampMs (value : Int) : Bool := 0 ≤ value ∧ isSafeInteger value

def assertValidTimestampMs (field : TimestampField) (value : Int) : Except DomainError Unit :=
  require (isTimestampMs value) (.invalidTimestamp field value)

def assertValidNullableTimestampMs (field : TimestampField) :
    Option Int → Except DomainError Unit
  | none => return ()
  | some value => assertValidTimestampMs field value

inductive ConfirmationReconciliation where
  | keep | update
  deriving DecidableEq, Repr

def reconcileConfirmationStatus (current incoming : ChainConfirmationStatus) :
    Except DomainError ConfirmationReconciliation :=
  if current = incoming then .ok .keep
  else if current = .orphaned ∨ (current = .finalized ∧ incoming = .orphaned) then
    .error (.confirmationStatusConflict current incoming)
  else if current = .finalized then .ok .keep
  else if incoming = .orphaned then .ok .update
  else if current = .processed ∧ (incoming = .confirmed ∨ incoming = .finalized) then .ok .update
  else if current = .confirmed ∧ incoming = .finalized then .ok .update
  else .ok .keep

end SolTokenListener.Source.Chain
