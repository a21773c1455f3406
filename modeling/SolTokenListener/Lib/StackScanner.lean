/-!
# Scanning nested frames with a stack

A scanner reads items one at a time: an item opens a frame, closes the innermost frame or stays inside
it, and what it may do depends on the frames that are open. The scanner accepts the items that leave no
frame open. Those are exactly the sequences of nested frames, each with its closing item.
-/

namespace SolTokenListener.Lib.StackScanner

variable {Frame Item : Type}

inductive Move (Frame : Type) where
  | enter (frame : Frame)
  | leave
  | stay

/-- The open frames after a move; nothing can be left when none is open. -/
def Move.apply : Move Frame → List Frame → Option (List Frame)
  | .enter frame, stack => some (frame :: stack)
  | .leave, _ :: stack => some stack
  | .leave, [] => none
  | .stay, stack => some stack

variable (move : List Frame → Item → Option (Move Frame))

def scan : List Frame → List Item → Bool
  | stack, [] => stack.isEmpty
  | stack, item :: rest =>
    match (move stack item).bind (·.apply stack) with
    | none => false
    | some next => scan next rest

/-- Items that leave the open frames as they found them, frame by frame. -/
inductive Nested : List Frame → List Item → Prop where
  | done (stack : List Frame) : Nested stack []
  | stay {stack : List Frame} {item : Item} {rest : List Item} (stays : move stack item = some .stay)
      (after : Nested stack rest) : Nested stack (item :: rest)
  | frame {stack : List Frame} {frame : Frame} {opening closing : Item} {inside rest : List Item}
      (opens : move stack opening = some (.enter frame)) (within : Nested (frame :: stack) inside)
      (closes : move (frame :: stack) closing = some .leave) (after : Nested stack rest) :
      Nested stack (opening :: (inside ++ closing :: rest))

/-- Items that close all the open frames, the innermost first. -/
inductive Unwinds : List Frame → List Item → Prop where
  | done {items : List Item} (nested : Nested move [] items) : Unwinds [] items
  | close {frame : Frame} {stack : List Frame} {inside rest : List Item} {closing : Item}
      (within : Nested move (frame :: stack) inside)
      (closes : move (frame :: stack) closing = some .leave) (after : Unwinds stack rest) :
      Unwinds (frame :: stack) (inside ++ closing :: rest)

variable {move} {stack next : List Frame} {item : Item} {items rest : List Item}

theorem scan_cons (moved : (move stack item).bind (·.apply stack) = some next) :
    scan move stack (item :: rest) = scan move next rest := by
  rw [scan, moved]

theorem scan_enter {frame : Frame} (opens : move stack item = some (.enter frame)) :
    scan move stack (item :: rest) = scan move (frame :: stack) rest :=
  scan_cons (by rw [opens]; rfl)

theorem scan_stay (stays : move stack item = some .stay) :
    scan move stack (item :: rest) = scan move stack rest :=
  scan_cons (by rw [stays]; rfl)

theorem scan_leave {frame : Frame} (closes : move (frame :: stack) item = some .leave) :
    scan move (frame :: stack) (item :: rest) = scan move stack rest :=
  scan_cons (by rw [closes]; rfl)

/-- The scanner passes over nested items. -/
theorem scan_nested (nested : Nested move stack items) :
    scan move stack (items ++ rest) = scan move stack rest := by
  induction nested generalizing rest with
  | done stack => rfl
  | stay stays _ ih => rw [List.cons_append, scan_stay stays, ih]
  | frame opens _ closes _ withinIh afterIh =>
    rw [List.cons_append, List.append_assoc, scan_enter opens, withinIh, List.cons_append,
      scan_leave closes, afterIh]

theorem Unwinds.stay (stays : move stack item = some .stay) (after : Unwinds move stack rest) :
    Unwinds move stack (item :: rest) := by
  cases after with
  | done nested => exact .done (.stay stays nested)
  | close within closes after => exact .close (.stay stays within) closes after

theorem Unwinds.frame {frame : Frame} {closing : Item} {inside : List Item}
    (opens : move stack item = some (.enter frame)) (within : Nested move (frame :: stack) inside)
    (closes : move (frame :: stack) closing = some .leave) (after : Unwinds move stack rest) :
    Unwinds move stack (item :: (inside ++ closing :: rest)) := by
  cases after with
  | done nested => exact .done (.frame opens within closes nested)
  | @close outer outerStack before others outerClosing outerWithin outerCloses outerAfter =>
    have nested : Nested move (outer :: outerStack) (item :: (inside ++ closing :: before)) :=
      .frame opens within closes outerWithin
    have unwound := Unwinds.close nested outerCloses outerAfter
    rwa [List.cons_append, List.append_assoc, List.cons_append] at unwound

theorem unwinds_of_scan (accepted : scan move stack items = true) : Unwinds move stack items := by
  induction items generalizing stack with
  | nil =>
    obtain rfl : stack = [] := List.isEmpty_iff.mp accepted
    exact .done (.done [])
  | cons item rest ih =>
    cases moves : move stack item with
    | none =>
      rw [scan, moves] at accepted
      cases accepted
    | some kind =>
      cases kind with
      | enter frame =>
        rw [scan_enter moves] at accepted
        cases ih accepted with
        | close within closes after => exact .frame moves within closes after
      | stay =>
        rw [scan_stay moves] at accepted
        exact .stay moves (ih accepted)
      | leave =>
        cases stack with
        | nil =>
          rw [scan, moves] at accepted
          cases accepted
        | cons frame stack =>
          rw [scan_leave moves] at accepted
          exact .close (.done _) moves (ih accepted)

/-- From no open frame the scanner accepts the sequences of nested frames. -/
theorem scan_iff_nested : scan move [] items = true ↔ Nested move [] items := by
  constructor
  · intro accepted
    cases unwinds_of_scan accepted with
    | done nested => exact nested
  · intro nested
    have passed : scan move [] (items ++ []) = scan move [] [] := scan_nested nested
    rw [List.append_nil] at passed
    rw [passed]
    rfl

end SolTokenListener.Lib.StackScanner
