import SolTokenListener.Source.WebSocketCreateHint

/-!
# Passive mentions are exactly well-bracketed program frames

The scanner keeps the open programs on a stack. It accepts the logs that are a sequence of nested
program frames: each opened at its depth, closed by the success line of its own program, with nothing
but log lines and its own consumption lines between, and no Pump or vetoed program opened at any depth.
-/

namespace SolTokenListener.Guarantees.PassiveMention

open Lib Lib.TextPattern
open Lib.DecimalUnits (isDigit isPositive natUnits)
open Lib.JsonText (Text ascii byteLength)
open Lib.StackScanner (Move Nested scan scan_iff_nested)
open Source.Chain (MAX_SAFE_INTEGER)
open Source.WebSocketCreateHint

/-! ## Lines -/

/-- The letters and the length a log line may name a program by. -/
def IsProgramId (program : Text) : Prop :=
  (∀ c ∈ program, isBase58 c = true) ∧ 32 ≤ program.length ∧ program.length ≤ 44

/-- A decimal number without leading zeros. -/
def IsDecimal (digits : Text) : Prop := digits = [48] ∨ isPositive digits = true

/-- A line of the runtime: a first word after `Program`, and what follows it. -/
def programLine (word rest : Text) : Text := ascii "Program " ++ (word ++ 32 :: rest)

/-- `Program <id> invoke [<depth>]`. -/
def InvokeLine (program : Text) (depth : Nat) (line : Text) : Prop :=
  IsProgramId program ∧
    line = programLine program (ascii "invoke [" ++ (natUnits depth ++ [93]))

/-- `Program <id> success`. -/
def SuccessLine (program line : Text) : Prop :=
  IsProgramId program ∧ line = programLine program (ascii "success")

def LogLine (line : Text) : Prop := ascii "Program log: " <+: line

/-- `Program <id> consumed <n> of <m> compute units`. -/
def ConsumptionLine (program line : Text) : Prop :=
  IsProgramId program ∧ ∃ consumed available, IsDecimal consumed ∧ IsDecimal available ∧
    number consumed ≤ number available ∧ (number available : Int) ≤ MAX_SAFE_INTEGER ∧
    line = programLine program
      (ascii "consumed " ++ (consumed ++ (ascii " of " ++ (available ++ ascii " compute units"))))

/-! ## The grammar -/

section Grammar

variable (libraries : Libraries) (vetoPrograms : List Text)

/-- A program that may appear in a passive mention. -/
structure Admitted (program : Text) : Prop where
  notPump : program ≠ PUMP_PROGRAM_ID
  notVetoed : program ∉ vetoPrograms
  isPublicKey : libraries.isPublicKey program = true

/-- Lines inside the open programs, the innermost first, that open and close frames of their own. -/
inductive Frames : List Text → List Text → Prop where
  | done (stack : List Text) : Frames stack []
  | log {current line : Text} {stack rest : List Text} (isLog : LogLine line)
      (after : Frames (current :: stack) rest) : Frames (current :: stack) (line :: rest)
  | consumption {current line : Text} {stack rest : List Text}
      (consumes : ConsumptionLine current line) (after : Frames (current :: stack) rest) :
      Frames (current :: stack) (line :: rest)
  | frame {program opening closing : Text} {stack inside rest : List Text}
      (opens : InvokeLine program (stack.length + 1) opening)
      (admitted : Admitted libraries vetoPrograms program)
      (within : Frames (program :: stack) inside) (closes : SuccessLine program closing)
      (after : Frames stack rest) : Frames stack (opening :: (inside ++ closing :: rest))

/-- The logs of a passive mention: frames from the outermost level on, without control characters. -/
structure PassiveLogs (lines : List Text) : Prop where
  nonempty : lines ≠ []
  visible : ∀ line ∈ lines, ∀ point ∈ codePoints line, libraries.isControl point = false
  frames : Frames libraries vetoPrograms [] lines

end Grammar

/-! ## Patterns -/

theorem space_not_base58 : isBase58 32 = false := by decide

/-- The first word of a line ends at its first space. -/
theorem programLine_inj {left right leftRest rightRest : Text} (leftWord : 32 ∉ left)
    (rightWord : 32 ∉ right) (same : programLine left leftRest = programLine right rightRest) :
    left = right ∧ leftRest = rightRest := by
  have noSpace : ∀ word : Text, 32 ∉ word → ∀ c ∈ word, (fun c => decide (c ≠ 32)) c = true := by
    intro word absent c member
    exact decide_eq_true fun isSpace => absent (isSpace ▸ member)
  exact run_unique rfl (noSpace left leftWord) (noSpace right rightWord) (List.append_cancel_left same)

theorem IsProgramId.noSpace {program : Text} (isProgram : IsProgramId program) : 32 ∉ program := by
  intro member
  have accepted := isProgram.1 32 member
  rw [space_not_base58] at accepted
  cases accepted

theorem denotes_programId (word : Text) (captures : Captures Nat) :
    Denotes (.repeated isBase58 32 (some 44)) word captures ↔ IsProgramId word ∧ captures = [] := by
  constructor
  · rintro ⟨rfl, base58, least, most⟩
    exact ⟨⟨base58, least, most 44 rfl⟩, rfl⟩
  · rintro ⟨⟨base58, least, most⟩, rfl⟩
    refine ⟨rfl, base58, least, ?_⟩
    rintro _ ⟨⟩
    exact most

theorem denotes_positiveDecimal (word : Text) (captures : Captures Nat) :
    Denotes positiveDecimal word captures ↔ isPositive word = true ∧ captures = [] := by
  simp only [positiveDecimal, Denotes]
  constructor
  · rintro ⟨first, rest, _, _, rfl, rfl, ⟨rfl, accepted, least, most⟩, rfl, digits, -, -⟩
    obtain ⟨unit, rfl⟩ := List.length_eq_one_iff.mp (Nat.le_antisymm (most 1 rfl) least)
    have head := accepted unit List.mem_cons_self
    simp only [decide_eq_true_eq] at head
    exact ⟨decide_eq_true ⟨head.1, head.2, List.all_eq_true.mpr digits⟩, rfl⟩
  · rintro ⟨positive, rfl⟩
    cases word with
    | nil => cases positive
    | cons first rest =>
      obtain ⟨isFirst, nonzero, others⟩ := of_decide_eq_true positive
      refine ⟨[first], rest, [], [], rfl, rfl, ⟨rfl, ?_, le_rfl, ?_⟩, rfl, List.all_eq_true.mp others,
        Nat.zero_le _, ?_⟩
      · intro unit member
        obtain rfl := List.mem_singleton.mp member
        exact decide_eq_true ⟨isFirst, nonzero⟩
      · rintro _ ⟨⟩
        exact le_rfl
      · rintro _ ⟨⟩

theorem denotes_unsignedDecimal (word : Text) (captures : Captures Nat) :
    Denotes unsignedDecimal word captures ↔ IsDecimal word ∧ captures = [] := by
  have alternatives : Denotes unsignedDecimal word captures ↔
      (word = [48] ∧ captures = []) ∨ Denotes positiveDecimal word captures := Iff.rfl
  rw [alternatives, denotes_positiveDecimal, ← or_and_right]
  rfl

section Execution

variable {line : Text} {captures : Captures Nat}

theorem denotes_invocation : Denotes PASSIVE_PROGRAM_INVOCATION line captures ↔
    ∃ program depth, IsProgramId program ∧ isPositive depth = true ∧
      line = programLine program (ascii "invoke [" ++ (depth ++ [93])) ∧
      captures = [("program", program), ("depth", depth)] := by
  constructor
  · intro denotes
    obtain ⟨_, rfl, afterWord⟩ := denotes_seq_literal.mp denotes
    obtain ⟨program, _, _, rfl, isProgram, afterProgram, rfl⟩ :=
      (denotes_seq_group denotes_programId).mp afterWord
    obtain ⟨_, rfl, afterInvoke⟩ := denotes_seq_literal.mp afterProgram
    obtain ⟨depth, _, _, rfl, isDepth, ⟨rfl, rfl⟩, rfl⟩ :=
      (denotes_seq_group denotes_positiveDecimal).mp afterInvoke
    exact ⟨program, depth, isProgram, isDepth, rfl, rfl⟩
  · rintro ⟨program, depth, isProgram, isDepth, rfl, rfl⟩
    refine denotes_seq_literal.mpr ⟨_, rfl, (denotes_seq_group denotes_programId).mpr
      ⟨program, _, _, rfl, isProgram, denotes_seq_literal.mpr ⟨_, rfl, ?_⟩, rfl⟩⟩
    exact (denotes_seq_group denotes_positiveDecimal).mpr
      ⟨depth, _, [], rfl, isDepth, ⟨rfl, rfl⟩, rfl⟩

theorem denotes_success : Denotes PASSIVE_PROGRAM_SUCCESS line captures ↔
    ∃ program, IsProgramId program ∧ line = programLine program (ascii "success") ∧
      captures = [("program", program)] := by
  constructor
  · intro denotes
    obtain ⟨_, rfl, afterWord⟩ := denotes_seq_literal.mp denotes
    obtain ⟨program, _, _, rfl, isProgram, ⟨rfl, rfl⟩, rfl⟩ :=
      (denotes_seq_group denotes_programId).mp afterWord
    exact ⟨program, isProgram, rfl, rfl⟩
  · rintro ⟨program, isProgram, rfl, rfl⟩
    exact denotes_seq_literal.mpr ⟨_, rfl, (denotes_seq_group denotes_programId).mpr
      ⟨program, _, [], rfl, isProgram, ⟨rfl, rfl⟩, rfl⟩⟩

theorem denotes_consumption : Denotes PASSIVE_PROGRAM_CONSUMPTION line captures ↔
    ∃ program consumed available, IsProgramId program ∧ IsDecimal consumed ∧ IsDecimal available ∧
      line = programLine program
        (ascii "consumed " ++ (consumed ++ (ascii " of " ++ (available ++ ascii " compute units")))) ∧
      captures = [("program", program), ("consumed", consumed), ("available", available)] := by
  constructor
  · intro denotes
    obtain ⟨_, rfl, afterWord⟩ := denotes_seq_literal.mp denotes
    obtain ⟨program, _, _, rfl, isProgram, afterProgram, rfl⟩ :=
      (denotes_seq_group denotes_programId).mp afterWord
    obtain ⟨_, rfl, afterVerb⟩ := denotes_seq_literal.mp afterProgram
    obtain ⟨consumed, _, _, rfl, isConsumed, afterConsumed, rfl⟩ :=
      (denotes_seq_group denotes_unsignedDecimal).mp afterVerb
    obtain ⟨_, rfl, afterOf⟩ := denotes_seq_literal.mp afterConsumed
    obtain ⟨available, _, _, rfl, isAvailable, ⟨rfl, rfl⟩, rfl⟩ :=
      (denotes_seq_group denotes_unsignedDecimal).mp afterOf
    exact ⟨program, consumed, available, isProgram, isConsumed, isAvailable, rfl, rfl⟩
  · rintro ⟨program, consumed, available, isProgram, isConsumed, isAvailable, rfl, rfl⟩
    refine denotes_seq_literal.mpr ⟨_, rfl, (denotes_seq_group denotes_programId).mpr
      ⟨program, _, _, rfl, isProgram, denotes_seq_literal.mpr ⟨_, rfl, ?_⟩, rfl⟩⟩
    refine (denotes_seq_group denotes_unsignedDecimal).mpr
      ⟨consumed, _, _, rfl, isConsumed, denotes_seq_literal.mpr ⟨_, rfl, ?_⟩, rfl⟩
    exact (denotes_seq_group denotes_unsignedDecimal).mpr
      ⟨available, _, [], rfl, isAvailable, ⟨rfl, rfl⟩, rfl⟩

/-- The match is unique, so a search with backtracking finds the groups of the line. -/
theorem exec_invocation : exec PASSIVE_PROGRAM_INVOCATION line = some captures ↔
    ∃ program depth, IsProgramId program ∧ isPositive depth = true ∧
      line = programLine program (ascii "invoke [" ++ (depth ++ [93])) ∧
      captures = [("program", program), ("depth", depth)] := by
  rw [← denotes_invocation]
  refine exec_iff ?_
  intro left right isLeft isRight
  obtain ⟨program, depth, isProgram, -, rfl, rfl⟩ := denotes_invocation.mp isLeft
  obtain ⟨program', depth', isProgram', -, same, rfl⟩ := denotes_invocation.mp isRight
  obtain ⟨rfl, rest⟩ := programLine_inj isProgram.noSpace isProgram'.noSpace same
  obtain rfl := List.append_cancel_right (List.append_cancel_left rest)
  rfl

theorem exec_success : exec PASSIVE_PROGRAM_SUCCESS line = some captures ↔
    ∃ program, IsProgramId program ∧ line = programLine program (ascii "success") ∧
      captures = [("program", program)] := by
  rw [← denotes_success]
  refine exec_iff ?_
  intro left right isLeft isRight
  obtain ⟨program, isProgram, rfl, rfl⟩ := denotes_success.mp isLeft
  obtain ⟨program', isProgram', same, rfl⟩ := denotes_success.mp isRight
  obtain ⟨rfl, -⟩ := programLine_inj isProgram.noSpace isProgram'.noSpace same
  rfl

theorem IsDecimal.isDigit {digits : Text} (isDecimal : IsDecimal digits) :
    ∀ unit ∈ digits, isDigit unit = true := by
  rcases isDecimal with rfl | positive
  · decide
  · cases digits with
    | nil => cases positive
    | cons first rest =>
      obtain ⟨isFirst, -, others⟩ := of_decide_eq_true positive
      exact List.forall_mem_cons.mpr ⟨isFirst, List.all_eq_true.mp others⟩

theorem exec_consumption : exec PASSIVE_PROGRAM_CONSUMPTION line = some captures ↔
    ∃ program consumed available, IsProgramId program ∧ IsDecimal consumed ∧ IsDecimal available ∧
      line = programLine program
        (ascii "consumed " ++ (consumed ++ (ascii " of " ++ (available ++ ascii " compute units")))) ∧
      captures = [("program", program), ("consumed", consumed), ("available", available)] := by
  rw [← denotes_consumption]
  refine exec_iff ?_
  intro left right isLeft isRight
  obtain ⟨program, consumed, available, isProgram, isConsumed, -, rfl, rfl⟩ :=
    denotes_consumption.mp isLeft
  obtain ⟨program', consumed', available', isProgram', isConsumed', -, same, rfl⟩ :=
    denotes_consumption.mp isRight
  obtain ⟨rfl, rest⟩ := programLine_inj isProgram.noSpace isProgram'.noSpace same
  -- a space ends the run of digits
  have counts : consumed ++ 32 :: (ascii "of " ++ (available ++ ascii " compute units")) =
      consumed' ++ 32 :: (ascii "of " ++ (available' ++ ascii " compute units")) :=
    List.append_cancel_left rest
  obtain ⟨rfl, others⟩ := run_unique rfl isConsumed.isDigit isConsumed'.isDigit counts
  obtain rfl := List.append_cancel_right (List.append_cancel_left others)
  rfl

/-! ## No line has two forms -/

theorem programLine_ne {left right leftRest rightRest : Text} {first second : Nat}
    (leftWord : 32 ∉ left) (rightWord : 32 ∉ right) (different : first ≠ second) :
    programLine left (first :: leftRest) ≠ programLine right (second :: rightRest) := by
  intro same
  exact different (List.cons.inj (programLine_inj leftWord rightWord same).2).1

theorem exec_eq_none {pattern : Pattern Nat} (refused : ∀ captures, exec pattern line ≠ some captures) :
    exec pattern line = none :=
  Option.eq_none_iff_forall_ne_some.mpr refused

/-- `log:` is too short for a program. -/
theorem log_not_programLine {program rest others : Text} (isProgram : IsProgramId program) :
    ascii "Program log: " ++ others ≠ programLine program rest := by
  intro same
  have asLine : ascii "Program log: " ++ others = programLine (ascii "log:") others := rfl
  have word : (ascii "log:") = program :=
    (programLine_inj (by decide) isProgram.noSpace (asLine.symm.trans same)).1
  have long := isProgram.2.1
  rw [← word] at long
  exact absurd long (by decide)

end Execution

/-! ## Moves -/

variable {libraries : Libraries} {move : Move Text} {current : Text}

section Moves

variable {vetoPrograms stack : List Text} {line program : Text}

/-- A line without control characters. -/
def Visible (libraries : Libraries) (line : Text) : Prop :=
  ∀ point ∈ codePoints line, libraries.isControl point = false

theorem any_isControl_iff :
    ¬ (codePoints line).any libraries.isControl = true ↔ Visible libraries line := by
  simp [Visible]

theorem lineMove_visible (moves : lineMove libraries vetoPrograms stack line = some move) :
    Visible libraries line := by
  rw [← any_isControl_iff]
  intro hidden
  unfold lineMove at moves
  rw [if_pos hidden] at moves
  cases moves

theorem lineMove_of_invocation {invocation : Captures Nat} (visible : Visible libraries line)
    (found : exec PASSIVE_PROGRAM_INVOCATION line = some invocation) :
    lineMove libraries vetoPrograms stack line =
      invocationMove libraries vetoPrograms stack invocation := by
  unfold lineMove
  rw [if_neg (any_isControl_iff.mpr visible), found]

theorem lineMove_outside (found : exec PASSIVE_PROGRAM_INVOCATION line = none) :
    lineMove libraries vetoPrograms [] line = none := by
  unfold lineMove
  rw [found]
  split
  · rfl
  · rfl

theorem lineMove_inside (visible : Visible libraries line)
    (found : exec PASSIVE_PROGRAM_INVOCATION line = none) :
    lineMove libraries vetoPrograms (current :: stack) line = insideMove current line := by
  unfold lineMove
  rw [if_neg (any_isControl_iff.mpr visible), found]

/-! ### Invocations -/

theorem invocationMove_eq {word depth : Text} :
    invocationMove libraries vetoPrograms stack [("program", word), ("depth", depth)] = some move ↔
      depth = natUnits (stack.length + 1) ∧ Admitted libraries vetoPrograms word ∧ move = .enter word := by
  have isDepth : group "depth" [("program", word), ("depth", depth)] = some depth := rfl
  have isProgram : group "program" [("program", word), ("depth", depth)] = some word := rfl
  unfold invocationMove
  rw [isDepth, isProgram, Option.getD_some]
  dsimp only
  split
  · next refused =>
      refine iff_of_false (by rintro ⟨⟩) ?_
      rintro ⟨rfl, ⟨notPump, notVetoed, isPublicKey⟩, -⟩
      simp [notPump, notVetoed, isPublicKey] at refused
  · next accepted =>
      simp only [not_or, ne_eq, not_not, Option.some.injEq, Bool.not_eq_false,
        List.contains_iff_mem] at accepted
      obtain ⟨sameDepth, notPump, notVetoed, isPublicKey⟩ := accepted
      constructor
      · rintro ⟨⟩
        exact ⟨sameDepth, ⟨notPump, notVetoed, isPublicKey⟩, rfl⟩
      · rintro ⟨-, -, rfl⟩
        rfl

theorem insideMove_ne_enter {chars : Text} :
    insideMove current chars ≠ some (.enter program) := by
  unfold insideMove consumptionMove
  split
  · split <;> simp
  · split
    · simp
    · split
      · dsimp only
        split <;> simp
      · simp

/-- A frame is entered exactly at an invocation, one level deeper, of an admitted program. -/
theorem lineMove_enter_iff : lineMove libraries vetoPrograms stack line = some (.enter program) ↔
    Visible libraries line ∧ InvokeLine program (stack.length + 1) line ∧
      Admitted libraries vetoPrograms program := by
  constructor
  · intro moves
    have visible := lineMove_visible moves
    cases found : exec PASSIVE_PROGRAM_INVOCATION line with
    | none =>
      cases stack with
      | nil =>
        rw [lineMove_outside found] at moves
        cases moves
      | cons current rest =>
        rw [lineMove_inside visible found] at moves
        exact absurd moves insideMove_ne_enter
    | some invocation =>
      obtain ⟨word, depth, isProgram, -, isLine, rfl⟩ := exec_invocation.mp found
      rw [lineMove_of_invocation visible found] at moves
      obtain ⟨rfl, admitted, same⟩ := invocationMove_eq.mp moves
      cases same
      exact ⟨visible, ⟨isProgram, isLine⟩, admitted⟩
  · rintro ⟨visible, ⟨isProgram, isLine⟩, admitted⟩
    have positive : isPositive (natUnits (stack.length + 1)) = true :=
      DecimalUnits.isPositive_natUnits (Nat.succ_ne_zero _)
    have found := exec_invocation.mpr ⟨_, _, isProgram, positive, isLine, rfl⟩
    rw [lineMove_of_invocation visible found]
    exact invocationMove_eq.mpr ⟨rfl, admitted, rfl⟩

/-! ### Lines inside a frame -/

theorem SuccessLine.found (succeeds : SuccessLine program line) :
    exec PASSIVE_PROGRAM_SUCCESS line = some [("program", program)] :=
  exec_success.mpr ⟨_, succeeds.1, succeeds.2, rfl⟩

theorem SuccessLine.not_invocation (succeeds : SuccessLine program line) :
    exec PASSIVE_PROGRAM_INVOCATION line = none := by
  refine exec_eq_none fun captures found => ?_
  obtain ⟨other, depth, isProgram, -, isLine, -⟩ := exec_invocation.mp found
  exact programLine_ne succeeds.1.noSpace isProgram.noSpace
    (by decide : (115 : Nat) ≠ 105) (succeeds.2.symm.trans isLine)

theorem LogLine.not_success (isLog : LogLine line) : exec PASSIVE_PROGRAM_SUCCESS line = none := by
  refine exec_eq_none fun captures found => ?_
  obtain ⟨program, isProgram, isLine, -⟩ := exec_success.mp found
  obtain ⟨others, split⟩ := isLog
  exact log_not_programLine isProgram (split.trans isLine)

theorem LogLine.not_invocation (isLog : LogLine line) :
    exec PASSIVE_PROGRAM_INVOCATION line = none := by
  refine exec_eq_none fun captures found => ?_
  obtain ⟨program, depth, isProgram, -, isLine, -⟩ := exec_invocation.mp found
  obtain ⟨others, split⟩ := isLog
  exact log_not_programLine isProgram (split.trans isLine)

theorem ConsumptionLine.not_success (consumes : ConsumptionLine program line) :
    exec PASSIVE_PROGRAM_SUCCESS line = none := by
  refine exec_eq_none fun captures found => ?_
  obtain ⟨other, isOther, isLine, -⟩ := exec_success.mp found
  obtain ⟨isProgram, consumed, available, -, -, -, -, same⟩ := consumes
  exact programLine_ne isProgram.noSpace isOther.noSpace (by decide : (99 : Nat) ≠ 115) (same.symm.trans isLine)

theorem ConsumptionLine.not_invocation (consumes : ConsumptionLine program line) :
    exec PASSIVE_PROGRAM_INVOCATION line = none := by
  refine exec_eq_none fun captures found => ?_
  obtain ⟨other, depth, isOther, -, isLine, -⟩ := exec_invocation.mp found
  obtain ⟨isProgram, consumed, available, -, -, -, -, same⟩ := consumes
  exact programLine_ne isProgram.noSpace isOther.noSpace (by decide : (99 : Nat) ≠ 105) (same.symm.trans isLine)

theorem insideMove_leave_iff :
    insideMove current line = some .leave ↔ SuccessLine current line := by
  unfold insideMove
  cases found : exec PASSIVE_PROGRAM_SUCCESS line with
  | some success =>
    obtain ⟨word, isProgram, isLine, rfl⟩ := exec_success.mp found
    have isGroup : group "program" [("program", word)] = some word := rfl
    dsimp only
    rw [isGroup]
    by_cases same : word = current
    · subst same
      rw [if_neg (not_not.mpr rfl)]
      exact iff_of_true rfl ⟨isProgram, isLine⟩
    · rw [if_pos (by simpa using same)]
      refine iff_of_false (by rintro ⟨⟩) ?_
      rintro ⟨isCurrent, currentLine⟩
      exact same (programLine_inj isProgram.noSpace isCurrent.noSpace (isLine.symm.trans currentLine)).1
  | none =>
    refine iff_of_false ?_ ?_
    · dsimp only [consumptionMove]
      split
      · simp
      · split
        · split <;> simp
        · simp
    · intro succeeds
      rw [succeeds.found] at found
      cases found

theorem consumptionMove_stay_iff {word consumed available : Text} :
    consumptionMove current [("program", word), ("consumed", consumed), ("available", available)] =
      some .stay ↔ word = current ∧ number consumed ≤ number available ∧
        (number available : Int) ≤ MAX_SAFE_INTEGER := by
  have isWord : group "program" [("program", word), ("consumed", consumed), ("available", available)] =
    some word := rfl
  have isConsumed : group "consumed" [("program", word), ("consumed", consumed), ("available", available)] =
    some consumed := rfl
  have isAvailable : group "available" [("program", word), ("consumed", consumed),
    ("available", available)] = some available := rfl
  unfold consumptionMove
  rw [isWord, isConsumed, isAvailable]
  simp only [Option.getD_some, isSafeNumber, ne_eq, Option.some.injEq, decide_eq_false_iff_not, ite_eq_right_iff,
    reduceCtorEq, imp_false, not_or, not_not, not_lt]
  constructor
  · rintro ⟨same, -, safe, le⟩
    exact ⟨same, le, safe⟩
  · rintro ⟨same, le, safe⟩
    exact ⟨same, by omega, safe, le⟩

theorem insideMove_stay_iff :
    insideMove current line = some .stay ↔ LogLine line ∨ ConsumptionLine current line := by
  unfold insideMove
  cases found : exec PASSIVE_PROGRAM_SUCCESS line with
  | some success =>
    refine iff_of_false ?_ ?_
    · dsimp only
      split <;> simp
    · rintro (isLog | consumes)
      · rw [isLog.not_success] at found
        cases found
      · rw [consumes.not_success] at found
        cases found
  | none =>
    dsimp only
    by_cases isLog : LogLine line
    · rw [if_pos (List.isPrefixOf_iff_prefix.mpr isLog)]
      exact iff_of_true rfl (.inl isLog)
    · rw [if_neg (fun prefixed => isLog (List.isPrefixOf_iff_prefix.mp prefixed)),
        or_iff_right isLog]
      cases spent : exec PASSIVE_PROGRAM_CONSUMPTION line with
      | none =>
        refine iff_of_false (by rintro ⟨⟩) ?_
        rintro ⟨isProgram, consumed, available, isConsumed, isAvailable, -, -, isLine⟩
        rw [exec_consumption.mpr ⟨_, _, _, isProgram, isConsumed, isAvailable, isLine, rfl⟩] at spent
        cases spent
      | some consumption =>
        obtain ⟨word, consumed, available, isProgram, isConsumed, isAvailable, isLine, rfl⟩ :=
          exec_consumption.mp spent
        dsimp only
        rw [consumptionMove_stay_iff]
        constructor
        · rintro ⟨rfl, le, safe⟩
          exact ⟨isProgram, consumed, available, isConsumed, isAvailable, le, safe, isLine⟩
        · rintro ⟨isCurrent, _, _, isConsumed', isAvailable', le, safe, isLine'⟩
          have same := exec_consumption.mpr
            ⟨_, _, _, isCurrent, isConsumed', isAvailable', isLine', rfl⟩
          rw [spent] at same
          cases same
          exact ⟨rfl, le, safe⟩

theorem lineMove_not_enter (notEnter : ∀ program, move ≠ .enter program) :
    lineMove libraries vetoPrograms stack line = some move ↔
      Visible libraries line ∧ exec PASSIVE_PROGRAM_INVOCATION line = none ∧
        ∃ current rest, stack = current :: rest ∧ insideMove current line = some move := by
  constructor
  · intro moves
    have visible := lineMove_visible moves
    cases found : exec PASSIVE_PROGRAM_INVOCATION line with
    | some invocation =>
      obtain ⟨word, depth, -, -, -, rfl⟩ := exec_invocation.mp found
      rw [lineMove_of_invocation visible found] at moves
      exact absurd (invocationMove_eq.mp moves).2.2 (notEnter _)
    | none =>
      cases stack with
      | nil =>
        rw [lineMove_outside found] at moves
        cases moves
      | cons current rest =>
        rw [lineMove_inside visible found] at moves
        exact ⟨visible, rfl, current, rest, rfl, moves⟩
  · rintro ⟨visible, found, current, rest, rfl, moves⟩
    rwa [lineMove_inside visible found]

/-- A frame is left exactly at the success of the innermost program. -/
theorem lineMove_leave_iff : lineMove libraries vetoPrograms stack line = some .leave ↔
    Visible libraries line ∧ ∃ current rest, stack = current :: rest ∧ SuccessLine current line := by
  rw [lineMove_not_enter (by rintro _ ⟨⟩)]
  simp only [insideMove_leave_iff]
  constructor
  · rintro ⟨visible, -, inside⟩
    exact ⟨visible, inside⟩
  · rintro ⟨visible, current, rest, rfl, succeeds⟩
    exact ⟨visible, succeeds.not_invocation, current, rest, rfl, succeeds⟩

theorem lineMove_stay_iff : lineMove libraries vetoPrograms stack line = some .stay ↔
    Visible libraries line ∧ ∃ current rest, stack = current :: rest ∧
      (LogLine line ∨ ConsumptionLine current line) := by
  rw [lineMove_not_enter (by rintro _ ⟨⟩)]
  simp only [insideMove_stay_iff]
  constructor
  · rintro ⟨visible, -, inside⟩
    exact ⟨visible, inside⟩
  · rintro ⟨visible, current, rest, rfl, body⟩
    have notInvocation : exec PASSIVE_PROGRAM_INVOCATION line = none :=
      body.elim LogLine.not_invocation ConsumptionLine.not_invocation
    exact ⟨visible, notInvocation, current, rest, rfl, body⟩

end Moves

/-! ## The scanner accepts the grammar -/

section Scanner

variable {vetoPrograms stack lines : List Text}

/-- The scan opens and closes its stack as the grammar nests its frames. -/
theorem frames_of_nested (nested : Nested (lineMove libraries vetoPrograms) stack lines) :
    Frames libraries vetoPrograms stack lines ∧ ∀ line ∈ lines, Visible libraries line := by
  induction nested with
  | done stack => exact ⟨.done stack, by simp⟩
  | stay stays _ ih =>
    obtain ⟨visible, current, rest, rfl, body⟩ := lineMove_stay_iff.mp stays
    refine ⟨?_, List.forall_mem_cons.mpr ⟨visible, ih.2⟩⟩
    exact body.elim (Frames.log · ih.1) (Frames.consumption · ih.1)
  | frame opens _ closes _ withinIh afterIh =>
    obtain ⟨openVisible, invokes, admitted⟩ := lineMove_enter_iff.mp opens
    obtain ⟨closeVisible, _, _, ⟨⟩, succeeds⟩ := lineMove_leave_iff.mp closes
    refine ⟨.frame invokes admitted withinIh.1 succeeds afterIh.1, ?_⟩
    simp only [List.forall_mem_cons, List.forall_mem_append]
    exact ⟨openVisible, withinIh.2, closeVisible, afterIh.2⟩

theorem nested_of_frames (frames : Frames libraries vetoPrograms stack lines)
    (visible : ∀ line ∈ lines, Visible libraries line) :
    Nested (lineMove libraries vetoPrograms) stack lines := by
  induction frames with
  | done stack => exact .done stack
  | log isLog _ ih =>
    obtain ⟨first, others⟩ := List.forall_mem_cons.mp visible
    exact .stay (lineMove_stay_iff.mpr ⟨first, _, _, rfl, .inl isLog⟩) (ih others)
  | consumption consumes _ ih =>
    obtain ⟨first, others⟩ := List.forall_mem_cons.mp visible
    exact .stay (lineMove_stay_iff.mpr ⟨first, _, _, rfl, .inr consumes⟩) (ih others)
  | frame opens admitted _ closes _ withinIh afterIh =>
    simp only [List.forall_mem_cons, List.forall_mem_append] at visible
    obtain ⟨openVisible, insideVisible, closeVisible, restVisible⟩ := visible
    exact .frame (lineMove_enter_iff.mpr ⟨openVisible, opens, admitted⟩) (withinIh insideVisible)
      (lineMove_leave_iff.mpr ⟨closeVisible, _, _, rfl, closes⟩) (afterIh restVisible)

/-- Once a program was pushed the loop is the stack scanner. -/
theorem scanLines_invoked : scanLines libraries vetoPrograms stack true lines =
    scan (lineMove libraries vetoPrograms) stack lines := by
  induction lines generalizing stack with
  | nil => cases stack <;> rfl
  | cons line rest ih =>
    cases moves : lineMove libraries vetoPrograms stack line with
    | none => simp [scanLines, scan, moves]
    | some move =>
      cases move with
      | enter program => rw [scanLines, moves, StackScanner.scan_enter moves]; exact ih
      | stay => rw [scanLines, moves, StackScanner.scan_stay moves]; exact ih
      | leave =>
        obtain ⟨-, current, others, rfl, -⟩ := lineMove_leave_iff.mp moves
        rw [scanLines, moves, StackScanner.scan_leave moves]
        exact ih

/-- The first line can only push. -/
theorem scanLines_start {line : Text} : scanLines libraries vetoPrograms [] false (line :: lines) =
    scan (lineMove libraries vetoPrograms) [] (line :: lines) := by
  cases moves : lineMove libraries vetoPrograms [] line with
  | none => simp [scanLines, scan, moves]
  | some move =>
    cases move with
    | enter program =>
      rw [scanLines, moves, StackScanner.scan_enter moves]
      exact scanLines_invoked
    | stay =>
      obtain ⟨-, _, _, ⟨⟩, -⟩ := lineMove_stay_iff.mp moves
    | leave =>
      obtain ⟨-, _, _, ⟨⟩, -⟩ := lineMove_leave_iff.mp moves

theorem scanLines_iff (nonempty : lines ≠ []) :
    scanLines libraries vetoPrograms [] false lines = true ↔ PassiveLogs libraries vetoPrograms lines := by
  obtain ⟨line, rest, rfl⟩ := List.exists_cons_of_ne_nil nonempty
  rw [scanLines_start, scan_iff_nested]
  constructor
  · intro nested
    obtain ⟨frames, visible⟩ := frames_of_nested nested
    exact ⟨nonempty, visible, frames⟩
  · intro passive
    exact nested_of_frames passive.frames passive.visible

end Scanner

/-! ## The limits -/

def totalBytes : List Text → Nat
  | [] => 0
  | line :: rest => byteLength line + totalBytes rest

structure WithinLimits (logs : List Text) : Prop where
  count : logs.length ≤ 256
  lines : ∀ line ∈ logs, byteLength line ≤ 16384
  total : totalBytes logs ≤ 65536

structure VetoAccepted (libraries : Libraries) (vetoProgramIds : List Text) : Prop where
  limits : WithinLimits vetoProgramIds
  count : vetoProgramIds.length ≤ 16
  programs : ∀ program ∈ vetoProgramIds, 32 ≤ program.length ∧ program.length ≤ 44 ∧
    libraries.isPublicKey program = true

/-- The loop stops at the first line or sum that is too long. -/
theorem withinBytes_iff {lines : List Text} {start : Nat} (within : start ≤ 65536) :
    withinBytes start lines = true ↔
      (∀ line ∈ lines, byteLength line ≤ 16384) ∧ start + totalBytes lines ≤ 65536 := by
  induction lines generalizing start with
  | nil => simp [withinBytes, totalBytes, within]
  | cons line rest ih =>
    have unfolded : withinBytes start (line :: rest) = true ↔
        ¬ (byteLength line > 16384 ∨ start + byteLength line > 65536) ∧
          withinBytes (start + byteLength line) rest = true := decide_eq_true_iff
    rw [unfolded, totalBytes, List.forall_mem_cons]
    constructor
    · rintro ⟨small, others⟩
      have step := (ih (by omega)).mp others
      exact ⟨⟨by omega, step.1⟩, by omega⟩
    · rintro ⟨⟨small, others⟩, total⟩
      exact ⟨by omega, (ih (by omega)).mpr ⟨others, by omega⟩⟩

theorem snapshotLogs_eq_some {logs snapshot : List Text} :
    snapshotLogs logs = some snapshot ↔ WithinLimits logs ∧ logs = snapshot := by
  have bytes : withinBytes 0 logs = true ↔
      (∀ line ∈ logs, byteLength line ≤ 16384) ∧ totalBytes logs ≤ 65536 := by
    rw [withinBytes_iff (Nat.zero_le _), Nat.zero_add]
  unfold snapshotLogs
  by_cases long : logs.length > MAX_PUMPFUN_WEBSOCKET_LOG_COUNT
  · rw [if_pos long]
    exact iff_of_false (by rintro ⟨⟩) (fun both => absurd both.1.count (not_le.mpr long))
  · rw [if_neg long]
    by_cases small : withinBytes 0 logs = true
    · rw [if_pos small, Option.some.injEq]
      have limits : WithinLimits logs := ⟨not_lt.mp long, (bytes.mp small).1, (bytes.mp small).2⟩
      exact ⟨fun same => ⟨limits, same⟩, And.right⟩
    · rw [if_neg small]
      refine iff_of_false (by rintro ⟨⟩) ?_
      rintro ⟨limits, -⟩
      exact small (bytes.mpr ⟨limits.lines, limits.total⟩)

theorem snapshotVetoPrograms_eq_some {vetoProgramIds programs : List Text} :
    snapshotVetoPrograms libraries vetoProgramIds = some programs ↔
      VetoAccepted libraries vetoProgramIds ∧ vetoProgramIds = programs := by
  simp only [snapshotVetoPrograms, Option.bind_eq_bind, Option.bind_eq_some_iff, snapshotLogs_eq_some]
  constructor
  · rintro ⟨_, ⟨limits, rfl⟩, read⟩
    split at read
    · cases read
    · next few =>
        split at read
        · next accepted =>
            cases read
            simp only [List.all_eq_true, decide_eq_true_eq] at accepted
            exact ⟨⟨limits, not_lt.mp few, accepted⟩, rfl⟩
        · cases read
  · rintro ⟨accepted, rfl⟩
    refine ⟨_, ⟨accepted.limits, rfl⟩, ?_⟩
    have few : ¬ vetoProgramIds.length > MAX_VETO_PROGRAM_COUNT := not_lt.mpr accepted.count
    rw [if_neg few, if_pos]
    simp only [List.all_eq_true, decide_eq_true_eq]
    exact accepted.programs

/-- Within their limits and with veto programs that are public keys, logs are a passive mention exactly
when they are frames. -/
theorem isPassivePumpMention_iff (libraries : Libraries) (logs vetoProgramIds : List Text) :
    isPassivePumpMentionFromLogs libraries logs vetoProgramIds = true ↔
      WithinLimits logs ∧ VetoAccepted libraries vetoProgramIds ∧
        PassiveLogs libraries vetoProgramIds logs := by
  unfold isPassivePumpMentionFromLogs
  cases read : snapshotLogs logs with
  | none =>
    refine iff_of_false (by rintro ⟨⟩) ?_
    rintro ⟨limits, -⟩
    rw [snapshotLogs_eq_some.mpr ⟨limits, rfl⟩] at read
    cases read
  | some snapshot =>
    obtain ⟨limits, rfl⟩ := snapshotLogs_eq_some.mp read
    rw [and_iff_right limits]
    cases readVeto : snapshotVetoPrograms libraries vetoProgramIds with
    | none =>
      refine iff_of_false (by rintro ⟨⟩) ?_
      rintro ⟨accepted, -⟩
      rw [snapshotVetoPrograms_eq_some.mpr ⟨accepted, rfl⟩] at readVeto
      cases readVeto
    | some programs =>
      obtain ⟨accepted, rfl⟩ := snapshotVetoPrograms_eq_some.mp readVeto
      rw [and_iff_right accepted]
      by_cases empty : logs = []
      · subst empty
        exact iff_of_false (by rintro ⟨⟩) (fun passive => passive.nonempty rfl)
      · dsimp only
        rw [if_neg (fun noLine => empty (List.length_eq_zero_iff.mp noLine))]
        exact scanLines_iff empty

/-! ## Frames that are no passive mention -/

/-- A key is the base58 text of 32 bytes, and a tab is a control character. -/
def sampleLibraries : Libraries where
  isPublicKey := fun value => value.all isBase58 ∧ (Base58.decode (value.map Char.ofNat)).length = 32
  isControl := (· = 9)

def sampleProgram : Text := ascii "ComputeBudget111111111111111111111111111111"

def sampleOpening : Text := ascii "Program " ++ sampleProgram ++ ascii " invoke [1]"

def sampleClosing : Text := ascii "Program " ++ sampleProgram ++ ascii " success"

theorem sampleProgram_isProgramId : IsProgramId sampleProgram :=
  ⟨List.all_eq_true.mp (by decide +kernel), by decide +kernel, by decide +kernel⟩

theorem sampleOpening_invokes : InvokeLine sampleProgram 1 sampleOpening :=
  ⟨sampleProgram_isProgramId, by decide +kernel⟩

theorem sampleClosing_succeeds : SuccessLine sampleProgram sampleClosing :=
  ⟨sampleProgram_isProgramId, by decide +kernel⟩

theorem sampleProgram_admitted : Admitted sampleLibraries [] sampleProgram :=
  ⟨by decide +kernel, by decide +kernel, by decide +kernel⟩

theorem tabbedLog_isLog : LogLine (ascii "Program log: a\tb") :=
  List.isPrefixOf_iff_prefix.mp (by decide +kernel)

/-- A tab in a log line: the frames are well-bracketed, the logs are no passive mention. -/
theorem tabbedLog_not_passive :
    Frames sampleLibraries [] [] [sampleOpening, ascii "Program log: a\tb", sampleClosing] ∧
      isPassivePumpMentionFromLogs sampleLibraries
        [sampleOpening, ascii "Program log: a b", sampleClosing] [] = true ∧
      isPassivePumpMentionFromLogs sampleLibraries
        [sampleOpening, ascii "Program log: a\tb", sampleClosing] [] = false := by
  have inside : Frames sampleLibraries [] [sampleProgram] [ascii "Program log: a\tb"] :=
    .log tabbedLog_isLog (.done _)
  have framed : Frames sampleLibraries [] [] (sampleOpening :: ([ascii "Program log: a\tb"] ++ [sampleClosing])) :=
    .frame sampleOpening_invokes sampleProgram_admitted inside sampleClosing_succeeds (.done [])
  rw [List.singleton_append] at framed
  exact ⟨framed, by decide +kernel, by decide +kernel⟩

/-- A lone surrogate in a log line is no control character. -/
example : isPassivePumpMentionFromLogs sampleLibraries
    [sampleOpening, ascii "Program log: " ++ [0xD800], sampleClosing] [] = true := by
  decide +kernel

end SolTokenListener.Guarantees.PassiveMention
