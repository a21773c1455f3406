import SolTokenListener.Lib.JsonText

/-!
# The grammar of JSON texts

The productions of RFC 8259 as relations between a text and what follows the spelled part, over UTF-16
units. A derivation also gives the shape of the value: its nesting depth, how many values it holds and
whether the keys of each object differ after their escapes are decoded.
-/

namespace SolTokenListener.Lib.JsonGrammar

open Lib.JsonText (Text hexUnit isDigit simpleEscape)

/-! ## Runs of units -/

/-- Any number of units that satisfy the test. -/
inductive Run (test : Nat → Bool) : Text → Text → Prop
  | done (rest : Text) : Run test rest rest
  | unit {first : Nat} {text rest : Text} : test first = true → Run test text rest → Run test (first :: text) rest

/-- The next unit, if there is one, does not satisfy the test. -/
def Stops (test : Nat → Bool) (text : Text) : Prop := ∀ first ∈ text.head?, test first = false

theorem run_dropWhile (test : Nat → Bool) (text : Text) : Run test text (text.dropWhile test) := by
  induction text with
  | nil => exact .done []
  | cons first rest ih =>
    rw [List.dropWhile_cons]
    split
    · next passes => exact .unit passes ih
    · exact .done _

theorem Run.eq_dropWhile {test : Nat → Bool} {text rest : Text} (run : Run test text rest)
    (stops : Stops test rest) : text.dropWhile test = rest := by
  induction run with
  | done rest =>
    cases rest with
    | nil => rfl
    | cons first rest => exact List.dropWhile_cons_of_neg (Bool.eq_false_iff.mp (stops first rfl))
  | unit passes _ ih => rw [List.dropWhile_cons_of_pos passes, ih stops]

theorem Run.length_le {test : Nat → Bool} {text rest : Text} (run : Run test text rest) :
    rest.length ≤ text.length := by
  induction run with
  | done => exact Nat.le_refl _
  | unit _ _ ih => exact Nat.le_succ_of_le ih

/-! ## Scalars -/

def isBlank (unit : Nat) : Bool := unit = 32 ∨ unit = 9 ∨ unit = 10 ∨ unit = 13

abbrev Blanks := Run isBlank

/-- One digit or more. -/
def Digits (text rest : Text) : Prop :=
  ∃ first tail, text = first :: tail ∧ isDigit first = true ∧ Run isDigit tail rest

def Integer (text rest : Text) : Prop :=
  text = 48 :: rest ∨ ∃ first tail, text = first :: tail ∧ 49 ≤ first ∧ first ≤ 57 ∧ Run isDigit tail rest

def Fraction (text rest : Text) : Prop := ∃ digits, text = 46 :: digits ∧ Digits digits rest

def Exponent (text rest : Text) : Prop :=
  ∃ sign digits, (text = 101 :: sign ∨ text = 69 :: sign) ∧
    (sign = 43 :: digits ∨ sign = 45 :: digits ∨ sign = digits) ∧ Digits digits rest

def Number (text rest : Text) : Prop :=
  ∃ integer fraction exponent, (text = 45 :: integer ∨ text = integer) ∧ Integer integer fraction ∧
    (Fraction fraction exponent ∨ fraction = exponent) ∧ (Exponent exponent rest ∨ exponent = rest)

/-- The rest of a string behind its opening quote, with the text it stands for. -/
inductive Chars : Text → Text → Text → Prop
  | close (rest : Text) : Chars [] (34 :: rest) rest
  | unescaped {unit : Nat} {content text rest : Text} : 32 ≤ unit → unit ≠ 34 → unit ≠ 92 →
      Chars content text rest → Chars (unit :: content) (unit :: text) rest
  | escaped {letter unit : Nat} {content text rest : Text} : simpleEscape letter = some unit →
      Chars content text rest → Chars (unit :: content) (92 :: letter :: text) rest
  | unicode {a b c d unit : Nat} {content text rest : Text} : hexUnit a b c d = some unit →
      Chars content text rest → Chars (unit :: content) (92 :: 117 :: a :: b :: c :: d :: text) rest

theorem Digits.length_lt {text rest : Text} (digits : Digits text rest) : rest.length < text.length := by
  obtain ⟨first, tail, rfl, -, run⟩ := digits
  exact Nat.lt_succ_of_le run.length_le

theorem Integer.length_lt {text rest : Text} (integer : Integer text rest) : rest.length < text.length := by
  rcases integer with rfl | ⟨first, tail, rfl, -, -, run⟩
  · exact Nat.lt_succ_self _
  · exact Nat.lt_succ_of_le run.length_le

theorem Number.length_lt {text rest : Text} (number : Number text rest) : rest.length < text.length := by
  obtain ⟨integer, fraction, exponent, signed, isInteger, isFraction, isExponent⟩ := number
  have afterSign : integer.length ≤ text.length := by
    rcases signed with rfl | rfl
    · exact Nat.le_succ _
    · exact Nat.le_refl _
  have afterFraction : exponent.length ≤ fraction.length := by
    rcases isFraction with ⟨digits, rfl, isDigits⟩ | rfl
    · exact Nat.le_succ_of_le (Nat.le_of_lt isDigits.length_lt)
    · exact Nat.le_refl _
  have afterExponent : rest.length ≤ exponent.length := by
    rcases isExponent with ⟨sign, digits, letter, signed, isDigits⟩ | rfl
    · have := isDigits.length_lt
      rcases letter with rfl | rfl <;> rcases signed with rfl | rfl | rfl <;> simp only [List.length_cons] <;> omega
    · exact Nat.le_refl _
  have := isInteger.length_lt
  omega

theorem Chars.length_lt {content text rest : Text} (chars : Chars content text rest) :
    rest.length < text.length := by
  induction chars with
  | close => exact Nat.lt_succ_self _
  | _ =>
    simp only [List.length_cons]
    omega

/-! ## Values -/

structure Shape where
  depth : Nat
  count : Nat
  distinct : Bool

namespace Shape

def scalar : Shape := ⟨0, 1, true⟩

/-- Values beside each other. -/
def beside (left right : Shape) : Shape :=
  ⟨max left.depth right.depth, left.count + right.count, left.distinct && right.distinct⟩

/-- Values inside an array, or inside an object with these keys. -/
def nest (inner : Shape) (keys : List Text) : Shape :=
  ⟨inner.depth + 1, inner.count + 1, inner.distinct && decide keys.Nodup⟩

def empty : Shape := ⟨0, 0, true⟩

end Shape

mutual

inductive Value : Shape → Text → Text → Prop
  | true (rest : Text) : Value .scalar (116 :: 114 :: 117 :: 101 :: rest) rest
  | false (rest : Text) : Value .scalar (102 :: 97 :: 108 :: 115 :: 101 :: rest) rest
  | null (rest : Text) : Value .scalar (110 :: 117 :: 108 :: 108 :: rest) rest
  | number {text rest : Text} : Number text rest → Value .scalar text rest
  | string {content text rest : Text} : Chars content text rest → Value .scalar (34 :: text) rest
  | emptyArray {text rest : Text} : Blanks text (93 :: rest) → Value (Shape.empty.nest []) (91 :: text) rest
  | array {shape : Shape} {text rest : Text} : Elements shape text rest → Value (shape.nest []) (91 :: text) rest
  | emptyObject {text rest : Text} : Blanks text (125 :: rest) → Value (Shape.empty.nest []) (123 :: text) rest
  | object {keys : List Text} {shape : Shape} {text rest : Text} : Members keys shape text rest →
      Value (shape.nest keys) (123 :: text) rest

/-- The values of an array and its closing bracket. -/
inductive Elements : Shape → Text → Text → Prop
  | last {shape : Shape} {text value behind rest : Text} : Blanks text value → Value shape value behind →
      Blanks behind (93 :: rest) → Elements shape text rest
  | more {shape others : Shape} {text value behind next rest : Text} : Blanks text value →
      Value shape value behind → Blanks behind (44 :: next) → Elements others next rest →
      Elements (shape.beside others) text rest

/-- The members of an object and its closing bracket, with their keys. -/
inductive Members : List Text → Shape → Text → Text → Prop
  | last {key : Text} {shape : Shape} {text name colon space value behind rest : Text} :
      Blanks text (34 :: name) → Chars key name colon → Blanks colon (58 :: space) → Blanks space value →
      Value shape value behind → Blanks behind (125 :: rest) → Members [key] shape text rest
  | more {key : Text} {keys : List Text} {shape others : Shape}
      {text name colon space value behind next rest : Text} :
      Blanks text (34 :: name) → Chars key name colon → Blanks colon (58 :: space) → Blanks space value →
      Value shape value behind → Blanks behind (44 :: next) → Members keys others next rest →
      Members (key :: keys) (shape.beside others) text rest

end

/-- The whole text is one value between blanks. -/
def IsJson (shape : Shape) (text : Text) : Prop :=
  ∃ value behind, Blanks text value ∧ Value shape value behind ∧ Blanks behind []

end SolTokenListener.Lib.JsonGrammar
