import Mathlib.Tactic.Tauto
import SolTokenListener.Lib.JsonGrammar
import SolTokenListener.Source.ProfileJsonText

/-!
# The profile text check accepts the JSON texts within its limits

`Closes` writes down what a stack of frames still demands of the text: the rest of the innermost array or
object, then the rest of the next one, and blanks at the end. One turn of the loop leaves that demand as it
was (`turn_agrees`): each frame state is one place inside a production. A turn uses at least one unit of the
text, so the loop ends, and it returns exactly when the demand of its first state is met.
-/

namespace SolTokenListener.Guarantees.ProfileJsonGate

open Lib Lib.JsonGrammar
open Lib.JsonText (Text ascii hexUnit simpleEscape)
open Source.ProfileJsonText

variable {text rest tail : Text} {level count unit close : Nat} {demand next left right : Demand}
variable {frames : List JsonFrame} {seen : List Text}

/-! ## Scanners -/

@[simp] theorem expect_eq_some {unit : Nat} {text rest : Text} :
    expect unit text = some rest ↔ text = unit :: rest := by
  cases text with
  | nil => simp [expect]
  | cons first tail => by_cases same : first = unit <;> simp [expect, same]

theorem expect_eq_none : expect unit text = none ↔ ∀ rest, text ≠ unit :: rest := by
  rw [← Option.not_isSome_iff_eq_none, Option.isSome_iff_exists]
  simp

theorem isDigit_some (unit : Nat) : isDigit (some unit) = JsonText.isDigit unit := rfl

theorem skipDigits_eq (text : Text) : skipDigits text = text.dropWhile JsonText.isDigit := rfl

theorem skipJsonWhitespace_eq (text : Text) : skipJsonWhitespace text = text.dropWhile isBlank := by
  rw [skipJsonWhitespace]
  congr 1
  funext unit
  simp only [isBlank, decide_eq_decide]
  tauto

theorem JSON_SIMPLE_ESCAPES_eq (escape : Nat) : JSON_SIMPLE_ESCAPES escape = simpleEscape escape := by
  unfold JSON_SIMPLE_ESCAPES simpleEscape
  grind

/-- A unit that can go on with a number. -/
def continuesNumber (unit : Nat) : Bool := JsonText.isDigit unit || unit = 46 || unit = 101 || unit = 69

theorem stops_digit (stops : Stops continuesNumber text) : Stops JsonText.isDigit text := by
  intro first isFirst
  have none := stops first isFirst
  simp only [continuesNumber, Bool.or_eq_false_iff] at none
  exact none.1.1.1

theorem head_not_digit (stops : Stops JsonText.isDigit text) : isDigit text.head? = false := by
  cases text with
  | nil => rfl
  | cons first rest => exact stops first rfl

theorem requireDigits_sound (scanned : requireDigits text = some rest) : Digits text rest := by
  unfold requireDigits at scanned
  split at scanned
  · next digit =>
      cases text with
      | nil => cases digit
      | cons first tail =>
        rw [List.head?_cons, isDigit_some] at digit
        rw [skipDigits_eq, List.dropWhile_cons_of_pos digit] at scanned
        exact ⟨first, tail, rfl, digit, Option.some.inj scanned ▸ run_dropWhile _ tail⟩
  · cases scanned

theorem requireDigits_complete (digits : Digits text rest)
    (stops : Stops JsonText.isDigit rest) :
    requireDigits text = some rest := by
  obtain ⟨first, tail, rfl, digit, run⟩ := digits
  rw [requireDigits, List.head?_cons, isDigit_some, if_pos digit, skipDigits_eq,
    List.dropWhile_cons_of_pos digit, run.eq_dropWhile stops]

theorem scanInteger_sound (scanned : scanInteger text = some rest) : Integer text rest := by
  unfold scanInteger at scanned
  split at scanned
  · next zero found =>
      split at scanned
      · cases scanned
      · exact .inl (Option.some.inj scanned ▸ expect_eq_some.mp found)
  · split at scanned
    · next digit =>
        cases text with
        | nil => cases digit
        | cons first tail =>
          simp only [isNonZeroDigit, List.head?_cons, Option.any_some, decide_eq_true_eq] at digit
          have isDigit : JsonText.isDigit first = true := by
            simp only [JsonText.isDigit, decide_eq_true_eq]
            omega
          rw [skipDigits_eq, List.dropWhile_cons_of_pos isDigit] at scanned
          exact .inr ⟨first, tail, rfl, digit.1, digit.2, Option.some.inj scanned ▸ run_dropWhile _ tail⟩
    · cases scanned

theorem scanInteger_complete (integer : Integer text rest)
    (stops : Stops JsonText.isDigit rest) :
    scanInteger text = some rest := by
  unfold scanInteger
  rcases integer with rfl | ⟨first, tail, rfl, low, high, run⟩
  · rw [expect_eq_some.mpr rfl]
    simp [head_not_digit stops]
  · have other : expect 48 (first :: tail) = none := expect_eq_none.mpr (by grind)
    have isDigit : JsonText.isDigit first = true := by
      simp only [JsonText.isDigit, decide_eq_true_eq]
      omega
    rw [other, skipDigits_eq, List.dropWhile_cons_of_pos isDigit, run.eq_dropWhile stops]
    simp [isNonZeroDigit, low, high]

theorem scanFraction_sound (scanned : scanFraction text = some rest) :
    Fraction text rest ∨ text = rest := by
  unfold scanFraction at scanned
  split at scanned
  · next digits found => exact .inl ⟨digits, expect_eq_some.mp found, requireDigits_sound scanned⟩
  · exact .inr (Option.some.inj scanned)

theorem scanFraction_complete (fraction : Fraction text rest ∨ text = rest)
    (stops : Stops JsonText.isDigit rest) (noPoint : ∀ tail, rest ≠ 46 :: tail) :
    scanFraction text = some rest := by
  unfold scanFraction
  rcases fraction with ⟨digits, rfl, isDigits⟩ | rfl
  · rw [expect_eq_some.mpr rfl]
    exact requireDigits_complete isDigits stops
  · rw [expect_eq_none.mpr noPoint]

theorem expect_or {left right : Nat} :
    (expect left text).or (expect right text) = some rest ↔ text = left :: rest ∨ text = right :: rest := by
  rw [Option.or_eq_some_iff, expect_eq_some, expect_eq_some, expect_eq_none]
  constructor
  · rintro (first | ⟨-, second⟩)
    · exact .inl first
    · exact .inr second
  · rintro (rfl | rfl)
    · exact .inl rfl
    · by_cases same : left = right
      · exact .inl (by rw [same])
      · exact .inr ⟨by simp [Ne.symm same], rfl⟩

theorem scanExponent_sound (scanned : scanExponent text = some rest) :
    Exponent text rest ∨ text = rest := by
  unfold scanExponent at scanned
  split at scanned
  · next sign found =>
      refine .inl ⟨sign, _, expect_or.mp found, ?_, requireDigits_sound scanned⟩
      cases signed : (expect 43 sign).or (expect 45 sign) with
      | none => exact .inr (.inr rfl)
      | some digits =>
        rcases expect_or.mp signed with plus | minus
        · exact .inl plus
        · exact .inr (.inl minus)
  · exact .inr (Option.some.inj scanned)

theorem scanExponent_complete (exponent : Exponent text rest ∨ text = rest)
    (stops : Stops continuesNumber rest) : scanExponent text = some rest := by
  unfold scanExponent
  rcases exponent with ⟨sign, digits, letter, signed, isDigits⟩ | rfl
  · have after : ((expect 43 sign).or (expect 45 sign)).getD sign = digits := by
      rcases signed with plus | minus | rfl
      · rw [expect_or.mpr (.inl plus), Option.getD_some]
      · rw [expect_or.mpr (.inr minus), Option.getD_some]
      · obtain ⟨first, tail, rfl, digit, -⟩ := isDigits
        simp only [JsonText.isDigit, decide_eq_true_eq] at digit
        simp [expect, show first ≠ 43 by omega, show first ≠ 45 by omega]
    rw [expect_or.mpr letter]
    simp only [after]
    exact requireDigits_complete isDigits (stops_digit stops)
  · cases found : (expect 101 text).or (expect 69 text) with
    | none => rfl
    | some tail =>
      rcases expect_or.mp found with rfl | rfl <;> cases stops _ rfl

theorem scanJsonNumber_sound (scanned : scanJsonNumber text = some rest) : Number text rest := by
  obtain ⟨exponent, scanned, isExponent⟩ := Option.bind_eq_some_iff.mp scanned
  obtain ⟨fraction, isInteger, isFraction⟩ := Option.bind_eq_some_iff.mp scanned
  refine ⟨_, fraction, exponent, ?_, scanInteger_sound isInteger, scanFraction_sound isFraction,
    scanExponent_sound isExponent⟩
  cases signed : expect 45 text with
  | none => exact .inr rfl
  | some integer => exact .inl (expect_eq_some.mp signed)

theorem scanJsonNumber_complete (number : Number text rest) (stops : Stops continuesNumber rest) :
    scanJsonNumber text = some rest := by
  obtain ⟨integer, fraction, exponent, signed, isInteger, isFraction, isExponent⟩ := number
  have afterSign : (expect 45 text).getD text = integer := by
    rcases signed with minus | rfl
    · rw [expect_eq_some.mpr minus, Option.getD_some]
    · have positive : expect 45 text = none := by
        rcases isInteger with rfl | ⟨first, tail, rfl, low, -⟩
        · rfl
        · exact expect_eq_none.mpr (by simp; omega)
      rw [positive, Option.getD_none]
  -- What follows the fraction is an exponent or the rest, and neither goes on with digits or a point.
  have exponentStarts : Stops JsonText.isDigit exponent ∧ ∀ tail, exponent ≠ 46 :: tail := by
    rcases isExponent with ⟨sign, digits, rfl | rfl, -⟩ | rfl
    · exact ⟨by rintro _ ⟨⟩; rfl, by simp⟩
    · exact ⟨by rintro _ ⟨⟩; rfl, by simp⟩
    · exact ⟨(stops_digit stops), by rintro tail rfl; cases stops _ rfl⟩
  have fractionStarts : Stops JsonText.isDigit fraction := by
    rcases isFraction with ⟨digits, rfl, -⟩ | rfl
    · rintro _ ⟨⟩
      rfl
    · exact exponentStarts.1
  rw [scanJsonNumber, afterSign, scanInteger_complete isInteger fractionStarts, Option.bind_some,
    scanFraction_complete isFraction exponentStarts.1 exponentStarts.2, Option.bind_some,
    scanExponent_complete isExponent stops]

theorem scanJsonString_sound {content : Text}
    (scanned : scanJsonString text = some (content, rest)) :
    Chars content text rest := by
  fun_induction scanJsonString text generalizing content with
  | case1 => cases scanned
  | case2 => cases scanned; exact .close _
  | case3 => cases scanned
  | case4 unit text noQuote printable noEscape ih =>
    obtain ⟨⟨inner, _⟩, inside, made⟩ := Option.map_eq_some_iff.mp scanned
    cases made
    exact .unescaped (by omega) noQuote noEscape (ih inside)
  | case5 => cases scanned
  | case6 unit noQuote printable isEscape letter text simple known ih =>
    obtain ⟨⟨inner, _⟩, inside, made⟩ := Option.map_eq_some_iff.mp scanned
    cases made
    rw [not_not.mp isEscape]
    exact .escaped (JSON_SIMPLE_ESCAPES_eq letter ▸ known) (ih inside)
  | case7 => cases scanned
  | case8 unit noQuote printable isEscape letter known isUnicode a b c d text ih =>
    obtain ⟨unit, isUnit, scanned⟩ := Option.bind_eq_some_iff.mp scanned
    obtain ⟨⟨inner, _⟩, inside, made⟩ := Option.map_eq_some_iff.mp scanned
    cases made
    rw [not_not.mp isEscape, not_not.mp isUnicode]
    exact .unicode isUnit (ih inside)
  | case9 => cases scanned

theorem scanJsonString_complete {content : Text} (chars : Chars content text rest) :
    scanJsonString text = some (content, rest) := by
  induction chars with
  | close rest =>
    rw [scanJsonString.eq_def]
    rfl
  | unescaped printable noQuote noEscape _ ih =>
    rw [scanJsonString.eq_def]
    simp [noQuote, noEscape, Nat.not_lt.mpr printable, ih, prepend]
  | escaped isEscape _ ih =>
    rw [scanJsonString.eq_def]
    simp [JSON_SIMPLE_ESCAPES_eq, isEscape, ih, prepend]
  | unicode isUnit _ ih =>
    have noSimple : simpleEscape 117 = none := rfl
    rw [scanJsonString.eq_def]
    simp [JSON_SIMPLE_ESCAPES_eq, noSimple, isUnit, ih, prepend]

theorem scanLiteral_eq_some {literal : String} :
    scanLiteral literal text = some rest ↔ text = ascii literal ++ rest := by
  unfold scanLiteral
  split
  · next isPrefix =>
      obtain ⟨tail, rfl⟩ := List.isPrefixOf_iff_prefix.mp isPrefix
      simp
  · next notPrefix =>
      refine iff_of_false nofun ?_
      rintro rfl
      exact notPrefix (List.isPrefixOf_iff_prefix.mpr (List.prefix_append _ _))

/-! ## What the frames demand -/

/-- A demand on the text: with so many values, and then nothing else. -/
abbrev Demand := Nat → Text → Prop

def Spaced (next : Demand) : Demand := fun count text => ∃ rest, Blanks text rest ∧ next count rest

def Token (unit : Nat) (next : Demand) : Demand := fun count text => ∃ rest, text = unit :: rest ∧ next count rest

/-- The keys of every object differ, and inside so many frames the value is not too deep. -/
def Fits (level : Nat) (shape : Shape) : Prop :=
  shape.distinct = true ∧ (shape.depth = 0 ∨ shape.depth + level ≤ MAX_PROFILE_JSON_DEPTH)

def Then (item : Shape → Text → Text → Prop) (level : Nat) (next : Demand) : Demand := fun count text =>
  ∃ shape rest others, item shape text rest ∧ Fits level shape ∧ count = shape.count + others ∧ next others rest

def finished : Demand := fun count text => count = 0 ∧ text = []

/-- Keys that differ from each other and from those the object has seen. -/
def Fresh (seen keys : List Text) : Prop := keys.Nodup ∧ ∀ key ∈ keys, key ∉ seen

def FreshMembers (seen : List Text) (shape : Shape) (text rest : Text) : Prop :=
  ∃ keys, Members keys shape text rest ∧ Fresh seen keys

def arrayTail (level : Nat) (next : Demand) : Demand :=
  Spaced fun count text => Token 44 (Then Elements level next) count text ∨ Token 93 next count text

def objectTail (seen : List Text) (level : Nat) (next : Demand) : Demand :=
  Spaced fun count text => Token 44 (Then (FreshMembers seen) level next) count text ∨ Token 125 next count text

def memberValue (seen : List Text) (level : Nat) (next : Demand) : Demand :=
  Spaced (Then Value level (objectTail seen level next))

def memberColon (seen : List Text) (level : Nat) (next : Demand) : Demand :=
  Spaced (Token 58 (memberValue seen level next))

def memberKey (seen : List Text) (level : Nat) (next : Demand) : Demand := fun count text =>
  ∃ key name colon, text = 34 :: name ∧ Chars key name colon ∧ key ∉ seen ∧
    memberColon (key :: seen) level next count colon

def Closes (root : RootState) : List JsonFrame → Demand
  | [] =>
    match root with
    | .ended => Spaced finished
    | .value => Spaced (Then Value 0 (Spaced finished))
  | .array .valueOrEnd :: below => fun count text =>
    Spaced (Token 93 (Closes root below)) count text ∨
      Then Elements (below.length + 1) (Closes root below) count text
  | .array .value :: below => Then Elements (below.length + 1) (Closes root below)
  | .array .commaOrEnd :: below => arrayTail (below.length + 1) (Closes root below)
  | .object .keyOrEnd seen :: below => fun count text =>
    Spaced (Token 125 (Closes root below)) count text ∨
      Then (FreshMembers seen) (below.length + 1) (Closes root below) count text
  | .object .key seen :: below => Then (FreshMembers seen) (below.length + 1) (Closes root below)
  | .object .colon seen :: below => memberColon seen (below.length + 1) (Closes root below)
  | .object .value seen :: below => memberValue seen (below.length + 1) (Closes root below)
  | .object .commaOrEnd seen :: below => objectTail seen (below.length + 1) (Closes root below)

/-- The text meets the demand, and its values stay within the limit. -/
def Met (nodes : Nat) (demand : Demand) (text : Text) : Prop :=
  ∃ count, (count = 0 ∨ nodes + count ≤ MAX_PROFILE_JSON_NODES) ∧ demand count text

def Completes (scan : Scan) : Prop := Met scan.nodes (Closes scan.rootState scan.frames) scan.rest

/-! ## Productions -/

theorem fits_scalar (level : Nat) : Fits level .scalar := ⟨rfl, .inl rfl⟩

theorem fits_beside {left right : Shape} :
    Fits level (left.beside right) ↔ Fits level left ∧ Fits level right := by
  have deepest : (max left.depth right.depth = 0 ∨ max left.depth right.depth + level ≤ MAX_PROFILE_JSON_DEPTH) ↔
      (left.depth = 0 ∨ left.depth + level ≤ MAX_PROFILE_JSON_DEPTH) ∧
        (right.depth = 0 ∨ right.depth + level ≤ MAX_PROFILE_JSON_DEPTH) := by omega
  simp only [Fits, Shape.beside, Bool.and_eq_true, deepest]
  tauto

theorem fits_nest {inner : Shape} {keys : List Text} :
    Fits level (inner.nest keys) ↔ level < MAX_PROFILE_JSON_DEPTH ∧ keys.Nodup ∧ Fits (level + 1) inner := by
  have deeper : (inner.depth + 1 = 0 ∨ inner.depth + 1 + level ≤ MAX_PROFILE_JSON_DEPTH) ↔
      level < MAX_PROFILE_JSON_DEPTH ∧
        (inner.depth = 0 ∨ inner.depth + (level + 1) ≤ MAX_PROFILE_JSON_DEPTH) := by omega
  simp only [Fits, Shape.nest, Bool.and_eq_true, decide_eq_true_eq, deeper]
  tauto

theorem fresh_cons {keys : List Text} {key : Text} :
    Fresh seen (key :: keys) ↔ key ∉ seen ∧ Fresh (key :: seen) keys := by
  simp only [Fresh, List.nodup_cons, List.mem_cons]
  grind

/-- The values of an array: one, and then the rest of the array. -/
theorem elements_iff :
    Then Elements level next count text ↔ Spaced (Then Value level (arrayTail level next)) count text := by
  constructor
  · rintro ⟨_, rest, others, elements, fits, rfl, after⟩
    cases elements with
    | last before value behind =>
      exact ⟨_, before, _, _, others, value, fits, rfl, _, behind, .inr ⟨rest, rfl, after⟩⟩
    | more before value behind elements =>
      obtain ⟨fitsFirst, fitsOthers⟩ := fits_beside.mp fits
      exact ⟨_, before, _, _, _, value, fitsFirst, Nat.add_assoc .., _, behind,
        .inl ⟨_, rfl, _, rest, others, elements, fitsOthers, rfl, after⟩⟩
  · rintro ⟨_, before, shape, _, _, value, fits, rfl, _, behind, ⟨_, rfl, more⟩ | ⟨rest, rfl, after⟩⟩
    · obtain ⟨_, rest, others, elements, fitsOthers, rfl, after⟩ := more
      exact ⟨_, rest, others, .more before value behind elements, fits_beside.mpr ⟨fits, fitsOthers⟩,
        (Nat.add_assoc ..).symm, after⟩
    · exact ⟨shape, rest, _, .last before value behind, fits, rfl, after⟩

/-- The members of an object: a key it has not seen, its value, and then the rest of the object. -/
theorem members_iff :
    Then (FreshMembers seen) level next count text ↔ Spaced (memberKey seen level next) count text := by
  constructor
  · rintro ⟨_, rest, others, ⟨keys, members, fresh⟩, fits, rfl, after⟩
    cases members with
    | last before chars colon space value behind =>
      obtain ⟨isFresh, -⟩ := fresh_cons.mp fresh
      exact ⟨_, before, _, _, _, rfl, chars, isFresh, _, colon, _, rfl, _, space, _, _, others, value, fits, rfl,
        _, behind, .inr ⟨rest, rfl, after⟩⟩
    | more before chars colon space value behind members =>
      obtain ⟨isFresh, freshOthers⟩ := fresh_cons.mp fresh
      obtain ⟨fitsFirst, fitsOthers⟩ := fits_beside.mp fits
      exact ⟨_, before, _, _, _, rfl, chars, isFresh, _, colon, _, rfl, _, space, _, _, _, value, fitsFirst,
        Nat.add_assoc .., _, behind,
        .inl ⟨_, rfl, _, rest, others, ⟨_, members, freshOthers⟩, fitsOthers, rfl, after⟩⟩
  · rintro ⟨_, before, key, _, _, rfl, chars, isFresh, _, colon, _, rfl, _, space, shape, _, _, value, fits, rfl,
      _, behind, ⟨_, rfl, more⟩ | ⟨rest, rfl, after⟩⟩
    · obtain ⟨_, rest, others, ⟨keys, members, freshOthers⟩, fitsOthers, rfl, after⟩ := more
      exact ⟨_, rest, others, ⟨_, .more before chars colon space value behind members,
        fresh_cons.mpr ⟨isFresh, freshOthers⟩⟩, fits_beside.mpr ⟨fits, fitsOthers⟩, (Nat.add_assoc ..).symm, after⟩
    · exact ⟨shape, rest, _, ⟨[key], .last before chars colon space value behind,
        fresh_cons.mpr ⟨isFresh, List.nodup_nil, nofun⟩⟩, fits, rfl, after⟩

/-! ## White space -/

/-- A demand that does not begin with a blank. -/
def Solid (demand : Demand) : Prop := ∀ count text, demand count text → Stops isBlank text

theorem spaced_iff (solid : Solid demand) :
    Spaced demand count text ↔ demand count (text.dropWhile isBlank) := by
  constructor
  · rintro ⟨rest, blanks, met⟩
    rwa [blanks.eq_dropWhile (solid count rest met)]
  · exact fun met => ⟨_, run_dropWhile isBlank text, met⟩

theorem solid_token (solid : isBlank unit = false) (next : Demand) : Solid (Token unit next) := by
  rintro count _ ⟨rest, rfl, -⟩ _ ⟨⟩
  exact solid

theorem solid_or (solidLeft : Solid left) (solidRight : Solid right) :
    Solid fun count text => left count text ∨ right count text := by
  rintro count text (met | met)
  · exact solidLeft count text met
  · exact solidRight count text met

theorem solid_finished : Solid finished := by
  rintro count _ ⟨-, rfl⟩
  exact nofun

/-- Units that begin a number, and units that begin a value. -/
def startsNumber (unit : Nat) : Bool := unit = 45 || JsonText.isDigit unit

def startsValue (unit : Nat) : Bool :=
  unit = 34 || unit = 91 || unit = 102 || unit = 110 || unit = 116 || unit = 123 || startsNumber unit

theorem number_start (number : Number text rest) :
    ∃ first tail, text = first :: tail ∧ startsNumber first = true := by
  obtain ⟨integer, _, _, rfl | rfl, isInteger, -⟩ := number
  · exact ⟨45, integer, rfl, rfl⟩
  · rcases isInteger with rfl | ⟨first, tail, rfl, low, high, -⟩
    · exact ⟨48, _, rfl, rfl⟩
    · refine ⟨first, tail, rfl, ?_⟩
      simp only [startsNumber, JsonText.isDigit, Bool.or_eq_true, decide_eq_true_eq]
      omega

theorem number_head {first : Nat} (number : Number (first :: tail) rest) :
    startsNumber first = true := by
  obtain ⟨_, _, same, starts⟩ := number_start number
  cases same
  exact starts

theorem value_start {shape : Shape} (value : Value shape text rest) :
    ∃ first tail, text = first :: tail ∧ startsValue first = true := by
  cases value with
  | number number =>
    obtain ⟨first, tail, rfl, starts⟩ := number_start number
    exact ⟨first, tail, rfl, by simp [startsValue, starts]⟩
  | _ => exact ⟨_, _, rfl, rfl⟩

theorem solid_value (level : Nat) (next : Demand) : Solid (Then Value level next) := by
  rintro count text ⟨shape, rest, others, value, -⟩ first isFirst
  obtain ⟨start, tail, rfl, starts⟩ := value_start value
  cases isFirst
  simp only [startsValue, startsNumber, isBlank, JsonText.isDigit, Bool.or_eq_true, decide_eq_true_eq,
    decide_eq_false_iff_not] at starts ⊢
  omega

/-! ## Values -/

/-- What is due behind a value does not go on with a number. -/
def EndsNumber (next : Demand) : Prop := ∀ count text, next count text → Stops continuesNumber text

theorem endsNumber_spaced (ends : EndsNumber demand) : EndsNumber (Spaced demand) := by
  rintro count text ⟨rest, blanks, met⟩
  cases blanks with
  | done => exact ends count text met
  | unit blank _ =>
    rintro _ ⟨⟩
    simp only [isBlank, decide_eq_true_eq] at blank
    rcases blank with rfl | rfl | rfl | rfl <;> rfl

theorem endsNumber_separator (isClose : continuesNumber close = false) (comma next : Demand) :
    EndsNumber fun count text => Token 44 comma count text ∨ Token close next count text := by
  rintro count _ (⟨rest, rfl, -⟩ | ⟨rest, rfl, -⟩) _ ⟨⟩
  · rfl
  · exact isClose

theorem endsNumber_finished : EndsNumber finished := by
  rintro count _ ⟨-, rfl⟩
  exact nofun

/-- How a turn ends, against what the scan needs and how much text it had. -/
def Agrees (needed : Prop) (length : Nat) : Turn → Prop
  | .returned => needed
  | .thrown => ¬ needed
  | .continued scan => (Completes scan ↔ needed) ∧ scan.rest.length < length

theorem one_le_count {shape : Shape} (value : Value shape text rest) : 1 ≤ shape.count := by
  cases value with
  | array | object | emptyArray | emptyObject => exact Nat.succ_le_succ (Nat.zero_le _)
  | _ => exact Nat.le_refl _

/-- The turn leads on exactly if a value and then what the frames demand stand at the text. -/
def Consumes (scan : Scan) : Turn → Prop :=
  Agrees (Met scan.nodes (Then Value scan.frames.length (Closes scan.rootState scan.frames)) scan.rest)
    scan.rest.length

variable {scan : Scan} {root : RootState}

section Consume

variable (room : scan.nodes + 1 ≤ MAX_PROFILE_JSON_NODES)
variable (ends : EndsNumber (Closes scan.rootState scan.frames))

include room ends in
/-- A scalar at the text, scanned to what is behind it. -/
theorem resume_agrees {scanned : Option Text}
    (sound : ∀ rest, scanned = some rest → Value .scalar scan.rest rest ∧ rest.length < scan.rest.length)
    (complete : ∀ shape rest, Value shape scan.rest rest → Stops continuesNumber rest →
      shape = .scalar ∧ scanned = some rest) :
    Consumes scan (Scan.resume { scan with nodes := scan.nodes + 1 } scanned) := by
  cases found : scanned with
  | none =>
    rintro ⟨count, -, shape, rest, others, value, -, -, after⟩
    have := (complete shape rest value (ends others rest after)).2
    rw [found] at this
    cases this
  | some rest =>
    obtain ⟨value, shorter⟩ := sound rest found
    refine ⟨⟨?_, ?_⟩, shorter⟩
    · rintro ⟨count, enough, after⟩
      refine ⟨1 + count, .inr ?_, .scalar, rest, count, value, fits_scalar _, rfl, after⟩
      dsimp only at enough
      omega
    · rintro ⟨_, enough, shape, rest', others, value', -, rfl, after⟩
      obtain ⟨rfl, same⟩ := complete shape rest' value' (ends others rest' after)
      obtain rfl := Option.some.inj (found.symm.trans same)
      refine ⟨others, ?_, after⟩
      dsimp only [Shape.scalar] at enough ⊢
      omega

theorem fits_empty : Fits level (Shape.empty.nest []) ↔ level < MAX_PROFILE_JSON_DEPTH := by
  rw [fits_nest]
  exact and_iff_left ⟨List.nodup_nil, rfl, .inl rfl⟩

theorem openArray_iff (count : Nat) (text : Text) :
    Then Value frames.length (Closes root frames) count (91 :: text) ↔
      frames.length < MAX_PROFILE_JSON_DEPTH ∧ ∃ others, count = others + 1 ∧
        Closes root (.array .valueOrEnd :: frames) others text := by
  constructor
  · rintro ⟨_, rest, others, value, fits, rfl, after⟩
    cases value with
    | number number => cases number_head number
    | emptyArray blanks =>
      exact ⟨fits_empty.mp fits, others, by simp [Shape.nest, Shape.empty, Nat.add_comm],
        .inl ⟨_, blanks, rest, rfl, after⟩⟩
    | array elements =>
      obtain ⟨shallow, -, fits⟩ := fits_nest.mp fits
      exact ⟨shallow, _, Nat.add_right_comm .., .inr ⟨_, rest, others, elements, fits, rfl, after⟩⟩
  · rintro ⟨shallow, others, rfl, ⟨_, blanks, rest, rfl, after⟩ | ⟨shape, rest, behind, elements, fits, rfl, after⟩⟩
    · exact ⟨_, rest, others, .emptyArray blanks, fits_empty.mpr shallow,
        by simp [Shape.nest, Shape.empty, Nat.add_comm], after⟩
    · exact ⟨_, rest, behind, .array elements, fits_nest.mpr ⟨shallow, List.nodup_nil, fits⟩,
        Nat.add_right_comm .., after⟩

theorem openObject_iff (count : Nat) (text : Text) :
    Then Value frames.length (Closes root frames) count (123 :: text) ↔
      frames.length < MAX_PROFILE_JSON_DEPTH ∧ ∃ others, count = others + 1 ∧
        Closes root (.object .keyOrEnd [] :: frames) others text := by
  constructor
  · rintro ⟨_, rest, others, value, fits, rfl, after⟩
    cases value with
    | number number => cases number_head number
    | emptyObject blanks =>
      exact ⟨fits_empty.mp fits, others, by simp [Shape.nest, Shape.empty, Nat.add_comm],
        .inl ⟨_, blanks, rest, rfl, after⟩⟩
    | object members =>
      obtain ⟨shallow, distinct, fits⟩ := fits_nest.mp fits
      exact ⟨shallow, _, Nat.add_right_comm ..,
        .inr ⟨_, rest, others, ⟨_, members, distinct, fun _ _ => List.not_mem_nil⟩, fits, rfl, after⟩⟩
  · rintro ⟨shallow, others, rfl, ⟨_, blanks, rest, rfl, after⟩ |
      ⟨shape, rest, behind, ⟨keys, members, distinct, -⟩, fits, rfl, after⟩⟩
    · exact ⟨_, rest, others, .emptyObject blanks, fits_empty.mpr shallow,
        by simp [Shape.nest, Shape.empty, Nat.add_comm], after⟩
    · exact ⟨_, rest, behind, .object members, fits_nest.mpr ⟨shallow, distinct, fits⟩,
        Nat.add_right_comm .., after⟩

theorem ascii_literals : ascii "true" = [116, 114, 117, 101] ∧ ascii "false" = [102, 97, 108, 115, 101] ∧
    ascii "null" = [110, 117, 108, 108] := by decide

include room ends in
/-- A literal at the text: the only value that begins with its first letter. -/
theorem literal_agrees {literal : String} {first : Nat} {letters : Text} (spelled : ascii literal = first :: letters)
    (isLiteral : ∀ rest, Value .scalar (first :: letters ++ rest) rest)
    (only : ∀ shape tail rest, Value shape (first :: tail) rest → shape = .scalar ∧ tail = letters ++ rest)
    (starts : ∃ tail, scan.rest = first :: tail) :
    Consumes scan (Scan.resume { scan with nodes := scan.nodes + 1 } (scanLiteral literal scan.rest)) := by
  obtain ⟨tail, isRest⟩ := starts
  refine resume_agrees room ends (fun rest scanned => ?_) fun shape rest value _ => ?_
  · have text := scanLiteral_eq_some.mp scanned
    rw [spelled] at text
    refine ⟨text ▸ isLiteral rest, ?_⟩
    rw [text, List.cons_append, List.length_cons, List.length_append]
    omega
  · rw [isRest] at value
    obtain ⟨isScalar, rfl⟩ := only shape tail rest value
    exact ⟨isScalar, scanLiteral_eq_some.mpr (by rw [isRest, spelled, List.cons_append])⟩

include room ends in
theorem string_agrees (isRest : scan.rest = 34 :: tail) : Consumes scan
    (Scan.resume { scan with nodes := scan.nodes + 1 } ((scanJsonString tail).map Prod.snd)) := by
  refine resume_agrees room ends (fun rest scanned => ?_) fun shape rest value _ => ?_
  · obtain ⟨⟨content, _⟩, isString, rfl⟩ := Option.map_eq_some_iff.mp scanned
    have chars := scanJsonString_sound isString
    rw [isRest]
    exact ⟨.string chars, Nat.lt_succ_of_lt chars.length_lt⟩
  · rw [isRest] at value
    cases value with
    | number number => cases number_head number
    | string chars => exact ⟨rfl, by rw [scanJsonString_complete chars, Option.map_some]⟩

include room ends in
theorem number_agrees (other : ∀ first ∈ scan.rest.head?, first ≠ 34 ∧ first ≠ 91 ∧ first ≠ 123 ∧ first ≠ 116 ∧
      first ≠ 102 ∧ first ≠ 110) :
    Consumes scan (Scan.resume { scan with nodes := scan.nodes + 1 } (scanJsonNumber scan.rest)) := by
  refine resume_agrees room ends (fun rest scanned => ?_) fun shape rest value stops => ?_
  · have number := scanJsonNumber_sound scanned
    exact ⟨.number number, number.length_lt⟩
  · generalize scan.rest = text at other value
    cases value with
    | number number => exact ⟨rfl, scanJsonNumber_complete number stops⟩
    | _ =>
      have := other _ rfl
      omega

include room in
/-- Behind an opening bracket stands the rest of an array or object that is not too deep. -/
theorem open_agrees {bracket : Nat} {opened : JsonFrame} (isRest : scan.rest = bracket :: tail)
    (inside : ∀ count, Then Value scan.frames.length (Closes scan.rootState scan.frames) count
      (bracket :: tail) ↔ scan.frames.length < MAX_PROFILE_JSON_DEPTH ∧ ∃ others, count = others + 1 ∧
        Closes scan.rootState (opened :: scan.frames) others tail) :
    Consumes scan (if MAX_PROFILE_JSON_DEPTH ≤ scan.frames.length then .thrown
      else .continued { scan with frames := opened :: scan.frames, rest := tail, nodes := scan.nodes + 1 }) := by
  unfold Consumes Met
  simp only [isRest, inside]
  split
  · next deep =>
      rintro ⟨count, -, shallow, -⟩
      exact absurd shallow (Nat.not_lt.mpr deep)
  · next shallow =>
      refine ⟨⟨?_, ?_⟩, Nat.lt_succ_self _⟩
      · rintro ⟨others, enough, closes⟩
        dsimp only at enough
        exact ⟨others + 1, .inr (by omega), Nat.not_le.mp shallow, others, rfl, closes⟩
      · rintro ⟨_, enough, -, others, rfl, closes⟩
        exact ⟨others, by dsimp only; omega, closes⟩

include ends in
theorem consumeValue_agrees : Consumes scan (consumeValue scan) := by
  unfold consumeValue
  dsimp only
  split
  · next full =>
      rintro ⟨_, enough, shape, rest, others, value, -, rfl, -⟩
      have := one_le_count value
      omega
  next notFull =>
  have room : scan.nodes + 1 ≤ MAX_PROFILE_JSON_NODES := Nat.not_lt.mp notFull
  split
  · next quote =>
      obtain ⟨tail, isRest⟩ := List.head?_eq_some_iff.mp quote
      rw [show scan.rest.tail = tail by rw [isRest, List.tail_cons]]
      exact string_agrees room ends isRest
  split
  · next bracket =>
      rcases bracket with brace | square
      · obtain ⟨tail, isRest⟩ := List.head?_eq_some_iff.mp brace
        rw [if_pos brace, show scan.rest.tail = tail by rw [isRest, List.tail_cons]]
        exact open_agrees room isRest (openObject_iff · tail)
      · obtain ⟨tail, isRest⟩ := List.head?_eq_some_iff.mp square
        have noBrace : ¬ scan.rest.head? = some 123 := by
          rw [square]
          decide
        rw [if_neg noBrace, show scan.rest.tail = tail by rw [isRest, List.tail_cons]]
        exact open_agrees room isRest (openArray_iff · tail)
  split
  · next letter =>
      refine literal_agrees room ends ascii_literals.1 Value.true (fun shape tail rest value => ?_)
        (List.head?_eq_some_iff.mp letter)
      cases value with
      | number number => cases number_head number
      | true => exact ⟨rfl, rfl⟩
  split
  · next letter =>
      refine literal_agrees room ends ascii_literals.2.1 Value.false (fun shape tail rest value => ?_)
        (List.head?_eq_some_iff.mp letter)
      cases value with
      | number number => cases number_head number
      | false => exact ⟨rfl, rfl⟩
  split
  · next letter =>
      refine literal_agrees room ends ascii_literals.2.2 Value.null (fun shape tail rest value => ?_)
        (List.head?_eq_some_iff.mp letter)
      cases value with
      | number number => cases number_head number
      | null => exact ⟨rfl, rfl⟩
  · refine number_agrees room ends fun first isFirst => ?_
    have isFirst : scan.rest.head? = some first := isFirst
    simp only [isFirst, Option.some.injEq] at *
    omega

end Consume

/-! ## Turns -/

section Turns

variable {below : List JsonFrame}

/-- What the frames demand behind the white space. -/
def Due (root : RootState) : List JsonFrame → Demand
  | [] =>
    match root with
    | .ended => finished
    | .value => Then Value 0 (Spaced finished)
  | .array .valueOrEnd :: below => fun count text =>
    Token 93 (Closes root below) count text ∨
      Then Value (below.length + 1) (arrayTail (below.length + 1) (Closes root below)) count text
  | .array .value :: below => Then Value (below.length + 1) (arrayTail (below.length + 1) (Closes root below))
  | .array .commaOrEnd :: below => fun count text =>
    Token 44 (Closes root (.array .value :: below)) count text ∨ Token 93 (Closes root below) count text
  | .object .keyOrEnd seen :: below => fun count text =>
    Token 125 (Closes root below) count text ∨ memberKey seen (below.length + 1) (Closes root below) count text
  | .object .key seen :: below => memberKey seen (below.length + 1) (Closes root below)
  | .object .colon seen :: below => Token 58 (Closes root (.object .value seen :: below))
  | .object .value seen :: below =>
    Then Value (below.length + 1) (objectTail seen (below.length + 1) (Closes root below))
  | .object .commaOrEnd seen :: below => fun count text =>
    Token 44 (Closes root (.object .key seen :: below)) count text ∨ Token 125 (Closes root below) count text

theorem spaced_or :
    Spaced (fun count text => left count text ∨ right count text) count text ↔
      Spaced left count text ∨ Spaced right count text := by
  constructor
  · rintro ⟨rest, blanks, met | met⟩
    · exact .inl ⟨rest, blanks, met⟩
    · exact .inr ⟨rest, blanks, met⟩
  · rintro (⟨rest, blanks, met⟩ | ⟨rest, blanks, met⟩)
    · exact ⟨rest, blanks, .inl met⟩
    · exact ⟨rest, blanks, .inr met⟩

theorem closes_iff (frames : List JsonFrame) (count : Nat) (text : Text) :
    Closes root frames count text ↔ Spaced (Due root frames) count text := by
  match frames with
  | [] => cases root <;> rfl
  | .array .valueOrEnd :: below => exact (or_congr_right elements_iff).trans spaced_or.symm
  | .array .value :: below => exact elements_iff
  | .array .commaOrEnd :: below => rfl
  | .object .keyOrEnd seen :: below => exact (or_congr_right members_iff).trans spaced_or.symm
  | .object .key seen :: below => exact members_iff
  | .object .colon seen :: below | .object .value seen :: below
  | .object .commaOrEnd seen :: below => rfl

theorem solid_memberKey (seen : List Text) (level : Nat) (next : Demand) : Solid (memberKey seen level next) := by
  rintro count _ ⟨key, name, colon, rfl, -⟩ _ ⟨⟩
  rfl

theorem solid_due (frames : List JsonFrame) : Solid (Due root frames) := by
  match frames with
  | [] =>
    cases root with
    | ended => exact solid_finished
    | value => exact solid_value _ _
  | .array .valueOrEnd :: below => exact solid_or (solid_token rfl _) (solid_value _ _)
  | .array .value :: below => exact solid_value _ _
  | .array .commaOrEnd :: below => exact solid_or (solid_token rfl _) (solid_token rfl _)
  | .object .keyOrEnd seen :: below => exact solid_or (solid_token rfl _) (solid_memberKey _ _ _)
  | .object .key seen :: below => exact solid_memberKey _ _ _
  | .object .colon seen :: below => exact solid_token rfl _
  | .object .value seen :: below => exact solid_value _ _
  | .object .commaOrEnd seen :: below => exact solid_or (solid_token rfl _) (solid_token rfl _)

theorem endsNumber_arrayTail (level : Nat) (next : Demand) : EndsNumber (arrayTail level next) :=
  endsNumber_spaced (endsNumber_separator rfl _ _)

theorem endsNumber_objectTail (seen : List Text) (level : Nat) (next : Demand) :
    EndsNumber (objectTail seen level next) :=
  endsNumber_spaced (endsNumber_separator rfl _ _)

theorem met_congr {nodes : Nat} {text' : Text}
    (same : ∀ count, left count text ↔ right count text') :
    Met nodes left text ↔ Met nodes right text' :=
  exists_congr fun count => and_congr_right fun _ => same count

theorem token_agrees (isRest : scan.rest = unit :: rest)
    (only : ∀ count, demand count scan.rest ↔ Token unit (Closes scan.rootState frames) count scan.rest) :
    Agrees (Met scan.nodes demand scan.rest) scan.rest.length (.continued { scan with frames, rest }) := by
  refine ⟨(met_congr fun count => ?_).symm, ?_⟩
  · rw [only count, isRest]
    refine ⟨?_, fun met => ⟨rest, rfl, met⟩⟩
    rintro ⟨_, ⟨⟩, met⟩
    exact met
  · rw [isRest]
    exact Nat.lt_succ_self _

/-- Only this token leads on. -/
theorem resume_token
    (only : ∀ count, demand count scan.rest ↔ Token unit (Closes scan.rootState frames) count scan.rest) :
    Agrees (Met scan.nodes demand scan.rest) scan.rest.length
      (Scan.resume { scan with frames } (expect unit scan.rest)) := by
  cases found : expect unit scan.rest with
  | none =>
    rintro ⟨count, -, met⟩
    obtain ⟨rest, isRest, -⟩ := (only count).mp met
    exact expect_eq_none.mp found rest isRest
  | some rest => exact token_agrees (expect_eq_some.mp found) only

theorem not_token (none : expect unit text = none) :
    ¬ Token unit next count text := by
  rintro ⟨rest, isRest, -⟩
  exact expect_eq_none.mp none rest isRest

theorem separator_turn {next : JsonFrame} (notComma : close ≠ 44) :
    Agrees (Met scan.nodes (fun count text => Token 44 (Closes scan.rootState (next :: below)) count text ∨
        Token close (Closes scan.rootState below) count text) scan.rest)
      scan.rest.length (consumeSeparator scan close next below) := by
  unfold consumeSeparator
  split
  · next rest found =>
      have isRest := expect_eq_some.mp found
      refine token_agrees isRest fun count => or_iff_left ?_
      rintro ⟨_, isRest', -⟩
      rw [isRest] at isRest'
      exact notComma (List.cons.inj isRest').1.symm
  · next none => exact resume_token fun count => or_iff_right (not_token none)

theorem key_turn :
    Agrees (Met scan.nodes (memberKey seen (below.length + 1) (Closes scan.rootState below)) scan.rest)
      scan.rest.length (consumeKey scan seen below) := by
  unfold consumeKey
  split
  · next unread =>
      rintro ⟨count, -, key, name, colon, isRest, chars, -⟩
      rw [expect_eq_some.mpr isRest, Option.bind_some, scanJsonString_complete chars] at unread
      cases unread
  · next key rest read =>
      obtain ⟨name, isRest, isString⟩ := Option.bind_eq_some_iff.mp read
      have chars := scanJsonString_sound isString
      have text := expect_eq_some.mp isRest
      have only : ∀ key' name' colon', scan.rest = 34 :: name' → Chars key' name' colon' →
          key' = key ∧ colon' = rest := by
        intro key' name' colon' text' chars'
        rw [text] at text'
        cases text'
        have both := (scanJsonString_complete chars').symm.trans isString
        cases both
        exact ⟨rfl, rfl⟩
      split
      · next known =>
          rintro ⟨count, -, key', name', colon', text', chars', fresh, -⟩
          rw [(only key' name' colon' text' chars').1] at fresh
          exact fresh known
      · next fresh =>
          refine ⟨met_congr fun count => ⟨fun met => ⟨key, name, rest, text, chars, fresh, met⟩, ?_⟩, ?_⟩
          · rintro ⟨key', name', colon', text', chars', -, met⟩
            obtain ⟨rfl, rfl⟩ := only key' name' colon' text' chars'
            exact met
          · rw [text]
            exact Nat.lt_succ_of_lt chars.length_lt

/-- A value does not begin with a closing bracket. -/
theorem not_value_of_close :
    ¬ Then Value level next count (93 :: rest) := by
  rintro ⟨shape, _, _, value, -⟩
  obtain ⟨_, _, ⟨⟩, ⟨⟩⟩ := value_start value

theorem close_turn {otherwise : Turn} (exclusive : ∀ count rest, ¬ demand count (close :: rest))
    (other : Agrees (Met scan.nodes demand scan.rest) scan.rest.length otherwise) :
    Agrees (Met scan.nodes (fun count text => Token close (Closes scan.rootState below) count text ∨
        demand count text) scan.rest) scan.rest.length
      (match expect close scan.rest with
        | some rest => .continued { scan with frames := below, rest }
        | none => otherwise) := by
  split
  · next rest found =>
      have isRest := expect_eq_some.mp found
      exact token_agrees isRest fun count => or_iff_left (isRest ▸ exclusive count rest)
  · next none =>
      rw [met_congr fun count => or_iff_right (not_token none)]
      exact other

theorem turn_agrees (scan : Scan) :
    Agrees (Met scan.nodes (Due scan.rootState scan.frames) scan.rest) scan.rest.length (turn scan) := by
  obtain ⟨frames, root, rest, nodes⟩ := scan
  unfold turn
  match frames with
  | [] =>
    cases root with
    | ended =>
      dsimp only
      split
      · next noText => exact ⟨0, .inl rfl, rfl, List.isEmpty_iff.mp noText⟩
      · next someText =>
          rintro ⟨count, -, -, isEmpty⟩
          exact someText (List.isEmpty_iff.mpr isEmpty)
    | value =>
      dsimp only
      split
      · next noText =>
          rintro ⟨count, -, shape, _, _, value, -⟩
          obtain ⟨_, _, rfl, -⟩ := value_start value
          cases noText
      · exact consumeValue_agrees (endsNumber_spaced endsNumber_finished)
  | .array .valueOrEnd :: below =>
    exact close_turn (fun _ _ => not_value_of_close) (consumeValue_agrees (endsNumber_arrayTail _ _))
  | .array .value :: below => exact consumeValue_agrees (endsNumber_arrayTail _ _)
  | .array .commaOrEnd :: below => exact separator_turn (by decide)
  | .object .keyOrEnd seen :: below =>
    refine close_turn (fun count rest => ?_) key_turn
    rintro ⟨_, _, _, ⟨⟩, -⟩
  | .object .key seen :: below => exact key_turn
  | .object .colon seen :: below => exact resume_token fun count => Iff.rfl
  | .object .value seen :: below => exact consumeValue_agrees (endsNumber_objectTail _ _ _)
  | .object .commaOrEnd seen :: below => exact separator_turn (by decide)

end Turns

/-! ## The loop -/

theorem completes_iff (scan : Scan) : Completes scan ↔
    Met scan.nodes (Due scan.rootState scan.frames) (skipJsonWhitespace scan.rest) := by
  refine met_congr fun count => ?_
  rw [closes_iff, spaced_iff (solid_due scan.frames), skipJsonWhitespace_eq]

theorem length_skip_le (text : Text) : (skipJsonWhitespace text).length ≤ text.length := by
  rw [skipJsonWhitespace_eq]
  exact (run_dropWhile isBlank text).length_le

theorem loop_exact (turns : Nat) (scan : Scan) (enough : scan.rest.length < turns) :
    ∃ accepted, loop turns scan = some accepted ∧ (accepted = true ↔ Completes scan) := by
  induction turns generalizing scan with
  | zero => cases enough
  | succ turns ih =>
    have agrees := turn_agrees { scan with rest := skipJsonWhitespace scan.rest }
    have shorter := length_skip_le scan.rest
    dsimp only at agrees
    rw [← completes_iff scan] at agrees
    rw [loop]
    cases ends : turn { scan with rest := skipJsonWhitespace scan.rest } with
    | returned =>
      rw [ends] at agrees
      exact ⟨true, rfl, iff_of_true rfl agrees⟩
    | thrown =>
      rw [ends] at agrees
      exact ⟨false, rfl, iff_of_false nofun agrees⟩
    | continued next =>
      rw [ends] at agrees
      obtain ⟨accepted, ended, exact⟩ := ih next (by have := agrees.2; omega)
      exact ⟨accepted, ended, exact.trans agrees.1⟩

/-- A JSON text with at most 64 nested arrays and objects, at most 10000 values and no key twice in an
object, after its escapes are decoded. -/
def IsProfileJson (text : Text) : Prop :=
  ∃ shape, IsJson shape text ∧ shape.depth ≤ MAX_PROFILE_JSON_DEPTH ∧ shape.count ≤ MAX_PROFILE_JSON_NODES ∧
    shape.distinct = true

theorem completes_start (text : Text) : Completes ⟨[], .value, text, 0⟩ ↔ IsProfileJson text := by
  constructor
  · rintro ⟨_, enough, value, before, shape, behind, _, isValue, ⟨distinct, shallow⟩, rfl, _, blanks, rfl, rfl⟩
    refine ⟨shape, ⟨value, behind, before, isValue, blanks⟩, ?_, ?_, distinct⟩
    · omega
    · dsimp only at enough
      omega
  · rintro ⟨shape, ⟨value, behind, before, isValue, blanks⟩, shallow, few, distinct⟩
    exact ⟨shape.count, .inr (by dsimp only; omega), value, before, shape, behind, 0, isValue, ⟨distinct, .inr shallow⟩, rfl,
      [], blanks, rfl, rfl⟩

/-- The check of every text ends, after at most one turn more than the text has units, and it returns exactly
for the JSON texts within the limits. -/
theorem validateJsonText_exact (text : Text) :
    ∃ accepted, (∀ turns, text.length < turns → validateJsonText turns text = some accepted) ∧
      (accepted = true ↔ IsProfileJson text) := by
  have ends := fun turns enough => loop_exact turns ⟨[], .value, text, 0⟩ enough
  obtain ⟨accepted, -, exact⟩ := ends (text.length + 1) (Nat.lt_succ_self _)
  rw [completes_start] at exact
  refine ⟨accepted, fun turns enough => ?_, exact⟩
  obtain ⟨outcome, ended, exact'⟩ := ends turns enough
  rw [completes_start] at exact'
  rw [validateJsonText, ended, Bool.eq_iff_iff.mpr (exact'.trans exact.symm)]

end SolTokenListener.Guarantees.ProfileJsonGate
