import PluginSandbox.Proofs.Number.Exact
import PluginSandbox.Proofs.Number.Radix
import PluginSandbox.Proofs.Script.Runs
import PluginSandbox.Script.Library.Numbers

/-!
# Texts of numbers in a base

A whole number is written in a base with its digits and, below zero, a minus sign before them. The
digits denote the absolute value as far as 64 bits hold it, and the greatest number of 64 bits
beyond. Reading the text in the same base gives the number back if doubles up to it are exact.
-/
namespace PluginSandbox.Text

theorem dropWhile_solid {chars : List Char} (solid : ∀ c ∈ chars, isBlank c = false) :
    chars.dropWhile isBlank = chars := by
  cases chars with
  | nil => rfl
  | cons c rest =>
    have first : isBlank c = false := solid c List.mem_cons_self
    rw [List.dropWhile_cons, first]
    rfl

/-- A text without blank characters is not trimmed. -/
theorem trim_eq {text : String} (solid : ∀ c ∈ text.toList, isBlank c = false) :
    trim text = text := by
  have reversed : ∀ c ∈ text.toList.reverse, isBlank c = false :=
    fun c member => solid c (List.mem_reverse.mp member)
  rw [trim, dropWhile_solid solid, dropBlankEnd, dropWhile_solid reversed, List.reverse_reverse,
    String.ofList_toList]

end PluginSandbox.Text

namespace PluginSandbox.Script.Library

open Number (StandsFor parts)

section

variable {base n : Nat} {digits : List Char}

/-- Digits are read like the numeral that they are, without rounding, while doubles are exact. -/
theorem foldl_leadingDigits {start : Nat} (least : 2 ≤ base) (most : base ≤ 36)
    (small : n ≤ 2 ^ 53) (reads : Number.numeralFrom? base start digits = some n) :
    start ≤ n ∧ (leadingDigits base digits).foldl
      (fun value digit => value * Float.ofNat base + Float.ofNat digit) (Float.ofNat start) =
        Float.ofNat n := by
  induction digits generalizing start with
  | nil =>
    cases reads
    exact ⟨Nat.le_refl n, rfl⟩
  | cons c rest ih =>
    rw [Number.numeralFrom?, Option.bind_eq_some_iff] at reads
    obtain ⟨value, digit, goesOn⟩ := reads
    obtain ⟨le, folds⟩ := ih goesOn
    obtain ⟨below, _⟩ := Text.solid_of_digitIn? digit
    have twice : start * 2 ≤ start * base := Nat.mul_le_mul_left start least
    have product : Float.ofNat start * Float.ofNat base = Float.ofNat (start * base) :=
      Number.mul_ofNat (by omega) (by omega) (by omega)
    have sum : Float.ofNat (start * base) + Float.ofNat value =
        Float.ofNat (start * base + value) := Number.add_ofNat (by omega)
    refine ⟨by omega, ?_⟩
    rw [leadingDigits, digit]
    dsimp only
    rw [List.foldl_cons, product, sum, folds]

/-- The digits of a numeral have the value of the numeral. -/
theorem ofDigitsIn_leadingDigits (least : 2 ≤ base) (most : base ≤ 36) (small : n ≤ 2 ^ 53)
    (filled : digits ≠ []) (reads : Text.numeral? base digits = some n) :
    ofDigitsIn base (leadingDigits base digits) = Float.ofNat n := by
  have goesOn := reads
  rw [Number.numeral?_eq_numeralFrom?] at goesOn
  obtain ⟨_, folds⟩ := foldl_leadingDigits least most small goesOn
  have some : (leadingDigits base digits).isEmpty = false := by
    obtain ⟨c, rest, rfl⟩ := List.exists_cons_of_ne_nil filled
    obtain ⟨value, digit⟩ := Number.digits_of_numeral? reads c List.mem_cons_self
    rw [leadingDigits, digit]
    rfl
  rw [ofDigitsIn, some]
  exact folds

/-- A numeral without superfluous zeros has no mark of a base. -/
theorem afterHexMark?_eq_none (shortest : 1 < digits.length → digits.head? ≠ some '0') :
    afterHexMark? digits = none := by
  cases digits using afterHexMark?.fun_cases with
  | case1 rest => exact absurd rfl (shortest (by simp))
  | case2 rest => exact absurd rfl (shortest (by simp))
  | case3 digits lower upper =>
    rw [afterHexMark?]
    · exact lower
    · exact upper

/-- The sign of a numeral is taken off. -/
theorem signFactor_signed {negative : Bool}
    (solid : ∀ c ∈ digits, Text.isBlank c = false ∧ c ≠ '-' ∧ c ≠ '+') :
    signFactor (Text.trim (Number.signed negative digits)).toList =
      (if negative then -1.0 else 1.0, digits) := by
  have untrimmed : Text.trim (Number.signed negative digits) = Number.signed negative digits := by
    apply Text.trim_eq
    intro c member
    rw [Number.signed, String.toList_ofList] at member
    cases negative with
    | false => exact (solid c member).1
    | true =>
      rcases List.mem_cons.mp member with rfl | rest
      · decide
      · exact (solid c rest).1
  rw [untrimmed, Number.signed, String.toList_ofList]
  cases negative with
  | true => rfl
  | false =>
    simp only [Bool.false_eq_true, if_false]
    cases digits using signFactor.fun_cases with
    | case1 rest => exact absurd rfl (solid '-' List.mem_cons_self).2.1
    | case2 rest => exact absurd rfl (solid '+' List.mem_cons_self).2.2
    | case3 digits minus plus =>
      rw [signFactor]
      · exact minus
      · exact plus

/-- A numeral with a sign is read as its value with the sign. -/
theorem parseInt_signed {negative : Bool} (least : 2 ≤ base) (most : base ≤ 36)
    (small : n ≤ 2 ^ 53) (filled : digits ≠ [])
    (shortest : 1 < digits.length → digits.head? ≠ some '0')
    (reads : Text.numeral? base digits = some n) :
    parseInt (Number.signed negative digits) (some base) =
      (if negative then -1.0 else 1.0) * Float.ofNat n := by
  have solid : ∀ c ∈ digits, Text.isBlank c = false ∧ c ≠ '-' ∧ c ≠ '+' := by
    intro c member
    obtain ⟨value, digit⟩ := Number.digits_of_numeral? reads c member
    exact (Text.solid_of_digitIn? digit).2
  have allowed : (decide (base < 2) || decide (36 < base)) = false := by
    rw [decide_eq_false (by omega), decide_eq_false (by omega)]
    rfl
  unfold parseInt
  rw [signFactor_signed solid]
  dsimp only
  rw [afterHexMark?_eq_none shortest]
  obtain ⟨rest, rfl⟩ := Nat.exists_eq_add_of_le' least
  change (if (decide (rest + 2 < 2) || decide (36 < rest + 2)) = true then Number.nan
    else (if negative then -1.0 else 1.0) *
      ofDigitsIn (rest + 2) (leadingDigits (rest + 2) digits)) = _
  rw [allowed, ofDigitsIn_leadingDigits least most small filled reads]
  rfl

/-- The integer that a sign and an absolute value make up. -/
theorem factor_mul_natAbs {n : Int} (small : n.natAbs ≤ 2 ^ 53) :
    (if decide (n < 0) then -1.0 else 1.0) * Float.ofNat n.natAbs = Number.ofInt n := by
  obtain ⟨same, negated⟩ := Number.factor_mul_ofNat small
  cases n with
  | ofNat n => exact same
  | negSucc n =>
    rw [decide_eq_true (Int.negSucc_lt_zero n)]
    exact negated (Nat.succ_pos n)

end

section

variable {x : Float} {value : Number.Finite} {base : Nat}

/-- The word of 64 bits nearest to the absolute value of a whole number. -/
theorem clampToWord_abs (finite : parts x = .finite value) (whole : value.isWhole = true) :
    Number.clampToWord 64 x.abs = min value.truncate.natAbs (2 ^ 64 - 1) := by
  have absolute : value.truncate.natAbs = value.wholePart := by
    rw [Number.Finite.truncate]
    split <;> omega
  rw [Number.clampToWord, Number.clampToInt, Number.parts_abs finite whole, absolute]
  have limit : ((1 <<< 64 - 1 : Nat) : Int) = 2 ^ 64 - 1 := by decide
  have positive : ({ value with negative := false } : Number.Finite).truncate =
      value.wholePart := rfl
  dsimp only
  rw [limit, positive]
  omega

/-- The text of a whole number in a base other than ten. -/
theorem numberText_whole (finite : parts x = .finite value) (whole : value.isWhole = true)
    (least : 2 ≤ base) (most : base ≤ 36) (other : base ≠ 10) :
    numberText x base = .ok (Number.signed (value.truncate < 0)
      (Number.digitsIn base (min value.truncate.natAbs (2 ^ 64 - 1)))) := by
  have isWhole : Number.isWhole x = true := by
    rw [Number.isWhole, finite]
    exact whole
  have plain : (decide (base = 10) || !Number.isWhole x) = false := by
    rw [decide_eq_false other, isWhole]
    rfl
  have allowed : (decide (base < 2) || decide (36 < base)) = false := by
    rw [decide_eq_false (by omega), decide_eq_false (by omega)]
    rfl
  rw [numberText, plain, allowed, clampToWord_abs finite whole,
    decide_eq_decide.mpr (Number.lt_zero_iff finite whole)]
  rfl

/-- What writing a whole number in a base other than ten yields. -/
theorem runNumber_toText {before : State} {this baseValue : Value}
    (receiver : before.heap.unwrap this = .number x) (finite : parts x = .finite value)
    (whole : value.isWhole = true) (radix : baseArgument before.heap baseValue = some base)
    (least : 2 ≤ base) (most : base ≤ 36) (other : base ≠ 10) :
    runNumber .toText this [baseValue] before =
      .done (.text (Number.signed (value.truncate < 0)
        (Number.digitsIn base (min value.truncate.natAbs (2 ^ 64 - 1))))) before := by
  have number : receiverNumber this before = .done x before := by
    apply Code.tryHeap_of_ok
    rw [receiver]
  change (receiverNumber this >>= _) before = _
  rw [Code.bind_of_done number]
  apply Code.tryHeap_of_ok
  change (Value.text <$> numberText x ((baseArgument before.heap baseValue).getD 10)) = _
  rw [radix, Option.getD_some, numberText_whole finite whole least most other]
  rfl

/-- What reading a text in a base yields. -/
theorem runNumber_parseInt (anything baseValue : Value) (text : String) (state : State) :
    runNumber .parseInt anything [.text text, baseValue] state =
      .done (.number (parseInt text (baseArgument state.heap baseValue))) state := by
  have same : state.heap.textOf (.text text) = text := by
    rw [Heap.textOf, Heap.textWithin]
  change Run.done (Value.number (parseInt (state.heap.textOf (.text text)) _)) state = _
  rw [same]
  rfl

/-- Texts of whole numbers in a base are exact as far as 64 bits hold the numbers.

The text of a whole number in a base from two to thirty-six other than ten has a minus sign for the
numbers below zero and then digits of the base without superfluous zeros. They denote the absolute
value if 64 bits hold it, and the greatest number of 64 bits otherwise. Reading the text in the same
base gives a number of the same value back if that is at most `2 ^ 53`. -/
theorem radix_exact {before : State} {this baseValue : Value}
    (receiver : before.heap.unwrap this = .number x) (finite : parts x = .finite value)
    (whole : value.isWhole = true) (radix : baseArgument before.heap baseValue = some base)
    (least : 2 ≤ base) (most : base ≤ 36) (other : base ≠ 10) :
    ∃ digits,
      runNumber .toText this [baseValue] before =
        .done (.text (Number.signed (value.truncate < 0) digits)) before ∧
      Text.numeral? base digits = some (min value.truncate.natAbs (2 ^ 64 - 1)) ∧
      digits ≠ [] ∧ (1 < digits.length → digits.head? ≠ some '0') ∧
      (value.truncate.natAbs ≤ 2 ^ 53 → ∀ anything, ∃ y,
        runNumber .parseInt anything
            [.text (Number.signed (value.truncate < 0) digits), baseValue] before =
          .done (.number y) before ∧
        StandsFor y value.truncate) := by
  obtain ⟨filled, shortest⟩ :=
    Number.digitsIn_shortest (n := min value.truncate.natAbs (2 ^ 64 - 1)) least most
  have denotes : Text.numeral? base
      (Number.digitsIn base (min value.truncate.natAbs (2 ^ 64 - 1))) =
        some (min value.truncate.natAbs (2 ^ 64 - 1)) := Number.numeral?_digitsIn least most
  have written := runNumber_toText receiver finite whole radix least most other
  refine ⟨_, written, denotes, filled, shortest, fun small anything => ?_⟩
  have below : min value.truncate.natAbs (2 ^ 64 - 1) = value.truncate.natAbs := by omega
  rw [below] at denotes filled shortest ⊢
  refine ⟨Number.ofInt value.truncate, ?_, Number.standsFor_ofInt small⟩
  rw [runNumber_parseInt, radix, parseInt_signed least most small filled shortest denotes,
    factor_mul_natAbs small]

/-- A negative number in base sixteen: `(-255).toString(16)` is `-ff`. -/
theorem radix_exact_hexadecimal :
    (({} : State).heap.unwrap (.number (-255.0)) = .number (-255.0)) ∧
    parts (-255.0) = .finite ⟨true, 255 * 2 ^ 45, -45⟩ ∧
    baseArgument ({} : State).heap (.number 16.0) = some 16 ∧
    ∃ digits,
      runNumber .toText (.number (-255.0)) [.number 16.0] {} =
        .done (.text (Number.signed true digits)) {} ∧
      Text.numeral? 16 digits = some 255 ∧
      ∃ y, runNumber .parseInt .undefined
          [.text (Number.signed true digits), .number 16.0] {} = .done (.number y) {} ∧
        StandsFor y (-255) := by
  have finite : parts (-255.0) = .finite ⟨true, 255 * 2 ^ 45, -45⟩ := by decide
  have radix : baseArgument ({} : State).heap (.number 16.0) = some 16 := by rfl
  have receiver : ({} : State).heap.unwrap (.number (-255.0)) = .number (-255.0) := rfl
  obtain ⟨digits, written, denotes, _, _, read⟩ :=
    radix_exact receiver finite (by decide) radix (by decide) (by decide) (by decide)
  exact ⟨receiver, finite, radix, digits, written, denotes, read (by decide) .undefined⟩

/-- A number that 64 bits do not hold is not written: `(18446744073709551616).toString(16)` is
`ffffffffffffffff`, which denotes one less. -/
theorem radix_of_large_integer :
    StandsFor 18446744073709551616.0 18446744073709551616 ∧
    runNumber .toText (.number 18446744073709551616.0) [.number 16.0] {} =
      .done (.text "ffffffffffffffff") {} ∧
    Text.numeral? 16 "ffffffffffffffff".toList = some 18446744073709551615 := by
  have finite : parts 18446744073709551616.0 = .finite ⟨false, 2 ^ 52, 12⟩ := by decide
  have radix : baseArgument ({} : State).heap (.number 16.0) = some 16 := by rfl
  have receiver : ({} : State).heap.unwrap (.number 18446744073709551616.0) =
      .number 18446744073709551616.0 := rfl
  have written :=
    runNumber_toText receiver finite (by decide) radix (by decide) (by decide) (by decide)
  have text : Number.signed (decide ((⟨false, 2 ^ 52, 12⟩ : Number.Finite).truncate < 0))
      (Number.digitsIn 16 (min (⟨false, 2 ^ 52, 12⟩ : Number.Finite).truncate.natAbs
        (2 ^ 64 - 1))) = "ffffffffffffffff" := by
    decide +kernel
  rw [text] at written
  exact ⟨⟨_, finite, by decide, by decide⟩, written, by decide⟩

end

end PluginSandbox.Script.Library
