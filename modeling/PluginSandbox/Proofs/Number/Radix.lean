import Mathlib.Algebra.Group.Nat.Defs
import PluginSandbox.Number.Notation
import PluginSandbox.Text.Blank

/-!
# Numerals in a base

The digits of a natural number in a base from two to thirty-six denote the number, and they start
with a zero only for the number zero.
-/
namespace PluginSandbox.Text

/-- A character with a value is a digit or a letter. -/
theorem bounds_of_digitValue? {c : Char} {value : Nat} (digit : digitValue? c = some value) :
    (48 ≤ c.toNat ∧ c.toNat ≤ 57) ∨ (97 ≤ c.toNat ∧ c.toNat ≤ 122) ∨
      (65 ≤ c.toNat ∧ c.toNat ≤ 90) := by
  unfold digitValue? at digit
  simp only [Bool.and_eq_true, decide_eq_true_eq, Char.le_def, UInt32.le_iff_toNat_le] at digit
  split at digit
  case isTrue bounds => exact .inl bounds
  case isFalse =>
    split at digit
    case isTrue bounds => exact .inr (.inl bounds)
    case isFalse =>
      split at digit
      case isTrue bounds => exact .inr (.inr bounds)
      case isFalse => cases digit

/-- A digit has a value below the base and is neither blank nor a sign. -/
theorem solid_of_digitIn? {base value : Nat} {c : Char} (digit : digitIn? base c = some value) :
    value < base ∧ isBlank c = false ∧ c ≠ '-' ∧ c ≠ '+' := by
  obtain ⟨read, below⟩ := Option.filter_eq_some_iff.mp digit
  have bounds := bounds_of_digitValue? read
  refine ⟨of_decide_eq_true below, ?_, ?_, ?_⟩
  · simp only [isBlank, Bool.or_eq_false_iff, Bool.and_eq_false_iff, decide_eq_false_iff_not,
      beq_eq_false_iff_ne]
    omega
  · rintro rfl
    exact absurd bounds (by decide)
  · rintro rfl
    exact absurd bounds (by decide)

end PluginSandbox.Text

namespace PluginSandbox.Number

open Text (digitIn? numeral?)

/-- What an additional digit does to the number that digits denote. -/
theorem numeral?_append (base : Nat) (digits : List Char) (c : Char) :
    numeral? base (digits ++ [c]) =
      (do return (← numeral? base digits) * base + (← digitIn? base c)) := by
  rw [numeral?, List.foldl_append]
  rfl

/-- The number that digits denote after those that denote the number `start`. -/
def numeralFrom? (base start : Nat) : List Char → Option Nat
  | [] => some start
  | c :: rest =>
    (digitIn? base c).bind fun value => numeralFrom? base (start * base + value) rest

/-- A numeral starts from zero. -/
theorem numeral?_eq_numeralFrom? (base : Nat) (digits : List Char) :
    numeral? base digits = numeralFrom? base 0 digits := by
  have lost (rest : List Char) : rest.foldl
      (fun value c => do return (← value) * base + (← digitIn? base c)) none = none := by
    induction rest with
    | nil => rfl
    | cons c rest ih => exact ih
  have all (start : Nat) : digits.foldl
      (fun value c => do return (← value) * base + (← digitIn? base c)) (some start) =
        numeralFrom? base start digits := by
    induction digits generalizing start with
    | nil => rfl
    | cons c rest ih =>
      rw [List.foldl_cons, numeralFrom?]
      cases digitIn? base c with
      | none => exact lost rest
      | some value => exact ih (start * base + value)
  exact all 0

/-- A numeral goes on with digits of the base. -/
theorem digits_of_numeralFrom? {base start n : Nat} {digits : List Char}
    (reads : numeralFrom? base start digits = some n) :
    ∀ c ∈ digits, ∃ value, digitIn? base c = some value := by
  induction digits generalizing start with
  | nil => exact fun c member => nomatch member
  | cons c rest ih =>
    rw [numeralFrom?, Option.bind_eq_some_iff] at reads
    obtain ⟨value, digit, goesOn⟩ := reads
    rw [List.forall_mem_cons]
    exact ⟨⟨value, digit⟩, ih goesOn⟩

/-- A numeral consists of digits of the base. -/
theorem digits_of_numeral? {base n : Nat} {digits : List Char}
    (reads : numeral? base digits = some n) :
    ∀ c ∈ digits, ∃ value, digitIn? base c = some value := by
  rw [numeral?_eq_numeralFrom?] at reads
  exact digits_of_numeralFrom? reads

section

variable {base : Nat}

/-- The digit of a value in a base has this value. -/
theorem digitIn?_digitChar {value : Nat} (below : value < base) (most : base ≤ 36) :
    digitIn? base (digitChar value) = some value := by
  have each : ∀ value < 36, Text.digitValue? (digitChar value) = some value := by decide
  rw [digitIn?, each value (by omega), Option.filter_some, decide_eq_true below]
  rfl

/-- A digit is zero only for the value zero. -/
theorem digitChar_ne_zero {value : Nat} (positive : 0 < value) (below : value < base)
    (most : base ≤ 36) : digitChar value ≠ '0' := by
  intro same
  have read := digitIn?_digitChar below most
  have zero := digitIn?_digitChar (Nat.zero_lt_of_lt below) most
  rw [same] at read
  have digit : digitChar 0 = '0' := by decide
  rw [digit, read] at zero
  cases zero
  exact absurd positive (by decide)

/-- A quotient by a base has fewer binary digits. -/
theorem div_lt_two_pow {fuel n : Nat} (least : 2 ≤ base) (enough : n < 2 ^ (fuel + 1)) :
    n / base < 2 ^ fuel := by
  have half : n / base ≤ n / 2 := Nat.div_le_div_left least (by decide)
  rw [Nat.pow_succ] at enough
  omega

/-- The digits of a number denote it if there is fuel for its binary digits. -/
theorem numeral?_reversedDigits {fuel n : Nat} (least : 2 ≤ base) (most : base ≤ 36)
    (enough : n < 2 ^ fuel) : numeral? base (reversedDigits base fuel n).reverse = some n := by
  induction fuel generalizing n with
  | zero =>
    have none : n = 0 := by omega
    subst none
    rfl
  | succ fuel ih =>
    have last : digitIn? base (digitChar (n % base)) = some (n % base) :=
      digitIn?_digitChar (Nat.mod_lt _ (by omega)) most
    have split := Nat.div_add_mod' n base
    rw [reversedDigits]
    by_cases single : n / base = 0
    · rw [if_pos single]
      rw [single] at split
      change numeral? base ([] ++ [digitChar (n % base)]) = some n
      rw [numeral?_append, last]
      exact congrArg some split
    · rw [if_neg single, List.reverse_cons, numeral?_append,
        ih (div_lt_two_pow least enough), last]
      exact congrArg some split

/-- A positive number has a first digit, and that is not zero. -/
theorem getLast?_reversedDigits {fuel n : Nat} (least : 2 ≤ base) (most : base ≤ 36)
    (enough : n < 2 ^ fuel) (positive : 0 < n) :
    ∃ first, (reversedDigits base fuel n).getLast? = some first ∧ first ≠ '0' := by
  induction fuel generalizing n with
  | zero => omega
  | succ fuel ih =>
    rw [reversedDigits]
    by_cases single : n / base = 0
    · have below : n < base := (Nat.div_eq_zero_iff_lt (by omega)).mp single
      rw [if_pos single, Nat.mod_eq_of_lt below]
      exact ⟨digitChar n, rfl, digitChar_ne_zero positive below most⟩
    · obtain ⟨first, last, nonzero⟩ :=
        ih (div_lt_two_pow least enough) (Nat.pos_of_ne_zero single)
      refine ⟨first, ?_, nonzero⟩
      rw [if_neg single, List.getLast?_cons, last]
      rfl

/-- The digits of a number denote it. -/
theorem numeral?_digitsIn {n : Nat} (least : 2 ≤ base) (most : base ≤ 36) :
    numeral? base (digitsIn base n) = some n :=
  numeral?_reversedDigits least most Nat.lt_log2_self

/-- A number has digits, and they start with a zero only if there is no other. -/
theorem digitsIn_shortest {n : Nat} (least : 2 ≤ base) (most : base ≤ 36) :
    digitsIn base n ≠ [] ∧
      (1 < (digitsIn base n).length → (digitsIn base n).head? ≠ some '0') := by
  rcases Nat.eq_zero_or_pos n with rfl | positive
  · have single : digitsIn base 0 = [digitChar (0 % base)] := by
      rw [digitsIn, Nat.log2_zero, reversedDigits, if_pos (Nat.zero_div base)]
      rfl
    rw [single]
    exact ⟨List.cons_ne_nil _ _, fun long => absurd long (Nat.lt_irrefl 1)⟩
  · have enough : n < 2 ^ (n.log2 + 1) := Nat.lt_log2_self
    obtain ⟨first, last, nonzero⟩ := getLast?_reversedDigits least most enough positive
    have head : (digitsIn base n).head? = some first := by
      rw [digitsIn, List.head?_reverse, last]
    refine ⟨fun empty => ?_, fun _ => ?_⟩
    · rw [empty] at head
      cases head
    · rw [head]
      exact fun same => nonzero (Option.some.inj same)

end

end PluginSandbox.Number
