import Mathlib
import PluginSandbox.Number.Reading

/-!
# Natural numbers as doubles

A natural number below `2 ^ 53` is a double without rounding. Its text is its decimal digits, and
reading the digits gives the double back.
-/
namespace PluginSandbox.Number

open Float.Model (Format UnpackedFloat totalExponent)
open Float.Model.UnpackedFloat (Sign pack unpack packComponents unpackMantissa unpackExponent
  unpackSign shiftToTargetExponent shiftToExponent roundWithAccuracy ExtendedMantissa)

/-- The place of the first binary digit of a number that is not zero. -/
theorem log2_eq {m k : Nat} (low : 2 ^ k ≤ m) (high : m < 2 ^ (k + 1)) : m.log2 = k := by
  have positive : m ≠ 0 := by
    have := Nat.two_pow_pos k
    omega
  have lower := (Nat.le_log2 positive).mpr low
  have upper := (Nat.log2_lt positive).mpr high
  omega

/-- A whole number of 53 binary digits is where a double with its exponent wants it. -/
theorem targetExponent_eq {m : Nat} {e : Int} (low : 2 ^ 52 ≤ m) (high : m < 2 ^ 53)
    (least : -1074 ≤ e) : Format.binary64.targetExponent (totalExponent m e) = e := by
  rw [Format.targetExponent, totalExponent, log2_eq low high, Format.minExponent,
    Format.mantissaBits]
  dsimp only [Format.binary64]
  omega

/-- Shifting by nothing changes nothing. -/
theorem shiftToTargetExponent_eq {m : Nat} {e : Int} (low : 2 ^ 52 ≤ m) (high : m < 2 ^ 53)
    (least : -1074 ≤ e) :
    shiftToTargetExponent Format.binary64 m e .exact = (⟨m, false, false⟩, e) := by
  rw [shiftToTargetExponent, targetExponent_eq low high least, shiftToExponent]
  rw [Int.sub_self]
  exact Prod.ext rfl (Int.add_zero e)

/-- Shifting zeros out loses nothing. -/
theorem shiftRight_zeros (m k : Nat) :
    k.repeat ExtendedMantissa.shiftRightOne ⟨m * 2 ^ k, false, false⟩ = ⟨m, false, false⟩ := by
  have all (j : Nat) (le : j ≤ k) :
      j.repeat ExtendedMantissa.shiftRightOne ⟨m * 2 ^ k, false, false⟩ =
        ⟨m * 2 ^ (k - j), false, false⟩ := by
    induction j with
    | zero => rfl
    | succ j ih =>
      rw [Nat.repeat, ih (by omega), ExtendedMantissa.shiftRightOne]
      have split : 2 ^ (k - j) = 2 ^ (k - (j + 1)) * 2 := by
        rw [← Nat.pow_succ]
        congr 1
        omega
      have half : m * 2 ^ (k - j) / 2 = m * 2 ^ (k - (j + 1)) := by
        rw [split, ← Nat.mul_assoc, Nat.mul_div_cancel _ (by decide)]
      have even : m * 2 ^ (k - j) % 2 = 0 := by
        rw [split, ← Nat.mul_assoc, Nat.mul_mod_left]
      rw [half, even]
      rfl
  rw [all k (Nat.le_refl k), Nat.sub_self, Nat.pow_zero, Nat.mul_one]

/-- A whole number of 53 binary digits is not rounded. -/
theorem roundWithAccuracy_eq {m : Nat} {e : Int} {sign : Sign} (low : 2 ^ 52 ≤ m)
    (high : m < 2 ^ 53) (least : -1074 ≤ e) (positive : 0 < m) :
    roundWithAccuracy Format.binary64 sign m e .exact = .finite sign m e positive := by
  have same := shiftToTargetExponent_eq low high least
  rw [roundWithAccuracy, same]
  dsimp only
  rw [show (⟨m, false, false⟩ : ExtendedMantissa).roundedMantissa = m from rfl, same]
  dsimp only
  rw [dif_neg (Nat.ne_of_gt positive)]

/-- A whole number of 53 binary digits with zeros after it is not rounded. -/
theorem roundWithAccuracy_shifted {m : Nat} {e : Int} {sign : Sign} (k : Nat)
    (low : 2 ^ 52 ≤ m) (high : m < 2 ^ 53) (least : -1074 ≤ e) (positive : 0 < m) :
    roundWithAccuracy Format.binary64 sign (m * 2 ^ k) (e - k) .exact =
      .finite sign m e positive := by
  have length : (m * 2 ^ k).log2 = 52 + k := by
    apply log2_eq
    · rw [Nat.pow_add]
      exact Nat.mul_le_mul_right _ low
    · rw [show 52 + k + 1 = 53 + k by omega, Nat.pow_add]
      exact Nat.mul_lt_mul_of_pos_right high (Nat.two_pow_pos k)
  have target : Format.binary64.targetExponent (totalExponent (m * 2 ^ k) (e - k)) = e := by
    rw [Format.targetExponent, totalExponent, length, Format.minExponent, Format.mantissaBits]
    dsimp only [Format.binary64]
    omega
  have first : shiftToTargetExponent Format.binary64 (m * 2 ^ k) (e - k) .exact =
      (⟨m, false, false⟩, e) := by
    rw [shiftToTargetExponent, target, shiftToExponent]
    rw [show (e - (e - (k : Int))).toNat = k by omega]
    exact Prod.ext (shiftRight_zeros m k) (by dsimp only; omega)
  have same := shiftToTargetExponent_eq low high least
  rw [roundWithAccuracy, first]
  dsimp only
  rw [show (⟨m, false, false⟩ : ExtendedMantissa).roundedMantissa = m from rfl, same]
  dsimp only
  rw [dif_neg (Nat.ne_of_gt positive)]

/-- The zeros that a natural number lacks to have 53 binary digits. -/
def lack (n : Nat) : Nat := 52 - n.log2

section

variable {n : Nat}

/-- A natural number with its zeros has 53 binary digits. -/
theorem filled_bounds (positive : 0 < n) (small : n < 2 ^ 53) :
    2 ^ 52 ≤ n * 2 ^ lack n ∧ n * 2 ^ lack n < 2 ^ 53 := by
  have nonzero := Nat.ne_of_gt positive
  have bound := (Nat.log2_lt nonzero).mpr small
  have low : 2 ^ n.log2 ≤ n := (Nat.le_log2 nonzero).mp (Nat.le_refl _)
  have high : n < 2 ^ (n.log2 + 1) := (Nat.log2_lt nonzero).mp (Nat.lt_succ_self _)
  constructor
  · calc
      2 ^ 52 = 2 ^ n.log2 * 2 ^ lack n := by
        rw [← Nat.pow_add]
        congr 1
        rw [lack]
        omega
      _ ≤ n * 2 ^ lack n := Nat.mul_le_mul_right _ low
  · calc
      n * 2 ^ lack n < 2 ^ (n.log2 + 1) * 2 ^ lack n :=
        Nat.mul_lt_mul_of_pos_right high (Nat.two_pow_pos _)
      _ = 2 ^ 53 := by
        rw [← Nat.pow_add]
        congr 1
        rw [lack]
        omega

/-- The place of the first binary digit is among 53. -/
theorem lack_le (n : Nat) : lack n ≤ 52 := Nat.sub_le _ _

/-- A natural number below `2 ^ 53` becomes a double with its zeros moved to the exponent. -/
theorem ofNat_finite (positive : 0 < n) (small : n < 2 ^ 53)
    (filled : 0 < n * 2 ^ lack n) :
    Float.Model.UnpackedFloat.ofNat Format.binary64 n =
      .finite .positive (n * 2 ^ lack n) (-(lack n : Int)) filled := by
  obtain ⟨low, high⟩ := filled_bounds positive small
  have bound := (Nat.log2_lt (Nat.ne_of_gt positive)).mpr small
  have target : Format.binary64.targetExponent (totalExponent n 0) = -(lack n : Int) := by
    rw [Format.targetExponent, totalExponent, Format.minExponent, Format.mantissaBits, lack]
    dsimp only [Format.binary64]
    omega
  have order : compare (n : Int) 0 = .gt := by
    rw [Int.compare_eq_gt]
    exact Int.natCast_pos.mpr positive
  rw [UnpackedFloat.ofNat, UnpackedFloat.ofInt, UnpackedFloat.normalize, order]
  dsimp only
  rw [Int.toNat_natCast, UnpackedFloat.round, target, UnpackedFloat.decreaseExponent]
  dsimp only
  rw [show ((0 : Int) - -(lack n : Int)).toNat = lack n by omega, Nat.shiftLeft_eq,
    show (0 : Int) - (lack n : Int) = -(lack n : Int) by omega]
  have within := lack_le n
  exact roundWithAccuracy_eq low high (by omega) filled

end

section

variable {m : Nat} {e : Int} {sign : Sign}

/-- A double with 53 binary digits is packed without its first digit. -/
theorem pack_eq (low : 2 ^ 52 ≤ m) (high : m < 2 ^ 53) (most : e ≤ 971) (positive : 0 < m) :
    pack Format.binary64 (.finite sign m e positive) =
      packComponents Format.binary64 sign (BitVec.ofNat 11 (e + 1075).toNat)
        (BitVec.ofNat 52 m) := by
  have biased : (e + Format.binary64.exponentBias
      + Format.binary64.mantissaBitsWithoutImplicit).toNat = (e + 1075).toNat := by
    rw [show Format.binary64.exponentBias = 1023 from rfl]
    dsimp only [Format.binary64]
    omega
  have bits : m.log2 + 1 = Format.binary64.mantissaBits := by
    rw [log2_eq low high]
    rfl
  have fits : ¬ 2 ^ Format.binary64.exponentBits ≤ (e + 1075).toNat + 1 := by
    dsimp only [Format.binary64]
    omega
  unfold pack
  dsimp only
  rw [biased, if_neg fits, if_pos bits]

/-- The bits of a double with 53 binary digits. -/
theorem pack_toNat (low : 2 ^ 52 ≤ m) (high : m < 2 ^ 53) (most : e ≤ 971) (positive : 0 < m) :
    (pack Format.binary64 (.finite .positive m e positive)).toNat =
      (e + 1075).toNat * 2 ^ 52 + (m - 2 ^ 52) := by
  have fraction : m % 2 ^ 52 = m - 2 ^ 52 := by omega
  rw [pack_eq low high most positive, packComponents]
  dsimp only [Format.binary64]
  rw [BitVec.toNat_append, BitVec.toNat_append, BitVec.toNat_ofNat, BitVec.toNat_ofNat,
    ← Nat.shiftLeft_add_eq_or_of_lt (Nat.mod_lt _ (Nat.two_pow_pos _)), Nat.shiftLeft_eq,
    show (Sign.toBitVec .positive).toNat = 0 from rfl, Nat.zero_shiftLeft, Nat.zero_or,
    Nat.mod_eq_of_lt (show (e + 1075).toNat < 2 ^ 11 by omega), fraction]

/-- Packing a double with 53 binary digits and unpacking it gives it back. -/
theorem unpack_pack (low : 2 ^ 52 ≤ m) (high : m < 2 ^ 53) (least : -1074 ≤ e) (most : e ≤ 971)
    (positive : 0 < m) :
    unpack Format.binary64 (pack Format.binary64 (.finite sign m e positive)) =
      .finite sign m e positive := by
  have exponent : (BitVec.ofNat 11 (e + 1075).toNat).toNat = (e + 1075).toNat :=
    Nat.mod_eq_of_lt (by omega)
  have notLast : BitVec.ofNat 11 (e + 1075).toNat ≠ -1#_ := by
    intro same
    rw [← BitVec.toNat_inj, exponent] at same
    have last : (-1#11).toNat = 2047 := rfl
    omega
  have notFirst : BitVec.ofNat 11 (e + 1075).toNat ≠ 0#_ := by
    intro same
    rw [← BitVec.toNat_inj, exponent] at same
    have first : (0#11).toNat = 0 := rfl
    omega
  have mantissa : (1#1 ++ BitVec.ofNat 52 m).toNat = m := by
    rw [BitVec.toNat_append, ← Nat.shiftLeft_add_eq_or_of_lt (BitVec.isLt _), Nat.shiftLeft_eq,
      BitVec.toNat_ofNat, BitVec.toNat_ofNat]
    omega
  rw [pack_eq low high most positive, unpack]
  simp only [Float.Model.UnpackedFloat.unpackMantissa_packComponents,
    Float.Model.UnpackedFloat.unpackExponent_packComponents,
    Float.Model.UnpackedFloat.unpackSign_packComponents]
  rw [if_neg notLast, if_neg notFirst]
  have same : Sign.ofBitVec sign.toBitVec = sign := by
    cases sign <;> rfl
  simp only [mantissa, exponent, same]
  rw [show Format.binary64.exponentBias = 1023 from rfl]
  congr 1
  omega

end

/-- The double of a natural number. -/
theorem ofNat_model {n : Nat} (positive : 0 < n) (small : n < 2 ^ 53)
    (filled : 0 < n * 2 ^ lack n) :
    Float.ofNat n =
      .ofModel (.pack (.finite .positive (n * 2 ^ lack n) (-(lack n : Int)) filled)) := by
  obtain ⟨low, high⟩ := filled_bounds positive small
  change Float.ofScientific n false 0 = _
  rw [Float.ofScientific, dif_pos ⟨small, by decide⟩, if_neg Bool.false_ne_true]
  change Float.ofModel (Float.Model.mul _ _) = _
  rw [Float.Model.mul]
  congr 1
  have one : (Float.exactlyRepresentablePowersOfTen[0]).toModel.unpack =
      .finite .positive (2 ^ 52) (-(52 : Nat)) (by decide) := by
    rfl
  rw [one]
  have word : n.toUInt64.toNat = n := UInt64.toNat_ofNat_of_lt' (small.trans (by decide))
  have first : (n.toUInt64.toFloat).toModel.unpack =
      .finite .positive (n * 2 ^ lack n) (-(lack n : Int)) filled := by
    change (Float.Model.pack (UnpackedFloat.ofNat _ n.toUInt64.toNat)).unpack = _
    rw [word, ofNat_finite positive small filled]
    have within := lack_le n
    exact unpack_pack low high (by omega) (by omega) filled
  rw [first, UnpackedFloat.mul]
  have least : -1074 ≤ -(lack n : Int) := by
    have := lack_le n
    omega
  exact congrArg Float.Model.pack (roundWithAccuracy_shifted 52 low high least filled)

/-- The parts of the double of a natural number. -/
theorem parts_ofNat {n : Nat} (positive : 0 < n) (small : n < 2 ^ 53) :
    parts (Float.ofNat n) = .finite ⟨false, n * 2 ^ lack n, -(lack n : Int)⟩ := by
  obtain ⟨low, high⟩ := filled_bounds positive small
  have within := lack_le n
  have filled : 0 < n * 2 ^ lack n := Nat.lt_of_lt_of_le (by decide) low
  have bits : (Float.ofNat n).toBits.toNat =
      (1075 - lack n) * 2 ^ 52 + (n * 2 ^ lack n - 2 ^ 52) := by
    rw [ofNat_model positive small filled]
    have biased : (-(lack n : Int) + 1075).toNat = 1075 - lack n := by omega
    rw [← biased]
    exact pack_toNat low high (by omega) filled
  generalize n * 2 ^ lack n = m at *
  have sign : ¬ 1 <<< 63 ≤ (1075 - lack n) * 2 ^ 52 + (m - 2 ^ 52) := by
    rw [Nat.shiftLeft_eq]
    omega
  have biased : ((1075 - lack n) * 2 ^ 52 + (m - 2 ^ 52)) >>> 52 % 2048 = 1075 - lack n := by
    rw [Nat.shiftRight_eq_div_pow]
    omega
  have fraction : ((1075 - lack n) * 2 ^ 52 + (m - 2 ^ 52)) % 1 <<< 52 = m - 2 ^ 52 := by
    rw [Nat.shiftLeft_eq, Nat.one_mul]
    omega
  rw [parts, bits, Parts.ofBits, biased, fraction]
  have least : 1075 - lack n ≠ 0 := by omega
  have most : 1075 - lack n ≠ 2047 := by omega
  have mantissa : m - 2 ^ 52 + 1 <<< 52 = m := by
    rw [Nat.shiftLeft_eq]
    omega
  have exponent : ((1075 - lack n : Nat) : Int) - 1075 = -(lack n : Int) := by omega
  rw [if_neg most, if_neg least, mantissa, exponent]
  exact congrArg (fun negative => Parts.finite ⟨negative, m, -(lack n : Int)⟩)
    (decide_eq_false sign)

/-- A natural number with zeros that its exponent takes off is whole. -/
theorem whole_shifted (n : Nat) (negative : Bool) :
    (⟨negative, n * 2 ^ lack n, -(lack n : Int)⟩ : Finite).isWhole = true ∧
      (⟨negative, n * 2 ^ lack n, -(lack n : Int)⟩ : Finite).wholePart = n := by
  constructor
  · rw [Finite.isWhole]
    dsimp only
    rw [Int.neg_neg, Int.toNat_natCast, Nat.shiftLeft_eq, Nat.one_mul, Nat.mul_mod_left]
    exact Bool.or_true _
  · rw [Finite.wholePart]
    dsimp only
    split
    case isTrue here =>
      have none : lack n = 0 := by omega
      rw [none]
      exact Nat.mul_one n
    case isFalse =>
      rw [Int.neg_neg, Int.toNat_natCast, Nat.shiftRight_eq_div_pow,
        Nat.mul_div_cancel _ (Nat.two_pow_pos _)]

/-- A natural number is written as its digits. -/
theorem toText_ofNat {n : Nat} (small : n < 2 ^ 53) :
    toText (Float.ofNat n) = String.ofList (digitsOf n) := by
  rcases Nat.eq_zero_or_pos n with rfl | positive
  · rfl
  · obtain ⟨low, _⟩ := filled_bounds positive small
    have filled : n * 2 ^ lack n ≠ 0 := by omega
    have below : n < Nat.pow 10 21 := small.trans (by decide)
    obtain ⟨whole, value⟩ := whole_shifted n false
    rw [toText, parts_ofNat positive small]
    dsimp only
    rw [if_neg filled, whole, value, decide_eq_true below]
    rfl

/-- The digits of a natural number are decimal digits, and there are some. -/
theorem digitsOf_all (n : Nat) :
    digitsOf n ≠ [] ∧ (digitsOf n).all Char.isDigit = true := by
  refine ⟨Nat.toDigits_ne_nil, List.all_eq_true.mpr fun c member => ?_⟩
  exact Nat.isDigit_of_mem_toDigits (by decide) (by decide) member

/-- The digits of a positive number start with none that could be left out. -/
theorem head?_digitsOf {n : Nat} (positive : 0 < n) : (digitsOf n).head? ≠ some '0' := by
  induction n using Nat.strongRecOn with
  | ind n ih =>
    unfold digitsOf
    by_cases small : n < 10
    · rw [Nat.toDigits_of_lt_base small]
      have each : ∀ digit < 10, 0 < digit → [Nat.digitChar digit].head? ≠ some '0' := by decide
      exact each n small positive
    · have tenth : 0 < n / 10 := Nat.div_pos (by omega) (by decide)
      have first := ih (n / 10) (by omega) tenth
      rw [Nat.toDigits_of_base_le (by decide) (by omega), List.head?_append]
      cases head : (Nat.toDigits 10 (n / 10)).head? with
      | none => exact absurd (List.head?_eq_none_iff.mp head) Nat.toDigits_ne_nil
      | some digit =>
        rw [digitsOf, head] at first
        exact first

/-- Decimal digits denote the number that they are the digits of. -/
theorem ofDigits_digitsOf (n : Nat) : ofDigits (digitsOf n) = n := by
  have step : (fun value c => value * 10 + (c.toNat - '0'.toNat)) =
      fun value (c : Char) => 10 * value + (c.toNat - '0'.toNat) := by
    funext value c
    rw [Nat.mul_comm]
  rw [ofDigits, step, ← Nat.ofDigitChars_eq_foldl]
  exact Nat.ofDigitChars_ten_toDigits

theorem ofDigits_append (digits : List Char) (c : Char) :
    ofDigits (digits ++ [c]) = ofDigits digits * 10 + (c.toNat - '0'.toNat) := by
  rw [ofDigits, List.foldl_append]
  rfl

/-- A digit is the digit of its value, which is zero for the digit zero alone. -/
theorem digitChar_value {c : Char} (digit : isDigit c = true) :
    c.toNat - '0'.toNat < 10 ∧ Nat.digitChar (c.toNat - '0'.toNat) = c ∧
      (c ≠ '0' → 0 < c.toNat - '0'.toNat) := by
  have bounds : '0'.toNat ≤ c.toNat ∧ c.toNat ≤ '9'.toNat := by
    simpa [isDigit, Char.le_def, UInt32.le_iff_toNat_le] using digit
  have low : 48 ≤ c.toNat := bounds.1
  have high : c.toNat ≤ 57 := bounds.2
  have each : ∀ value < 10, Nat.digitChar value = Char.ofNat (48 + value) := by decide
  refine ⟨by change c.toNat - 48 < 10; omega, ?_, fun other => ?_⟩
  · change Nat.digitChar (c.toNat - 48) = c
    rw [each _ (by omega), Nat.add_sub_cancel' low, Char.ofNat_toNat]
  · have apart : c.toNat ≠ 48 := fun same => other (by rw [← Char.ofNat_toNat c, same])
    change 0 < c.toNat - 48
    omega

/-- Digits that start with none that could be left out are those of their number. -/
theorem digitsOf_ofDigits {digits : List Char} (filled : digits ≠ [])
    (decimal : ∀ c ∈ digits, isDigit c = true)
    (shortest : 1 < digits.length → digits.head? ≠ some '0') :
    digitsOf (ofDigits digits) = digits ∧ (digits.head? ≠ some '0' → 0 < ofDigits digits) := by
  induction digits using List.reverseRecOn with
  | nil => exact absurd rfl filled
  | append_singleton front last ih =>
    obtain ⟨small, same, positive⟩ := digitChar_value (decimal last (by simp))
    rw [ofDigits_append]
    by_cases alone : front = []
    · subst alone
      change digitsOf (0 * 10 + _) = [last] ∧ (some last ≠ some '0' → 0 < 0 * 10 + _)
      rw [Nat.zero_mul, Nat.zero_add, digitsOf, Nat.toDigits_of_lt_base small, same]
      exact ⟨rfl, fun other => positive fun zero => other (congrArg some zero)⟩
    · have long : 0 < front.length := List.length_pos_of_ne_nil alone
      have first : (front ++ [last]).head? = front.head? := by
        rw [List.head?_append_of_ne_nil _ alone]
      have nonzero : front.head? ≠ some '0' := by
        rw [← first]
        exact shortest (by rw [List.length_append, List.length_singleton]; omega)
      obtain ⟨front_same, front_positive⟩ := ih alone
        (fun c member => decimal c (List.mem_append_left _ member)) fun _ => nonzero
      have above := front_positive nonzero
      refine ⟨?_, fun _ => by omega⟩
      have quotient : (ofDigits front * 10 + (last.toNat - '0'.toNat)) / 10 = ofDigits front := by
        omega
      have rest : (ofDigits front * 10 + (last.toNat - '0'.toNat)) % 10 =
          last.toNat - '0'.toNat := by
        omega
      rw [digitsOf, Nat.toDigits_of_base_le (by decide) (by omega), quotient, rest, same]
      exact congrArg (· ++ [last]) front_same

/-- The double nearest to a natural number. -/
theorem toFloat_ofNat {n : Nat} (small : n < 2 ^ 53) :
    Decimal.toFloat ⟨n, 0⟩ = Float.ofNat n := by
  rcases Nat.eq_zero_or_pos n with rfl | positive
  · rfl
  · have short : (digitsOf n).length ≤ 16 :=
      (Nat.length_toDigits_le_iff (by decide) (by decide)).mpr (small.trans (by decide))
    rw [Decimal.toFloat]
    dsimp only
    rw [if_neg (Nat.ne_of_gt positive), if_neg (by omega), if_neg (by omega)]
    rfl

/-- A run of digits denotes the double nearest to its number. -/
theorem readLiteral?_digits {digits : List Char} (filled : digits ≠ [])
    (decimal : ∀ c ∈ digits, isDigit c = true) :
    readLiteral? digits = some (Decimal.toFloat ⟨ofDigits digits, 0⟩) := by
  have whole : digits.takeWhile isDigit = digits := by
    have taken : (digits ++ []).takeWhile isDigit = digits ++ [].takeWhile isDigit :=
      List.takeWhile_append_of_pos decimal
    rwa [List.append_nil, List.takeWhile_nil, List.append_nil] at taken
  have none : digits.dropWhile isDigit = [] := by
    have dropped : (digits ++ []).dropWhile isDigit = [].dropWhile isDigit :=
      List.dropWhile_append_of_pos decimal
    rwa [List.append_nil, List.dropWhile_nil] at dropped
  have unsigned : readUnsigned? digits = some ⟨ofDigits digits, 0⟩ := by
    have some : digits.isEmpty = false := by simpa using filled
    rw [readUnsigned?, whole, none]
    dsimp only
    rw [some, List.append_nil]
    rfl
  have read : readDecimal? digits = some (Decimal.toFloat ⟨ofDigits digits, 0⟩) := by
    cases digits using readDecimal?.fun_cases with
    | case1 rest => exact absurd (decimal _ List.mem_cons_self) (by decide)
    | case2 rest => exact absurd (decimal _ List.mem_cons_self) (by decide)
    | case3 digits minus plus =>
      rw [readDecimal?, unsigned]
      · rfl
      · exact minus
      · exact plus
  cases digits using readLiteral?.fun_cases with
  | case1 rest => exact absurd (decimal 'x' (by simp)) (by decide)
  | case2 rest => exact absurd (decimal 'X' (by simp)) (by decide)
  | case3 digits lower upper =>
    rw [readLiteral?]
    · exact read
    · exact lower
    · exact upper

/-- Reading the digits of a natural number gives its double. -/
theorem readLiteral?_digitsOf {n : Nat} (small : n < 2 ^ 53) :
    readLiteral? (digitsOf n) = some (Float.ofNat n) := by
  obtain ⟨filled, all⟩ := digitsOf_all n
  rw [readLiteral?_digits filled (List.all_eq_true.mp all), ofDigits_digitsOf, toFloat_ofNat small]

end PluginSandbox.Number
