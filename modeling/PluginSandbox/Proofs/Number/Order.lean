import PluginSandbox.Proofs.Number.Naturals

/-!
# Doubles and integers

Doubles are compared in the form that they are unpacked to, which has the same parts as their bits.
A double that is not above a natural number is at most this number when it is rounded toward zero
and moved into a range that starts at zero. The negative of a double has the same parts with the other
sign, so an integer whose absolute value is below `2 ^ 53` is a double without rounding, and its parts
are whole and have its value.
-/
namespace PluginSandbox.Number

open Float.Model (Format UnpackedFloat)
open Float.Model.UnpackedFloat (Sign unpack unpackMantissa unpackExponent unpackSign)

/-- Whether a sign is that of numbers below zero. -/
def isNegative : Sign → Bool
  | .negative => true
  | .positive => false

/-- The parts of an unpacked double. -/
def Parts.ofUnpacked : UnpackedFloat → Parts
  | .notANumber => .nan
  | .infinity sign => .infinite (isNegative sign)
  | .zero sign => .finite ⟨isNegative sign, 0, -1074⟩
  | .finite sign mantissa exponent _ => .finite ⟨isNegative sign, mantissa, exponent⟩

theorem unpackExponent_toNat (bits : BitVec 64) :
    (@unpackExponent Format.binary64 bits).toNat = bits.toNat >>> 52 % 2048 := rfl

theorem unpackMantissa_toNat (bits : BitVec 64) :
    (@unpackMantissa Format.binary64 bits).toNat = bits.toNat % 1 <<< 52 := rfl

theorem isNegative_unpackSign (bits : BitVec 64) :
    isNegative (Sign.ofBitVec (@unpackSign Format.binary64 bits)) =
      decide (1 <<< 63 ≤ bits.toNat) := by
  have high : (@unpackSign Format.binary64 bits).toNat = bits.toNat >>> 63 % 2 := rfl
  have below : bits.toNat < 2 ^ 64 := bits.isLt
  by_cases zero : @unpackSign Format.binary64 bits = 0#1
  · have low : ¬1 <<< 63 ≤ bits.toNat := by
      rw [zero] at high
      change 0 = bits.toNat >>> 63 % 2 at high
      rw [Nat.shiftRight_eq_div_pow] at high
      omega
    rw [Sign.ofBitVec, if_pos zero, decide_eq_false low]
    rfl
  · have reached : 1 <<< 63 ≤ bits.toNat := by
      have other : (@unpackSign Format.binary64 bits).toNat ≠ 0 :=
        fun same => zero (BitVec.eq_of_toNat_eq same)
      rw [high, Nat.shiftRight_eq_div_pow] at other
      omega
    rw [Sign.ofBitVec, if_neg zero, decide_eq_true reached]
    rfl

/-- The parts of a double are those of its unpacked form. -/
theorem parts_eq (x : Float) : parts x = .ofUnpacked x.toModel.unpack := by
  change Parts.ofBits x.toModel.toBits.toBitVec.toNat =
    .ofUnpacked (unpack Format.binary64 x.toModel.toBits.toBitVec)
  generalize x.toModel.toBits.toBitVec = bits
  have exponent := unpackExponent_toNat bits
  have mantissa := unpackMantissa_toNat bits
  have noFraction : @unpackMantissa Format.binary64 bits = 0#_ ↔
      (@unpackMantissa Format.binary64 bits).toNat = 0 :=
    BitVec.toNat_inj.symm
  have lastExponent : @unpackExponent Format.binary64 bits = -1#_ ↔
      (@unpackExponent Format.binary64 bits).toNat = 2047 :=
    BitVec.toNat_inj.symm
  have firstExponent : @unpackExponent Format.binary64 bits = 0#_ ↔
      (@unpackExponent Format.binary64 bits).toNat = 0 :=
    BitVec.toNat_inj.symm
  rw [Parts.ofBits, unpack, ← exponent, ← mantissa, ← isNegative_unpackSign]
  by_cases last : (@unpackExponent Format.binary64 bits).toNat = 2047
  · rw [if_pos last, if_pos (lastExponent.mpr last)]
    by_cases none : (@unpackMantissa Format.binary64 bits).toNat = 0
    · rw [if_pos none, if_pos (noFraction.mpr none)]
      rfl
    · rw [if_neg none, if_neg (mt noFraction.mp none)]
      rfl
  · rw [if_neg last, if_neg (mt lastExponent.mp last)]
    by_cases first : (@unpackExponent Format.binary64 bits).toNat = 0
    · rw [if_pos first, if_pos (firstExponent.mpr first)]
      by_cases none : (@unpackMantissa Format.binary64 bits).toNat = 0
      · rw [dif_pos (noFraction.mpr none), none]
        rfl
      · rw [dif_neg (mt noFraction.mp none), first]
        rfl
    · rw [if_neg first, if_neg (mt firstExponent.mp first)]
      have filled : (1#1 ++ @unpackMantissa Format.binary64 bits).toNat =
          (@unpackMantissa Format.binary64 bits).toNat + 1 <<< 52 := by
        rw [BitVec.toNat_append, ← Nat.shiftLeft_add_eq_or_of_lt (BitVec.isLt _), Nat.add_comm]
        rfl
      rw [Parts.ofUnpacked, filled]
      rfl

/-- The mantissa of a double has at most 53 binary digits. -/
theorem mantissa_lt {x : Float} {value : Finite} (finite : parts x = .finite value) :
    value.mantissa < 2 ^ 53 := by
  have bound : x.toBits.toNat % 1 <<< 52 < 2 ^ 52 := Nat.mod_lt _ (by decide)
  unfold parts Parts.ofBits at finite
  dsimp only at finite
  split at finite
  · split at finite <;> cases finite
  · split at finite
    · cases finite
      dsimp only
      omega
    · cases finite
      dsimp only
      rw [Nat.shiftLeft_eq]
      omega

/-- Doubles are compared in their unpacked form. -/
theorem lt_iff (x y : Float) : x < y ↔ x.toModel.unpack.lt y.toModel.unpack = true := by
  change decide (x.toModel < y.toModel) = true ↔ _
  rw [decide_eq_true_iff]
  rfl

/-- The unpacked form of the double of a natural number. -/
theorem unpack_ofNat {n : Nat} (positive : 0 < n) (small : n < 2 ^ 53)
    (filled : 0 < n * 2 ^ lack n) :
    (Float.ofNat n).toModel.unpack =
      .finite .positive (n * 2 ^ lack n) (-(lack n : Int)) filled := by
  obtain ⟨low, high⟩ := filled_bounds positive small
  have within := lack_le n
  rw [ofNat_model positive small filled]
  exact unpack_pack low high (by omega) (by omega) filled

/-- A positive double that is not above a natural number has a whole part of at most this
number. -/
theorem wholePart_le {n : Nat} {x : Float} {mantissa : Nat} {exponent : Int} {filled : 0 < mantissa}
    (positive : 0 < n) (small : n < 2 ^ 53) (notAbove : ¬Float.ofNat n < x)
    (value : x.toModel.unpack = .finite .positive mantissa exponent filled) :
    (⟨false, mantissa, exponent⟩ : Finite).wholePart ≤ n := by
  obtain ⟨low, high⟩ := filled_bounds positive small
  have bound : mantissa < 2 ^ 53 := by
    have finite := parts_eq x
    rw [value] at finite
    exact mantissa_lt finite
  have ordered : exponent < -(lack n : Int) ∨
      exponent = -(lack n : Int) ∧ mantissa ≤ n * 2 ^ lack n := by
    rw [lt_iff, unpack_ofNat positive small (by omega), value] at notAbove
    have notLess : (compare (-(lack n : Int)) exponent).then
        (compare (n * 2 ^ lack n) mantissa) ≠ .lt := by
      intro less
      apply notAbove
      change (some _ == some Ordering.lt) = true
      rw [less]
      rfl
    rw [Ne, Ordering.then_eq_lt, Int.compare_eq_lt, Int.compare_eq_eq,
      Nat.compare_eq_lt] at notLess
    omega
  -- The mantissa of `n` is moved by as many places as `n` lacks, and this one by more.
  rw [Finite.wholePart]
  dsimp only
  rcases ordered with less | ⟨same, mantissas⟩
  · rw [if_neg (by omega), Nat.shiftRight_eq_div_pow]
    have more : lack n + 1 ≤ (-exponent).toNat := by omega
    have fewer : mantissa / 2 ^ (-exponent).toNat ≤ mantissa / 2 ^ (lack n + 1) :=
      Nat.div_le_div_left (Nat.pow_le_pow_right (by decide) more) (Nat.two_pow_pos _)
    have half : mantissa / 2 ^ (lack n + 1) ≤ n * 2 ^ lack n / 2 ^ lack n := by
      rw [Nat.pow_succ', ← Nat.div_div_eq_div_mul]
      exact Nat.div_le_div_right (by omega)
    rw [Nat.mul_div_cancel _ (Nat.two_pow_pos _)] at half
    omega
  · split
    case isTrue whole =>
      have none : lack n = 0 := by omega
      rw [none, Nat.pow_zero, Nat.mul_one] at mantissas
      have still : exponent.toNat = 0 := by omega
      rw [still, Nat.shiftLeft_zero]
      exact mantissas
    case isFalse =>
      have places : (-exponent).toNat = lack n := by omega
      rw [places, Nat.shiftRight_eq_div_pow]
      exact Nat.div_le_of_le_mul (by rwa [Nat.mul_comm])

/-- A double that is not above a natural number is cut to at most this number. -/
theorem clampToInt_le_of_not_lt {n : Nat} {x : Float} (high : Int) (positive : 0 < n)
    (small : n < 2 ^ 53) (notAbove : ¬Float.ofNat n < x) : clampToInt 0 high x ≤ n := by
  have value := parts_eq x
  rw [clampToInt]
  cases unpacked : x.toModel.unpack with
  | notANumber =>
    rw [unpacked] at value
    rw [value]
    exact Int.natCast_nonneg n
  | infinity sign =>
    rw [unpacked] at value
    rw [value]
    cases sign with
    | negative => exact Int.natCast_nonneg n
    | positive =>
      rw [lt_iff, unpack_ofNat positive small (by have := filled_bounds positive small; omega),
        unpacked] at notAbove
      exact absurd rfl notAbove
  | zero sign =>
    rw [unpacked] at value
    rw [value]
    have nothing : (⟨isNegative sign, 0, -1074⟩ : Finite).truncate = 0 := by
      cases sign <;> rfl
    change max 0 (min high (⟨isNegative sign, 0, -1074⟩ : Finite).truncate) ≤ _
    omega
  | finite sign mantissa exponent filled =>
    rw [unpacked] at value
    rw [value]
    cases sign with
    | negative =>
      have below : (⟨true, mantissa, exponent⟩ : Finite).truncate ≤ 0 := by
        rw [Finite.truncate, if_pos rfl]
        omega
      change max 0 (min high (⟨true, mantissa, exponent⟩ : Finite).truncate) ≤ _
      omega
    | positive =>
      have most := wholePart_le positive small notAbove unpacked
      change max 0 (min high ((⟨false, mantissa, exponent⟩ : Finite).wholePart : Int)) ≤ _
      omega

/-- The unpacked form of the double of a negative integer. -/
theorem unpack_neg_ofNat {n : Nat} (positive : 0 < n) (small : n < 2 ^ 53)
    (filled : 0 < n * 2 ^ lack n) :
    (-Float.ofNat n).toModel.unpack =
      .finite .negative (n * 2 ^ lack n) (-(lack n : Int)) filled := by
  obtain ⟨low, high⟩ := filled_bounds positive small
  have within := lack_le n
  change (Float.Model.pack (Float.ofNat n).toModel.unpack.neg).unpack = _
  rw [unpack_ofNat positive small filled]
  exact unpack_pack low high (by omega) (by omega) filled

/-- The parts of the double of an integer. -/
theorem parts_ofInt {n : Int} (nonzero : n ≠ 0) (small : n.natAbs < 2 ^ 53) :
    parts (ofInt n) =
      .finite ⟨decide (n < 0), n.natAbs * 2 ^ lack n.natAbs, -(lack n.natAbs : Int)⟩ := by
  have positive : 0 < n.natAbs := Int.natAbs_pos.mpr nonzero
  cases n with
  | ofNat n => exact parts_ofNat positive small
  | negSucc n =>
    obtain ⟨low, _⟩ := filled_bounds positive small
    have filled : 0 < (n + 1) * 2 ^ lack (n + 1) := Nat.lt_of_lt_of_le (by decide) low
    have unpacked : (-Float.ofNat (n + 1)).toModel.unpack =
        .finite .negative ((n + 1) * 2 ^ lack (n + 1)) (-(lack (n + 1) : Int)) filled :=
      unpack_neg_ofNat positive small filled
    change parts (-Float.ofNat (n + 1)) = _
    rw [parts_eq, unpacked, decide_eq_true (Int.negSucc_lt_zero n)]
    rfl

/-- The double of an integer is whole, and rounding it toward zero gives the integer. -/
theorem exists_parts_ofInt {n : Int} (small : n.natAbs < 2 ^ 53) :
    ∃ value, parts (ofInt n) = .finite value ∧ value.isWhole = true ∧
      value.wholePart = n.natAbs ∧ value.truncate = n := by
  by_cases zero : n = 0
  · subst zero
    exact ⟨⟨false, 0, -1074⟩, rfl, by decide, by decide, by decide⟩
  · obtain ⟨whole, value⟩ := whole_shifted n.natAbs (decide (n < 0))
    refine ⟨_, parts_ofInt zero small, whole, value, ?_⟩
    rw [Finite.truncate, value]
    by_cases negative : n < 0
    · simp only [negative, decide_true, if_true]
      omega
    · simp only [negative, decide_false, Bool.false_eq_true, if_false]
      omega

/-- Whether a double is whole and has the value of an integer. -/
def StandsFor (x : Float) (n : Int) : Prop :=
  ∃ value, parts x = .finite value ∧ value.isWhole = true ∧ value.truncate = n

/-- The double of a small integer stands for it. -/
theorem standsFor_ofInt {n : Int} (small : n.natAbs ≤ 2 ^ 53) : StandsFor (ofInt n) n := by
  by_cases below : n.natAbs < 2 ^ 53
  · obtain ⟨value, finite, whole, _, same⟩ := exists_parts_ofInt below
    exact ⟨value, finite, whole, same⟩
  · have limit : n = 2 ^ 53 ∨ n = -2 ^ 53 := by omega
    rcases limit with rfl | rfl
    · exact ⟨⟨false, 2 ^ 52, 1⟩, by rfl, by decide, by decide⟩
    · exact ⟨⟨true, 2 ^ 52, 1⟩, by rfl, by decide, by decide⟩

end PluginSandbox.Number
