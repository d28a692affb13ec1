import PluginSandbox.Proofs.Number.Order

/-!
# Exact arithmetic on whole numbers

Sums and products of natural numbers that are at most `2 ^ 53` are not rounded. The absolute value
and the sign of a whole double are those of the integer that it has the value of.
-/
namespace PluginSandbox.Number

open Float.Model (Format UnpackedFloat totalExponent)
open Float.Model.UnpackedFloat (Sign roundWithAccuracy)

/-- A greater number lacks no more zeros. -/
theorem lack_mono {a b : Nat} (positive : 0 < a) (le : a ≤ b) : lack b ≤ lack a := by
  have below : 2 ^ a.log2 ≤ a := (Nat.le_log2 (by omega)).mp (Nat.le_refl _)
  have more : a.log2 ≤ b.log2 := (Nat.le_log2 (by omega)).mpr (Nat.le_trans below le)
  unfold lack
  omega

/-- A natural number that is at most `2 ^ 53` is not rounded, whatever zeros it has. -/
theorem pack_round {n j : Nat} (positive : 0 < n) (small : n ≤ 2 ^ 53) (zeros : lack n ≤ j) :
    Float.ofModel (.pack (roundWithAccuracy Format.binary64 .positive (n * 2 ^ j) (-(j : Int))
      .exact)) = Float.ofNat n := by
  by_cases greatest : n = 2 ^ 53
  · -- Only `2 ^ 53` has 54 binary digits. Its last one goes to the exponent.
    subst greatest
    have mantissa : 2 ^ 53 * 2 ^ j = 2 ^ 52 * 2 ^ (j + 1) := by
      rw [Nat.pow_succ 2 j]
      omega
    have exponent : -(j : Int) = 1 - ((j + 1 : Nat) : Int) := by omega
    rw [mantissa, exponent,
      roundWithAccuracy_shifted (j + 1) (Nat.le_refl _) (by decide) (by decide) (by decide)]
    rfl
  · have below : n < 2 ^ 53 := by omega
    obtain ⟨low, high⟩ := filled_bounds positive below
    have filled : 0 < n * 2 ^ lack n := Nat.lt_of_lt_of_le (by decide) low
    have within := lack_le n
    have mantissa : n * 2 ^ j = n * 2 ^ lack n * 2 ^ (j - lack n) := by
      rw [Nat.mul_assoc, ← Nat.pow_add, Nat.add_sub_cancel' zeros]
    have exponent : -(j : Int) = -(lack n : Int) - ((j - lack n : Nat) : Int) := by omega
    rw [mantissa, exponent, roundWithAccuracy_shifted _ low high (by omega) filled,
      ofNat_model positive below filled]

/-- A positive number that is at most `2 ^ 53` is the double that it is unpacked to, which has 53
binary digits. -/
theorem exists_unpack_ofNat {n : Nat} (positive : 0 < n) (small : n ≤ 2 ^ 53) :
    ∃ mantissa exponent filled,
      (Float.ofNat n).toModel.unpack = .finite .positive mantissa exponent filled ∧
      Float.ofModel (.pack (.finite .positive mantissa exponent filled)) = Float.ofNat n ∧
      2 ^ 52 ≤ mantissa ∧ mantissa < 2 ^ 53 ∧ -1074 ≤ exponent := by
  by_cases greatest : n = 2 ^ 53
  · subst greatest
    exact ⟨2 ^ 52, 1, by decide, by rfl, by rfl, by decide, by decide, by decide⟩
  · have below : n < 2 ^ 53 := by omega
    have within := lack_le n
    obtain ⟨low, high⟩ := filled_bounds positive below
    have filled : 0 < n * 2 ^ lack n := by omega
    exact ⟨_, _, filled, unpack_ofNat positive below filled,
      (ofNat_model positive below filled).symm, low, high, by omega⟩

section

variable {a b : Nat}

/-- Products that are at most `2 ^ 53` are exact. -/
theorem mul_ofNat (left : a < 2 ^ 53) (right : b < 2 ^ 53) (small : a * b ≤ 2 ^ 53) :
    Float.ofNat a * Float.ofNat b = Float.ofNat (a * b) := by
  change Float.ofModel (.pack (UnpackedFloat.mul Format.binary64 (Float.ofNat a).toModel.unpack
    (Float.ofNat b).toModel.unpack)) = _
  have zero : (Float.ofNat 0).toModel.unpack = .zero .positive := rfl
  rcases Nat.eq_zero_or_pos a with rfl | first
  · rw [Nat.zero_mul, zero]
    rcases Nat.eq_zero_or_pos b with rfl | second
    · rfl
    · have filled := filled_bounds second right
      rw [unpack_ofNat second right (by omega)]
      rfl
  · have filledFirst := filled_bounds first left
    rcases Nat.eq_zero_or_pos b with rfl | second
    · rw [Nat.mul_zero, zero, unpack_ofNat first left (by omega)]
      rfl
    · have filledSecond := filled_bounds second right
      have positive : 0 < a * b := Nat.mul_pos first second
      rw [unpack_ofNat first left (by omega), unpack_ofNat second right (by omega)]
      have zeros : lack (a * b) ≤ lack a + lack b := by
        have := lack_mono first (Nat.le_mul_of_pos_right a second)
        omega
      have mantissa : a * 2 ^ lack a * (b * 2 ^ lack b) = a * b * 2 ^ (lack a + lack b) := by
        rw [Nat.pow_add, Nat.mul_mul_mul_comm]
      have exponent : -(lack a : Int) + -(lack b : Int) = -((lack a + lack b : Nat) : Int) := by
        omega
      change Float.ofModel (.pack (roundWithAccuracy Format.binary64 .positive
        (a * 2 ^ lack a * (b * 2 ^ lack b)) (-(lack a : Int) + -(lack b : Int)) .exact)) = _
      rw [mantissa, exponent, pack_round positive small zeros]

/-- Rounding a natural number that has enough zeros leaves its exponent. -/
theorem round_eq {n j : Nat} (positive : 0 < n) (zeros : lack n ≤ j) (most : j ≤ 1074) :
    UnpackedFloat.round Format.binary64 .positive (n * 2 ^ j) (-(j : Int)) =
      roundWithAccuracy Format.binary64 .positive (n * 2 ^ j) (-(j : Int)) .exact := by
  have length : (n * 2 ^ j).log2 = n.log2 + j := by
    apply log2_eq
    · rw [Nat.pow_add]
      exact Nat.mul_le_mul_right _ ((Nat.le_log2 (by omega)).mp (Nat.le_refl _))
    · rw [show n.log2 + j + 1 = n.log2 + 1 + j by omega, Nat.pow_add]
      exact Nat.mul_lt_mul_of_pos_right ((Nat.log2_lt (by omega)).mp (Nat.lt_succ_self _))
        (Nat.two_pow_pos j)
  have reached : -(j : Int) ≤
      Format.binary64.targetExponent (totalExponent (n * 2 ^ j) (-(j : Int))) := by
    rw [Format.targetExponent, totalExponent, length, Format.minExponent, Format.mantissaBits]
    dsimp only [Format.binary64]
    unfold lack at zeros
    omega
  rw [UnpackedFloat.round, UnpackedFloat.decreaseExponent]
  dsimp only
  rw [show (-(j : Int) - Format.binary64.targetExponent
    (totalExponent (n * 2 ^ j) (-(j : Int)))).toNat = 0 by omega, Nat.shiftLeft_zero]
  simp only [Int.natCast_zero, Int.sub_zero]

/-- Moving zeros from the exponent to the mantissa. -/
theorem shiftLeft_zeros {n j : Nat} (le : lack n ≤ j) :
    (n * 2 ^ lack n) <<< (-(lack n : Int) - -(j : Int)).toNat = n * 2 ^ j := by
  have places : (-(lack n : Int) - -(j : Int)).toNat = j - lack n := by omega
  rw [places, Nat.shiftLeft_eq, Nat.mul_assoc, ← Nat.pow_add, Nat.add_sub_cancel' le]

/-- Positive numbers are added with the zeros that the smaller one lacks. -/
theorem add_filled (first : 0 < a) {filledFirst : 0 < a * 2 ^ lack a}
    {filledSecond : 0 < b * 2 ^ lack b} :
    UnpackedFloat.add Format.binary64 (.finite .positive (a * 2 ^ lack a) (-(lack a : Int))
        filledFirst) (.finite .positive (b * 2 ^ lack b) (-(lack b : Int)) filledSecond) =
      roundWithAccuracy Format.binary64 .positive ((a + b) * 2 ^ max (lack a) (lack b))
        (-((max (lack a) (lack b) : Nat) : Int)) .exact := by
  have enoughFirst : lack a ≤ max (lack a) (lack b) := Nat.le_max_left _ _
  have enoughSecond : lack b ≤ max (lack a) (lack b) := Nat.le_max_right _ _
  have most : max (lack a) (lack b) ≤ 52 := Nat.max_le.mpr ⟨lack_le a, lack_le b⟩
  have smaller : min (-(lack a : Int)) (-(lack b : Int)) =
      -((max (lack a) (lack b) : Nat) : Int) := by
    omega
  have enough : lack (a + b) ≤ max (lack a) (lack b) :=
    Nat.le_trans (lack_mono first (Nat.le_add_right a b)) enoughFirst
  rw [UnpackedFloat.add, smaller]
  generalize max (lack a) (lack b) = j at *
  have positive : 0 < (a + b) * 2 ^ j := Nat.mul_pos (by omega) (Nat.two_pow_pos j)
  have mantissa : Sign.positive.apply ((a * 2 ^ j : Nat) : Int) +
      Sign.positive.apply ((b * 2 ^ j : Nat) : Int) = (((a + b) * 2 ^ j : Nat) : Int) := by
    rw [Nat.add_mul]
    rfl
  have order : compare (((a + b) * 2 ^ j : Nat) : Int) 0 = .gt := by
    rw [Int.compare_eq_gt]
    exact Int.natCast_pos.mpr positive
  dsimp only [UnpackedFloat.decreaseExponent]
  rw [shiftLeft_zeros enoughFirst, shiftLeft_zeros enoughSecond, mantissa,
    UnpackedFloat.normalize, order]
  dsimp only
  rw [Int.toNat_natCast, round_eq (by omega) enough (by omega)]

/-- Sums that are at most `2 ^ 53` are exact. -/
theorem add_ofNat (small : a + b ≤ 2 ^ 53) :
    Float.ofNat a + Float.ofNat b = Float.ofNat (a + b) := by
  change Float.ofModel (.pack (UnpackedFloat.add Format.binary64 (Float.ofNat a).toModel.unpack
    (Float.ofNat b).toModel.unpack)) = _
  have zero : (Float.ofNat 0).toModel.unpack = .zero .positive := rfl
  rcases Nat.eq_zero_or_pos a with rfl | first
  · rcases Nat.eq_zero_or_pos b with rfl | second
    · rfl
    · obtain ⟨mantissa, exponent, filled, unpacked, same, _⟩ :=
        exists_unpack_ofNat second (by omega)
      rw [Nat.zero_add, zero, unpacked]
      exact same
  · rcases Nat.eq_zero_or_pos b with rfl | second
    · obtain ⟨mantissa, exponent, filled, unpacked, same, _⟩ :=
        exists_unpack_ofNat first (by omega)
      rw [Nat.add_zero, zero, unpacked]
      exact same
    · have left : a < 2 ^ 53 := by omega
      have right : b < 2 ^ 53 := by omega
      have filledFirst := filled_bounds first left
      have filledSecond := filled_bounds second right
      have enough : lack (a + b) ≤ max (lack a) (lack b) :=
        Nat.le_trans (lack_mono first (Nat.le_add_right a b)) (Nat.le_max_left _ _)
      rw [unpack_ofNat first left (by omega), unpack_ofNat second right (by omega),
        add_filled first, pack_round (by omega) small enough]

end

/-- A factor of one or minus one changes the sign alone. -/
theorem factor_mul_ofNat {n : Nat} (small : n ≤ 2 ^ 53) :
    1.0 * Float.ofNat n = Float.ofNat n ∧
      (0 < n → -1.0 * Float.ofNat n = -Float.ofNat n) := by
  rcases Nat.eq_zero_or_pos n with rfl | positive
  · exact ⟨by rfl, fun impossible => absurd impossible (by decide)⟩
  · obtain ⟨mantissa, exponent, filled, unpacked, same, low, high, least⟩ :=
      exists_unpack_ofNat positive small
    have product (sign : Sign) : roundWithAccuracy Format.binary64 sign (2 ^ 52 * mantissa)
        (-(52 : Nat) + exponent) .exact = .finite sign mantissa exponent filled := by
      rw [Nat.mul_comm, Int.add_comm]
      exact roundWithAccuracy_shifted 52 low high least filled
    have one : (1.0 : Float).toModel.unpack =
        .finite .positive (2 ^ 52) (-(52 : Nat)) (by decide) := by rfl
    have minusOne : (-1.0 : Float).toModel.unpack =
        .finite .negative (2 ^ 52) (-(52 : Nat)) (by decide) := by rfl
    constructor
    · change Float.ofModel (.pack (UnpackedFloat.mul Format.binary64 (1.0 : Float).toModel.unpack
        (Float.ofNat n).toModel.unpack)) = _
      rw [one, unpacked, ← same]
      exact congrArg (fun result => Float.ofModel (.pack result)) (product .positive)
    · intro _
      change Float.ofModel (.pack (UnpackedFloat.mul Format.binary64 (-1.0 : Float).toModel.unpack
        (Float.ofNat n).toModel.unpack)) =
          Float.ofModel (.pack (Float.ofNat n).toModel.unpack.neg)
      rw [minusOne, unpacked]
      exact congrArg (fun result => Float.ofModel (.pack result)) (product .negative)

/-- A number is whole if its mantissa is divisible by what a negative exponent divides it by. -/
theorem Finite.isWhole_iff (value : Finite) :
    value.isWhole = true ↔ 0 ≤ value.exponent ∨ 2 ^ (-value.exponent).toNat ∣ value.mantissa := by
  rw [Finite.isWhole, Bool.or_eq_true, decide_eq_true_iff, beq_iff_eq, Nat.shiftLeft_eq,
    Nat.one_mul, Nat.dvd_iff_mod_eq_zero]

/-- The value of a whole number is zero only for the mantissa zero. -/
theorem Finite.wholePart_pos {value : Finite} (whole : value.isWhole = true)
    (nonzero : value.mantissa ≠ 0) : 0 < value.wholePart := by
  have positive : 0 < value.mantissa := Nat.pos_of_ne_zero nonzero
  rw [Finite.wholePart]
  split
  case isTrue =>
    rw [Nat.shiftLeft_eq]
    exact Nat.mul_pos positive (Nat.two_pow_pos _)
  case isFalse negative =>
    have divides := (value.isWhole_iff.mp whole).resolve_left negative
    rw [Nat.shiftRight_eq_div_pow]
    exact Nat.div_pos (Nat.le_of_dvd positive divides) (Nat.two_pow_pos _)

section

variable {x : Float} {value : Finite}

/-- A whole double that is not zero has 53 binary digits. -/
theorem normal_of_isWhole (finite : parts x = .finite value) (whole : value.isWhole = true)
    (nonzero : value.mantissa ≠ 0) :
    2 ^ 52 ≤ value.mantissa ∧ -1074 ≤ value.exponent ∧ value.exponent ≤ 971 := by
  have fraction : x.toBits.toNat % 1 <<< 52 < 2 ^ 52 := Nat.mod_lt _ (by decide)
  have biased : x.toBits.toNat >>> 52 % 2048 < 2048 := Nat.mod_lt _ (by decide)
  unfold parts Parts.ofBits at finite
  dsimp only at finite
  split at finite
  · split at finite <;> cases finite
  · split at finite
    · -- A subnormal number is below one, so no power of two in question divides its mantissa.
      cases finite
      have negative : ¬(0 : Int) ≤ -1074 := by decide
      have divides := ((Finite.isWhole_iff _).mp whole).resolve_left negative
      have large := Nat.le_of_dvd (Nat.pos_of_ne_zero nonzero) divides
      have power : 2 ^ 52 ≤ 2 ^ (-(-1074 : Int)).toNat :=
        Nat.pow_le_pow_right (by decide) (by decide)
      exact absurd (Nat.le_trans power large) (by dsimp only; omega)
    · cases finite
      dsimp only
      rw [Nat.shiftLeft_eq]
      omega

/-- The parts of the absolute value of a whole double. -/
theorem parts_abs (finite : parts x = .finite value) (whole : value.isWhole = true) :
    parts x.abs = .finite { value with negative := false } := by
  have unpacked := parts_eq x
  rw [finite] at unpacked
  change parts (Float.ofModel (.pack x.toModel.unpack.abs)) = _
  cases form : x.toModel.unpack with
  | notANumber => rw [form] at unpacked; cases unpacked
  | infinity sign => rw [form] at unpacked; cases unpacked
  | zero sign =>
    rw [form] at unpacked
    cases unpacked
    change parts (Float.ofModel (.pack (.zero .positive))) = .finite ⟨false, 0, -1074⟩
    rfl
  | finite sign mantissa exponent filled =>
    rw [form] at unpacked
    cases unpacked
    obtain ⟨low, least, most⟩ := normal_of_isWhole finite whole (Nat.ne_of_gt filled)
    have high := mantissa_lt finite
    rw [parts_eq]
    change Parts.ofUnpacked (UnpackedFloat.unpack Format.binary64 (UnpackedFloat.pack
      Format.binary64 (.finite .positive mantissa exponent filled))) = _
    rw [unpack_pack low high least most filled]
    rfl

/-- A whole double is below zero if its value is. -/
theorem lt_zero_iff (finite : parts x = .finite value) (whole : value.isWhole = true) :
    x < 0.0 ↔ value.truncate < 0 := by
  have unpacked := parts_eq x
  have zero : (0.0 : Float).toModel.unpack = .zero .positive := by rfl
  rw [finite] at unpacked
  rw [lt_iff, zero, Finite.truncate]
  cases form : x.toModel.unpack with
  | notANumber => rw [form] at unpacked; cases unpacked
  | infinity sign => rw [form] at unpacked; cases unpacked
  | zero sign =>
    rw [form] at unpacked
    cases unpacked
    cases sign <;> decide
  | finite sign mantissa exponent filled =>
    rw [form] at unpacked
    cases unpacked
    have positive := Finite.wholePart_pos whole (Nat.ne_of_gt filled)
    cases sign with
    | negative =>
      simp only [isNegative, if_true] at positive ⊢
      exact ⟨fun _ => by omega, fun _ => rfl⟩
    | positive =>
      simp only [isNegative, Bool.false_eq_true, if_false] at positive ⊢
      exact ⟨fun less => absurd less Bool.false_ne_true, fun below => by omega⟩

end

end PluginSandbox.Number
