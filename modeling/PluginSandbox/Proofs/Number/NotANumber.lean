import Mathlib
import PluginSandbox.Number.Reading

/-!
# Doubles that are numbers

Packing an unpacked double does not make it no number, and neither does rounding. So the double
nearest to a decimal is a number, and a sign does not change whether a double is one.
-/
namespace PluginSandbox.Number

open Float.Model (Format UnpackedFloat)
open Float.Model.UnpackedFloat (Sign Accuracy pack unpack packedInfinity packComponents
  roundWithAccuracy)

/-- Components are no number only if all bits of the exponent are set and some of the mantissa. -/
theorem isNaN_packComponents {sign : Sign} {exponent : BitVec 11} {mantissa : BitVec 52}
    (number : exponent = -1#_ → mantissa = 0#_) :
    (unpack Format.binary64 (packComponents Format.binary64 sign exponent mantissa)).isNaN =
      false := by
  rw [unpack]
  simp only [Float.Model.UnpackedFloat.unpackMantissa_packComponents,
    Float.Model.UnpackedFloat.unpackExponent_packComponents]
  by_cases last : exponent = -1#_
  · rw [if_pos last, if_pos (number last)]
    rfl
  · rw [if_neg last]
    split
    · split <;> rfl
    · rfl

/-- Packing makes a double neither a number nor none. -/
theorem isNaN_pack (x : UnpackedFloat) : (Float.ofModel (.pack x)).isNaN = x.isNaN := by
  change (unpack Format.binary64 (pack Format.binary64 x)).isNaN = x.isNaN
  have infinite (sign : Sign) :
      (unpack Format.binary64 (packedInfinity Format.binary64 sign)).isNaN = false :=
    isNaN_packComponents fun _ => rfl
  cases x with
  | notANumber => rfl
  | infinity sign => exact infinite sign
  | zero sign => exact isNaN_packComponents fun _ => rfl
  | finite sign mantissa exponent filled =>
    rw [pack]
    dsimp only
    split
    case isTrue => exact infinite sign
    case isFalse fits =>
      split
      case isTrue =>
        apply isNaN_packComponents
        intro last
        have all : (-1#11).toNat = 2047 := rfl
        rw [← BitVec.toNat_inj, BitVec.toNat_ofNat, all] at last
        dsimp only [Format.binary64] at fits last
        omega
      case isFalse => exact isNaN_packComponents fun first => absurd first (by decide)

/-- Rounding yields a number. -/
theorem isNaN_roundWithAccuracy (sign : Sign) (mantissa : Nat) (exponent : Int)
    (accuracy : Accuracy) :
    (roundWithAccuracy Format.binary64 sign mantissa exponent accuracy).isNaN = false := by
  rw [roundWithAccuracy]
  dsimp only
  split <;> rfl

/-- Multiplying with what has a mantissa leaves numbers numbers, and so does dividing by it. -/
theorem isNaN_mul_finite (x : UnpackedFloat) {sign : Sign} {mantissa : Nat} {exponent : Int}
    (filled : 0 < mantissa) :
    (UnpackedFloat.mul Format.binary64 x (.finite sign mantissa exponent filled)).isNaN = x.isNaN ∧
    (UnpackedFloat.mul Format.binary64 (.finite sign mantissa exponent filled) x).isNaN = x.isNaN ∧
    (UnpackedFloat.div Format.binary64 x (.finite sign mantissa exponent filled)).isNaN =
      x.isNaN := by
  cases x with
  | finite =>
    exact ⟨isNaN_roundWithAccuracy _ _ _ _, isNaN_roundWithAccuracy _ _ _ _,
      isNaN_roundWithAccuracy _ _ _ _⟩
  | _ => exact ⟨rfl, rfl, rfl⟩

/-- A sign does not change whether a double is a number. -/
theorem isNaN_neg (x : Float) : (-x).isNaN = x.isNaN := by
  change (Float.ofModel (.pack x.toModel.unpack.neg)).isNaN = x.toModel.unpack.isNaN
  rw [isNaN_pack]
  cases x.toModel.unpack <;> rfl

/-- Neither does a factor of one or minus one. -/
theorem isNaN_factor {factor : Float} (one : factor = 1.0 ∨ factor = -1.0) (x : Float) :
    (factor * x).isNaN = x.isNaN := by
  have finite : ∃ sign mantissa exponent filled,
      factor.toModel.unpack = .finite sign mantissa exponent filled := by
    rcases one with rfl | rfl
    · exact ⟨.positive, 2 ^ 52, -52, by decide, by rfl⟩
    · exact ⟨.negative, 2 ^ 52, -52, by decide, by rfl⟩
  obtain ⟨sign, mantissa, exponent, filled, unpacked⟩ := finite
  change (Float.ofModel (.pack (UnpackedFloat.mul Format.binary64 factor.toModel.unpack
    x.toModel.unpack))).isNaN = x.toModel.unpack.isNaN
  rw [isNaN_pack, unpacked]
  exact (isNaN_mul_finite x.toModel.unpack filled).2.1

/-- The powers of ten that doubles hold have a mantissa. -/
theorem powerOfTen_finite {power : Float} (member : power ∈ Float.exactlyRepresentablePowersOfTen) :
    ∃ sign mantissa exponent filled,
      power.toModel.unpack = .finite sign mantissa exponent filled := by
  have all : ∀ power ∈ Float.exactlyRepresentablePowersOfTen.toList,
      (match power.toModel.unpack with
        | .finite .. => true
        | _ => false) = true := by
    decide
  have known := all power (Array.mem_toList_iff.mpr member)
  cases unpacked : power.toModel.unpack with
  | finite sign mantissa exponent filled => exact ⟨sign, mantissa, exponent, filled, rfl⟩
  | _ => rw [unpacked] at known; cases known

/-- The double nearest to a word is a number. -/
theorem isNaN_toFloat (word : UInt64) : word.toFloat.isNaN = false := by
  change (Float.ofModel (.pack (UnpackedFloat.ofNat Format.binary64 word.toNat))).isNaN = false
  rw [isNaN_pack, UnpackedFloat.ofNat, UnpackedFloat.ofInt, UnpackedFloat.normalize]
  split
  · exact isNaN_roundWithAccuracy _ _ _ _
  · rfl
  · exact isNaN_roundWithAccuracy _ _ _ _

/-- The double nearest to a decimal is a number. -/
theorem isNaN_ofScientific (digits : Nat) (negative : Bool) (exponent : Nat) :
    (Float.ofScientific digits negative exponent).isNaN = false := by
  rw [Float.ofScientific]
  split
  case isTrue small =>
    dsimp only
    generalize power : getElem Float.exactlyRepresentablePowersOfTen exponent _ = factor
    have member : factor ∈ Float.exactlyRepresentablePowersOfTen := by
      rw [← power]
      exact Array.getElem_mem _
    obtain ⟨sign, mantissa, place, filled, unpacked⟩ := powerOfTen_finite member
    split
    · change (Float.ofModel (.pack (UnpackedFloat.div Format.binary64
        digits.toUInt64.toFloat.toModel.unpack factor.toModel.unpack))).isNaN = false
      rw [isNaN_pack, unpacked, (isNaN_mul_finite _ filled).2.2]
      exact isNaN_toFloat _
    · change (Float.ofModel (.pack (UnpackedFloat.mul Format.binary64
        digits.toUInt64.toFloat.toModel.unpack factor.toModel.unpack))).isNaN = false
      rw [isNaN_pack, unpacked, (isNaN_mul_finite _ filled).1]
      exact isNaN_toFloat _
  case isFalse =>
    generalize (if negative = true then Int.negOfNat exponent else Int.ofNat exponent) = power
    change (Float.ofModel (.pack (UnpackedFloat.ofScientific Format.binary64 digits power))).isNaN =
      false
    rw [isNaN_pack, UnpackedFloat.ofScientific]
    split
    · rfl
    · split
      · rfl
      · split
        · rfl
        · split
          · exact isNaN_roundWithAccuracy _ _ _ _
          · exact isNaN_roundWithAccuracy _ _ _ _

/-- The double of a natural number is a number. -/
theorem isNaN_ofNat (n : Nat) : (Float.ofNat n).isNaN = false := isNaN_ofScientific n false 0

theorem Decimal.isNaN_toFloat (d : Decimal) : d.toFloat.isNaN = false := by
  rw [Decimal.toFloat]
  split
  · rfl
  · split
    · rfl
    · split
      · rfl
      · exact isNaN_ofScientific _ _ _

end PluginSandbox.Number
