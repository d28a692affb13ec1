import PluginSandbox.Proofs.Number.Order
import PluginSandbox.Proofs.Script.Runs
import PluginSandbox.Script.Evaluation

/-!
# Operators on bits

The operators on bits take the whole part of a double modulo `2 ^ 32` and read the result as a
signed number. They do so for every whole part that 64 bits hold; a greater one counts as the
greatest of these, of which all bits are set, and a smaller one as the smallest, of which none is.
-/
namespace PluginSandbox.Number

/-- The word that an integer counts as: its residue modulo `2 ^ 32` if 64 bits hold the integer. -/
def residue (n : Int) : Nat :=
  if n < -2 ^ 63 then 0 else if 2 ^ 63 ≤ n then 2 ^ 32 - 1 else (n % 2 ^ 32).toNat

theorem residue_lt (n : Int) : residue n < 2 ^ 32 := by
  unfold residue
  split
  · decide
  · split
    · decide
    · omega

/-- A word is read as a number that a double holds. -/
theorem natAbs_bmod_lt (word : Int) : (Int.bmod word (2 ^ 32)).natAbs < 2 ^ 53 := by
  have low : -(((2 ^ 32 : Nat) : Int) / 2) ≤ Int.bmod word (2 ^ 32) := Int.le_bmod (by decide)
  have high : Int.bmod word (2 ^ 32) < (((2 ^ 32 : Nat) : Int) + 1) / 2 := Int.bmod_lt (by decide)
  omega

/-- The residue of an integer is that of the nearest one that 64 bits hold. -/
theorem residue_eq (n : Int) :
    (max (-2 ^ 63) (min (2 ^ 63 - 1) n) % 2 ^ 32).toNat = residue n := by
  unfold residue
  split
  case isTrue below =>
    have clamped : max (-2 ^ 63) (min (2 ^ 63 - 1) n) = -2 ^ 63 := by omega
    rw [clamped]
    decide
  case isFalse notBelow =>
    split
    case isTrue above =>
      have clamped : max (-2 ^ 63) (min (2 ^ 63 - 1) n) = 2 ^ 63 - 1 := by omega
      rw [clamped]
      decide
    case isFalse notAbove =>
      have kept : max (-2 ^ 63) (min (2 ^ 63 - 1) n) = n := by omega
      rw [kept]

end PluginSandbox.Number

namespace PluginSandbox.Script

open Number (StandsFor residue)
open Syntax (BinaryOperator)

/-- The word of a finite number is the residue of its whole part. -/
theorem Heap.toNat_wordOf (heap : Heap) {x : Float} {value : Number.Finite}
    (finite : Number.parts x = .finite value) :
    (heap.wordOf (.number x)).toNat = residue value.truncate := by
  have isFinite : Number.isFinite x = true := by
    rw [Number.isFinite, finite]
  have clamped : Number.clampToInt (-(1 <<< 63 : Nat)) (1 <<< 63 - 1 : Nat) x =
      max (-2 ^ 63) (min (2 ^ 63 - 1) value.truncate) := by
    rw [Number.clampToInt, finite]
    rfl
  have word : Number.toInt32 x =
      Int.bmod (max (-2 ^ 63) (min (2 ^ 63 - 1) value.truncate)) (2 ^ 32) := by
    rw [Number.toInt32, if_pos isFinite, clamped]
    rfl
  change (BitVec.ofInt 32 (Number.toInt32 x)).toNat = _
  rw [BitVec.toNat_ofInt, word, Int.bmod_emod]
  exact Number.residue_eq value.truncate

/-- A word as a double stands for the signed number that its bits are read as. -/
theorem standsFor_word (word : BitVec 32) :
    StandsFor (Number.ofInt word.toInt) (Int.bmod word.toNat (2 ^ 32)) := by
  rw [BitVec.toInt_eq_toNat_bmod]
  exact Number.standsFor_ofInt (Nat.le_of_lt (Number.natAbs_bmod_lt _))

/-- What an operator on bits makes of the numbers that two words are. -/
def bitOperation? : BinaryOperator → Option (Nat → Nat → Nat)
  | .bitOr => some (· ||| ·)
  | .bitXor => some (· ^^^ ·)
  | .bitAnd => some (· &&& ·)
  | _ => none

/-- An operator on bits applies its operation to the residues of the whole parts. -/
theorem Heap.apply_bits (heap : Heap) (realm : RealmRef) {operator : BinaryOperator}
    {operation : Nat → Nat → Nat} (bits : bitOperation? operator = some operation) {a b : Float}
    {x y : Number.Finite} (left : Number.parts a = .finite x) (right : Number.parts b = .finite y) :
    ∃ z, heap.apply realm operator (.number a) (.number b) = .ok (.number z) ∧
      StandsFor z
        (Int.bmod (operation (residue x.truncate) (residue y.truncate)) (2 ^ 32)) := by
  rw [← heap.toNat_wordOf left, ← heap.toNat_wordOf right]
  cases operator with
  | bitOr =>
    cases bits
    refine ⟨_, rfl, ?_⟩
    have stands := standsFor_word (heap.wordOf (.number a) ||| heap.wordOf (.number b))
    rwa [BitVec.toNat_or] at stands
  | bitXor =>
    cases bits
    refine ⟨_, rfl, ?_⟩
    have stands := standsFor_word (heap.wordOf (.number a) ^^^ heap.wordOf (.number b))
    rwa [BitVec.toNat_xor] at stands
  | bitAnd =>
    cases bits
    refine ⟨_, rfl, ?_⟩
    have stands := standsFor_word (heap.wordOf (.number a) &&& heap.wordOf (.number b))
    rwa [BitVec.toNat_and] at stands
  | _ => cases bits

/-- The complement of a number has all other bits of its residue. -/
theorem standsFor_complement (heap : Heap) {a : Float} {x : Number.Finite}
    (finite : Number.parts a = .finite x) :
    StandsFor (Number.ofInt (~~~heap.wordOf (.number a)).toInt)
      (Int.bmod (2 ^ 32 - 1 - residue x.truncate) (2 ^ 32)) := by
  have stands := standsFor_word (~~~heap.wordOf (.number a))
  rw [BitVec.toNat_not, heap.toNat_wordOf finite] at stands
  have small := Number.residue_lt x.truncate
  have cast : ((2 ^ 32 - 1 - residue x.truncate : Nat) : Int) =
      2 ^ 32 - 1 - (residue x.truncate : Int) := by omega
  rwa [cast] at stands

namespace Evaluation

/-- Operators on bits are exact modulo `2 ^ 32` as far as 64 bits hold the whole parts.

For operands that come to finite numbers, each of the binary operators yields the signed number of
32 bits that is congruent to what the operation makes of the residues of their whole parts, and the
complement the one that is congruent to the other bits of the residue. The residue of a whole part
that 64 bits hold is the one modulo `2 ^ 32`. All bits of a greater whole part count as set, and
none of a smaller one. -/
theorem bits_exact (self : Interpreter) (context : Context) {left right : Syntax.Expr}
    {others : State → State → Prop} {before middle after : State} {a b : Float}
    {x y : Number.Finite} (first : Number.parts a = .finite x) (second : Number.parts b = .finite y)
    (leftComes : (self.expression left context before).ComesTo others (.ok (.number a)) middle)
    (rightComes : (self.expression right context middle).ComesTo others (.ok (.number b)) after) :
    (∀ operator operation, bitOperation? operator = some operation → ∃ z,
      (evaluate self context (.binary operator left right) before).ComesTo others
        (.ok (.number z)) after ∧
      StandsFor z
        (Int.bmod (operation (residue x.truncate) (residue y.truncate)) (2 ^ 32))) ∧
    (∃ z, (evaluate self context (.unary .bitwiseNot left) before).ComesTo others
        (.ok (.number z)) middle ∧
      StandsFor z (Int.bmod (2 ^ 32 - 1 - residue x.truncate) (2 ^ 32))) ∧
    ∀ n : Int, (-2 ^ 63 ≤ n → n < 2 ^ 63 → (residue n : Int) = n % 2 ^ 32) ∧
      (n < -2 ^ 63 → residue n = 0) ∧ (2 ^ 63 ≤ n → residue n = 2 ^ 32 - 1) := by
  refine ⟨?binary, ?complement, ?residues⟩
  case binary =>
    intro operator operation bits
    obtain ⟨z, applies, stands⟩ := after.heap.apply_bits context.realm bits first second
    refine ⟨z, ?_, stands⟩
    have last : ((Code.tryHeap fun heap =>
        heap.apply context.realm operator (.number a) (.number b) : Eval Value) after).ComesTo
          others (.ok (.number z)) after := by
      rw [Code.tryHeap_of_ok applies]
      exact ⟨rfl, rfl⟩
    exact Code.comesTo_bind_ok.mpr
      ⟨_, middle, leftComes, Code.comesTo_bind_ok.mpr ⟨_, after, rightComes, last⟩⟩
  case complement =>
    refine ⟨_, ?_, standsFor_complement middle.heap first⟩
    exact Code.comesTo_bind_ok.mpr ⟨_, middle, leftComes, rfl, rfl⟩
  case residues =>
    intro n
    unfold residue
    refine ⟨fun low high => ?_, fun below => if_pos below, fun above => ?_⟩
    · rw [if_neg (by omega), if_neg (by omega)]
      omega
    · rw [if_neg (by omega), if_pos above]

/-- A negative fraction as an operand: `-1.5 & 4294967298` is 2, and `~(-1.5)` is 0. -/
theorem bits_exact_fraction :
    Number.parts (-1.5) = .finite ⟨true, 3 * 2 ^ 51, -52⟩ ∧
    Number.parts 4294967298.0 = .finite ⟨false, 4294967298 * 2 ^ 20, -20⟩ ∧
    ((Interpreter.within 1).expression (.literal (.number (-1.5))) default {}).ComesTo Eq
      (.ok (.number (-1.5))) {} ∧
    ((Interpreter.within 1).expression (.literal (.number 4294967298.0)) default {}).ComesTo Eq
      (.ok (.number 4294967298.0)) {} ∧
    (∃ z, (evaluate (Interpreter.within 1) default (.binary .bitAnd (.literal (.number (-1.5)))
        (.literal (.number 4294967298.0))) {}).ComesTo Eq (.ok (.number z)) {} ∧
      StandsFor z 2) ∧
    ∃ z, (evaluate (Interpreter.within 1) default
        (.unary .bitwiseNot (.literal (.number (-1.5)))) {}).ComesTo Eq (.ok (.number z)) {} ∧
      StandsFor z 0 := by
  have first : Number.parts (-1.5) = .finite ⟨true, 3 * 2 ^ 51, -52⟩ := by decide
  have second : Number.parts 4294967298.0 = .finite ⟨false, 4294967298 * 2 ^ 20, -20⟩ := by decide
  have leftComes : ((Interpreter.within 1).expression (.literal (.number (-1.5)))
      default {}).ComesTo Eq (.ok (.number (-1.5))) {} := ⟨rfl, rfl⟩
  have rightComes : ((Interpreter.within 1).expression (.literal (.number 4294967298.0))
      default {}).ComesTo Eq (.ok (.number 4294967298.0)) {} := ⟨rfl, rfl⟩
  have residues : residue (⟨true, 3 * 2 ^ 51, -52⟩ : Number.Finite).truncate = 2 ^ 32 - 1 ∧
      residue (⟨false, 4294967298 * 2 ^ 20, -20⟩ : Number.Finite).truncate = 2 := by decide
  obtain ⟨binary, complement, _⟩ :=
    bits_exact (Interpreter.within 1) default first second leftComes rightComes
  rw [residues.1] at complement
  have both := binary .bitAnd _ rfl
  rw [residues.1, residues.2] at both
  exact ⟨first, second, leftComes, rightComes, both, complement⟩

/-- A whole part that 64 bits do not hold is not taken modulo `2 ^ 32`: `9223372036854775808 | 0` is
`-1`, though the number is divisible by `2 ^ 32`. -/
theorem bits_of_large_integer :
    Number.parts 9223372036854775808.0 = .finite ⟨false, 2 ^ 52, 11⟩ ∧
    (⟨false, 2 ^ 52, 11⟩ : Number.Finite).truncate % 2 ^ 32 = 0 ∧
    evaluate (Interpreter.within 1) default (.binary .bitOr
      (.literal (.number 9223372036854775808.0)) (.literal (.number 0.0))) {} =
        .done (.number (-1.0)) {} ∧
    ¬StandsFor (-1.0) (Int.bmod (0 ||| 0 : Nat) (2 ^ 32)) := by
  refine ⟨by decide, by decide, rfl, ?_⟩
  rintro ⟨value, finite, _, same⟩
  have one : Number.parts (-1.0) = .finite ⟨true, 2 ^ 52, -52⟩ := by decide
  rw [one] at finite
  cases finite
  exact absurd same (by decide)

end Evaluation

end PluginSandbox.Script
