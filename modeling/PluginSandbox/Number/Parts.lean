/-!
# The parts of a double

A finite double is a whole number times a power of two. Reading its bits gives the two numbers,
and everything that has to be exact about a double is computed from them: whether it is whole,
its whole part, the conversions to machine integers, and the remainder of a division.
-/
namespace PluginSandbox.Number

/-- A finite double: `mantissa * 2 ^ exponent`, negated when `negative` is set. -/
structure Finite where
  /-- The sign, which a zero has too. -/
  negative : Bool
  /-- The whole number. -/
  mantissa : Nat
  /-- The power of two. -/
  exponent : Int
  deriving DecidableEq, Repr

/-- What the bits of a double stand for. -/
inductive Parts where
  /-- No number. -/
  | nan
  /-- An infinity with its sign. -/
  | infinite (negative : Bool)
  /-- A finite number. -/
  | finite (value : Finite)
  deriving DecidableEq, Repr

/-- The parts that 64 bits encode. -/
def Parts.ofBits (bits : Nat) : Parts :=
  let negative := 1 <<< 63 ≤ bits
  let biased : Nat := (bits >>> 52) % 2048
  let fraction : Nat := bits % (1 <<< 52)
  if biased = 2047 then
    if fraction = 0 then .infinite negative else .nan
  else if biased = 0 then .finite ⟨negative, fraction, -1074⟩
  else .finite ⟨negative, fraction + 1 <<< 52, (biased : Int) - 1075⟩

/-- The parts of a double. -/
def parts (x : Float) : Parts := Parts.ofBits x.toBits.toNat

namespace Finite

/-- The whole part of the absolute value. -/
def wholePart (x : Finite) : Nat :=
  if 0 ≤ x.exponent then x.mantissa <<< x.exponent.toNat
  else x.mantissa >>> (-x.exponent).toNat

/-- Whether the value has no fraction. -/
def isWhole (x : Finite) : Bool :=
  0 ≤ x.exponent || x.mantissa % (1 <<< (-x.exponent).toNat) == 0

/-- The value rounded toward zero. -/
def truncate (x : Finite) : Int :=
  if x.negative then -(x.wholePart : Int) else x.wholePart

/-- The double with the given parts, for a mantissa below `2 ^ 53` and an exponent that a double
can have. -/
def toFloat (x : Finite) : Float :=
  let sign := if x.negative then 1 <<< 63 else 0
  if x.mantissa = 0 then Float.ofBits (UInt64.ofNat sign)
  else
    let gap := 52 - x.mantissa.log2
    let lowered := x.exponent - gap
    if -1074 ≤ lowered then
      let biased := (lowered + 1075).toNat
      Float.ofBits (UInt64.ofNat
        (sign + biased <<< 52 + (x.mantissa <<< gap - 1 <<< 52)))
    else
      Float.ofBits (UInt64.ofNat (sign + x.mantissa <<< (x.exponent + 1074).toNat))

end Finite

/-- Whether a double is a number other than the infinities. -/
def isFinite (x : Float) : Bool :=
  match parts x with
  | .finite _ => true
  | _ => false

/-- Whether a double is a finite whole number. -/
def isWhole (x : Float) : Bool :=
  match parts x with
  | .finite value => value.isWhole
  | _ => false

/-- Whether a double is below zero or is the negative zero. -/
def hasMinusSign (x : Float) : Bool := 1 <<< 63 ≤ x.toBits.toNat

/-- A double rounded toward zero and moved into the range from `low` to `high`. What is no number
becomes zero. -/
def clampToInt (low high : Int) (x : Float) : Int :=
  match parts x with
  | .nan => 0
  | .infinite negative => if negative then low else high
  | .finite value => max low (min high value.truncate)

/-- The nearest natural number of `width` bits toward zero. -/
def clampToWord (width : Nat) (x : Float) : Nat :=
  (clampToInt 0 (1 <<< width - 1 : Nat) x).toNat

/-- A double rounded toward zero; what is not finite stays as it is. -/
def truncated (x : Float) : Float :=
  match parts x with
  | .finite value =>
    if value.isWhole then x
    else Finite.toFloat ⟨value.negative, value.wholePart, 0⟩
  | _ => x

/-- The 32-bit integer congruent to the whole part of a double, for whole parts of 64 bits; a
larger whole part counts as the nearest of those, and what is not finite as zero. -/
def toInt32 (x : Float) : Int :=
  if isFinite x then
    Int.bmod (clampToInt (-(1 <<< 63 : Nat)) (1 <<< 63 - 1 : Nat) x) (1 <<< 32)
  else 0

/-- The remainder of the division that rounds the quotient toward zero. It has the sign of the
dividend. -/
def remainder (x y : Float) : Float :=
  match parts x, parts y with
  | .finite a, .finite b =>
    if b.mantissa = 0 then 0.0 / 0.0
    else
      let exponent := min a.exponent b.exponent
      let left := a.mantissa <<< (a.exponent - exponent).toNat
      let right := b.mantissa <<< (b.exponent - exponent).toNat
      Finite.toFloat ⟨a.negative, left % right, exponent⟩
  | .finite _, .infinite _ => x
  | _, _ => 0.0 / 0.0

/-- The double nearest to an integer. -/
def ofInt : Int → Float
  | .ofNat n => Float.ofNat n
  | .negSucc n => -Float.ofNat (n + 1)

/-- The double that is no number. -/
def nan : Float := 0.0 / 0.0

/-- The positive infinity. -/
def infinity : Float := 1.0 / 0.0

end PluginSandbox.Number
