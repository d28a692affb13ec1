import PluginSandbox.Number.Parts

/-!
# The shortest decimal that reads back

The reals that round to a positive double form an interval around it. On the grid of the
decimals with a given number of digits, the two neighbours of the double are the only
candidates that matter: if a point of the grid lies in the interval, so does one of them. The
first grid with a hit gives the shortest decimals that read back, and of two hits the nearer one
is taken. Which one a tie goes to is the choice of the writer.
-/
namespace PluginSandbox.Number

/-- A positive decimal: the digits as a number, and the power of ten of the last one. -/
structure Decimal where
  /-- The digits. -/
  digits : Nat
  /-- The power of ten that the last digit counts. -/
  exponent : Int
  deriving DecidableEq, Repr

/-- Which of two decimals with the same distance to a double is taken. -/
inductive Tie where
  /-- The greater one. -/
  | upper
  /-- The one with an even last digit. -/
  | even
  deriving DecidableEq, Repr

/-- Whether a tie between a decimal with the given digits and the next one goes to the next. -/
def Tie.raises : Tie → Nat → Bool
  | .upper, _ => true
  | .even, digits => digits % 2 = 1

namespace Shortest

/-- The interval of a double as whole numbers over one denominator: its lower end, the double
and its upper end, and whether the ends round to the double too. -/
structure Interval where
  /-- Numerator of the lower end. -/
  low : Nat
  /-- Numerator of the double. -/
  value : Nat
  /-- Numerator of the upper end. -/
  high : Nat
  /-- The denominator. -/
  scale : Nat
  /-- Whether the ends belong to the interval. -/
  closed : Bool

/-- The interval of a positive finite double. Below a power of two the neighbours are closer. -/
def interval (x : Finite) : Interval :=
  let narrow := x.mantissa = 1 <<< 52 ∧ x.exponent ≠ -1074
  let value := 4 * x.mantissa
  let low := if narrow then value - 1 else value - 2
  let high := value + 2
  let shift := x.exponent - 2
  { low := low <<< shift.toNat
    value := value <<< shift.toNat
    high := high <<< shift.toNat
    scale := 1 <<< (-shift).toNat
    closed := x.mantissa % 2 = 0 }

/-- Whether a decimal lies in the interval. -/
def Interval.holds (i : Interval) (d : Decimal) : Bool :=
  let numerator := d.digits * Nat.pow 10 d.exponent.toNat * i.scale
  let denominator := Nat.pow 10 (-d.exponent).toNat
  let low := i.low * denominator
  let high := i.high * denominator
  if i.closed then low ≤ numerator && numerator ≤ high
  else low < numerator && numerator < high

/-- The decimal digits below the double on the grid with the given power of ten. -/
def Interval.below (i : Interval) (exponent : Int) : Nat :=
  i.value * Nat.pow 10 (-exponent).toNat / (i.scale * Nat.pow 10 exponent.toNat)

/-- Whether the upper neighbour `digits + 1` of the double on a grid is taken and not the lower
one: it is nearer, or the tie goes to it. -/
def Interval.takesUpper (i : Interval) (tie : Tie) (digits : Nat) (exponent : Int) : Bool :=
  let middle := (2 * digits + 1) * (i.scale * Nat.pow 10 exponent.toNat)
  let double := 2 * (i.value * Nat.pow 10 (-exponent).toNat)
  middle < double || middle = double && tie.raises digits

/-- The better neighbour of the double on a grid, if one of them reads back. -/
def Interval.onGrid? (i : Interval) (tie : Tie) (exponent : Int) : Option Decimal :=
  let digits := i.below exponent
  let lower : Decimal := ⟨digits, exponent⟩
  let upper : Decimal := ⟨digits + 1, exponent⟩
  match digits ≠ 0 && i.holds lower, i.holds upper with
  | true, true => some (if i.takesUpper tie digits exponent then upper else lower)
  | true, false => some lower
  | false, true => some upper
  | false, false => none

/-- The first grid with a hit, going from coarse grids to fine ones. -/
def Interval.search (i : Interval) (tie : Tie) : Nat → Int → Decimal
  | 0, exponent => ⟨i.below exponent, exponent⟩
  | steps + 1, exponent =>
    match i.onGrid? tie exponent with
    | some decimal => decimal
    | none => Interval.search i tie steps (exponent - 1)

/-- A power of ten that is at least the whole double. -/
def ceilingExponent (x : Finite) : Int :=
  let bits : Int := x.mantissa.log2 + 1 + x.exponent
  -- 0.30103 exceeds the decimal logarithm of two, and 0.3 falls short of it.
  if 0 ≤ bits then bits * 30103 / 100000 + 1 else bits * 3 / 10 + 1

end Shortest

/-- The shortest decimal that reads back as a positive finite double, and of those the nearest
one. The grid that starts the search is coarser than the double, and the twentieth one after it
is finer than the interval. -/
def shortest (tie : Tie) (x : Finite) : Decimal :=
  (Shortest.interval x).search tie 40 (Shortest.ceilingExponent x)

end PluginSandbox.Number
