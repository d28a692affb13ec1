import PluginSandbox.Number.Parts

/-!
# Cube roots

The cube root of a double is the double nearest to the exact root. The root of a whole number
with enough digits decides the rounding, and no exact root lies halfway between two doubles.
-/
namespace PluginSandbox.Number

/-- The greatest number below `root + 2 ^ bits`, from `root` on, whose cube is at most `n`. -/
def cubeRootFrom (n : Nat) : Nat → Nat → Nat
  | 0, root => root
  | bits + 1, root =>
    let next := root + 1 <<< bits
    cubeRootFrom n bits (if next * next * next ≤ n then next else root)

/-- The whole part of the cube root of a natural number. -/
def wholeCubeRoot (n : Nat) : Nat := cubeRootFrom n (n.log2 / 3 + 1) 0

/-- A number cut to 53 binary digits, rounded up from one half on, and the count of digits that
were cut. -/
def cutToDouble (n : Nat) : Nat × Nat :=
  let cut := n.log2 + 1 - 53
  ((n + (1 <<< cut) / 2) >>> cut, cut)

/-- The double nearest to the cube root of a finite one. The number is first scaled by a power of
eight so that the whole part of its root has more digits than a double. -/
def Finite.cubeRoot (x : Finite) : Float :=
  if x.mantissa = 0 then x.toFloat
  else
    let shift := 162 + Int.toNat (x.exponent % 3)
    let (mantissa, cut) := cutToDouble (wholeCubeRoot (x.mantissa <<< shift))
    Finite.toFloat ⟨x.negative, mantissa, cut + (x.exponent - shift) / 3⟩

/-- The cube root of a double. -/
def cubeRoot (x : Float) : Float :=
  match parts x with
  | .finite value => value.cubeRoot
  | _ => x

end PluginSandbox.Number
