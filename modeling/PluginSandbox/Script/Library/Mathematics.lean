import PluginSandbox.Number.CubeRoot
import PluginSandbox.Script.Interpreter

/-!
# Mathematical functions

The functions of `Math` work on doubles. Random numbers come from a generator of 64-bit words
whose state is part of the state of a run.
-/
namespace PluginSandbox.Script.Library

open Code

/-- A number rounded to the nearest whole one, a half going up. -/
def roundHalfUp (x : Float) : Float := (x + 0.5).floor

/-- The sign of a number: one, minus one, or the number itself when it is zero or none. -/
def signOf (x : Float) : Float :=
  if x.isNaN || x == 0.0 then x else if x < 0.0 then -1.0 else 1.0

/-- The number picked among numbers, or no number if there is one that is none. -/
def pickNumber (pick : Float → Float → Float) (start : Float) (numbers : List Float) : Float :=
  if numbers.any Float.isNaN then Number.nan else numbers.foldl pick start

/-- The smaller of two numbers, the second of two equal ones. -/
def smaller (x y : Float) : Float := if x < y then x else y

/-- The larger of two numbers, the second of two equal ones. -/
def larger (x y : Float) : Float := if y < x then x else y

/-- The length of a vector. The sum of no squares is the negative zero. -/
def vectorLength (numbers : List Float) : Float :=
  (numbers.foldl (fun sum x => sum + x * x) (-0.0)).sqrt

/-- The state that follows in the generator of random numbers. -/
def nextRandomState (state : UInt64) : UInt64 :=
  let state := state ^^^ (state >>> 12)
  let state := state ^^^ (state <<< 25)
  state ^^^ (state >>> 27)

/-- The random number of a state, at least zero and below one. -/
def randomNumber (state : UInt64) : Float :=
  let word := state * 0x2545f4914f6cdd1d
  Float.ofNat (word >>> 11).toNat / Float.ofNat (1 <<< 53)

/-- A random number. -/
def drawRandom : Eval Value := fun state =>
  let random := nextRandomState state.random
  .done (.number (randomNumber random)) { state with random }

/-- What a function of `Math` yields for numbers, other than a random one. -/
def applyMath (function : MathFunction) (numbers : List Float) : Option Float :=
  let x := (numbers[0]?).getD Number.nan
  let y := (numbers[1]?).getD Number.nan
  match function with
  | .abs => some x.abs
  | .floor => some x.floor
  | .ceil => some x.ceil
  | .round => some (roundHalfUp x)
  | .trunc => some (Number.truncated x)
  | .sign => some (signOf x)
  | .sqrt => some x.sqrt
  | .cbrt => some (Number.cubeRoot x)
  | .exp => some x.exp
  | .log => some x.log
  | .log10 => some x.log10
  | .log2 => some x.log2
  | .sin => some x.sin
  | .cos => some x.cos
  | .tan => some x.tan
  | .atan => some x.atan
  | .atan2 => some (Float.atan2 x y)
  | .pow => some (Float.pow x y)
  | .min => some (pickNumber smaller Number.infinity numbers)
  | .max => some (pickNumber larger (-Number.infinity) numbers)
  | .hypot => some (vectorLength numbers)
  | .random => none

/-- What a function of `Math` does. -/
def runMath (function : MathFunction) (arguments : List Value) : Eval Value := do
  let numbers ← readHeap fun heap => arguments.map heap.numberOf
  match applyMath function numbers with
  | some number => return .number number
  | none => drawRandom

end PluginSandbox.Script.Library
