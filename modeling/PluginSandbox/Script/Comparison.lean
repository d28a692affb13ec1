import PluginSandbox.Script.Conversion

/-!
# Comparisons

Loose equality converts its operands until they have one kind, and the order of values compares
texts by their characters and everything else as numbers. What is no number is neither less nor
not less than anything.
-/
namespace PluginSandbox.Script

namespace Heap

/-- Loose equality of values that are no truth values: nothing equals null and undefined but
themselves, texts and numbers compare as numbers, and an object compares by its text with what
is no object. -/
def looseEqualsPlain (heap : Heap) (a b : Value) : Bool :=
  match a, b with
  | .object _, .object _ => a.strictEquals b
  | .undefined, .undefined | .undefined, .null | .null, .undefined | .null, .null => true
  | .undefined, _ | .null, _ | _, .undefined | _, .null => false
  | _, _ =>
    match heap.primitiveOf a, heap.primitiveOf b with
    | .number x, .text y => x == Number.ofText y
    | .text x, .number y => Number.ofText x == y
    | x, y => x.strictEquals y

/-- The value with a truth value replaced by its number. -/
def booleanAsNumber : Value → Value
  | .boolean value => .number (if value then 1.0 else 0.0)
  | value => value

/-- Loose equality. -/
def looseEquals (heap : Heap) (a b : Value) : Bool :=
  match a, b with
  | .boolean x, .boolean y => x == y
  | _, _ => heap.looseEqualsPlain (booleanAsNumber a) (booleanAsNumber b)

/-- Whether one value comes before another; none if one of them is no number. -/
def lessThan (heap : Heap) (a b : Value) : Option Bool :=
  match heap.primitiveOf a, heap.primitiveOf b with
  | .text x, .text y => some (decide (x < y))
  | x, y =>
    let left := heap.numberOf x
    let right := heap.numberOf y
    if left.isNaN || right.isNaN then none else some (decide (left < right))

/-- Whether a value is an instance of a constructor. The name of the constructor decides: every
object is an `Object`, and arrays, functions and errors are known by their kind. An error is
also an instance of the constructor that its own name names. -/
def instanceOf (heap : Heap) (value constructor : Value) : Except RuntimeError Bool :=
  match heap.objectOf? (heap.unwrap constructor) with
  | some (.function name _ _) =>
    match heap.objectOf? (heap.unwrap value) with
    | none => .ok false
    | some object =>
      if name = "Object" then .ok true
      else
        match object with
        | .array .. => .ok (name == "Array")
        | .function .. => .ok (name == "Function")
        | .error properties =>
          .ok (name == "Error"
            || ((properties.get? "name").map (Value.strictEquals (.text name))).getD false)
        | _ => .ok false
  | _ => .error (.type "Right-hand side of 'instanceof' is not callable")

end Heap

end PluginSandbox.Script
