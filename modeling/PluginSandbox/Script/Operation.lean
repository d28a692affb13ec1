import PluginSandbox.Script.Access
import PluginSandbox.Script.Comparison
import PluginSandbox.Syntax.Operator

/-!
# Operators on values

What the operators between two evaluated operands yield. Addition joins texts as soon as one
operand is a text or an object; the operators on bits work on 32-bit integers.
-/
namespace PluginSandbox.Script

open Syntax (BinaryOperator AssignmentOperator)

/-- Two texts joined, if the result is not too long. -/
def joinTexts (left right : String) : Except RuntimeError String := do
  let _ ← checkedTextSize (left.utf8ByteSize + right.utf8ByteSize)
  return left ++ right

namespace Heap

/-- The sum of two values. -/
def add (heap : Heap) (left right : Value) : Except RuntimeError Value :=
  match heap.primitiveOf left, heap.primitiveOf right with
  | .text a, b => .text <$> joinTexts a (heap.textOf b)
  | a, .text b => .text <$> joinTexts (heap.textOf a) b
  | a, b => .ok (.number (heap.numberOf a + heap.numberOf b))

/-- The number that an operator on bits yields. -/
def bitwise (heap : Heap) (operation : BitVec 32 → BitVec 32 → BitVec 32)
    (left right : Value) : Value :=
  .number (Number.ofInt (operation (heap.wordOf left) (heap.wordOf right)).toInt)

/-- The value that an operator yields. -/
def apply (heap : Heap) (realm : RealmRef) (operator : BinaryOperator) (left right : Value) :
    Except RuntimeError Value :=
  let arithmetic (operation : Float → Float → Float) : Except RuntimeError Value :=
    .ok (.number (operation (heap.numberOf left) (heap.numberOf right)))
  match operator with
  | .add => heap.add left right
  | .subtract => arithmetic (· - ·)
  | .multiply => arithmetic (· * ·)
  | .divide => arithmetic (· / ·)
  | .modulo => arithmetic Number.remainder
  | .exponent => arithmetic Float.pow
  | .bitOr => .ok (heap.bitwise (· ||| ·) left right)
  | .bitXor => .ok (heap.bitwise (· ^^^ ·) left right)
  | .bitAnd => .ok (heap.bitwise (· &&& ·) left right)
  | .strictEqual => .ok (.boolean (left.strictEquals right))
  | .strictUnequal => .ok (.boolean (!left.strictEquals right))
  | .looseEqual => .ok (.boolean (heap.looseEquals left right))
  | .looseUnequal => .ok (.boolean (!heap.looseEquals left right))
  | .less => .ok (.boolean (heap.lessThan left right == some true))
  | .greater => .ok (.boolean (heap.lessThan right left == some true))
  | .lessEqual => .ok (.boolean (heap.lessThan right left == some false))
  | .greaterEqual => .ok (.boolean (heap.lessThan left right == some false))
  | .isIn => .boolean <$> heap.hasProperty realm right (heap.keyOf left)
  | .instanceOf => .boolean <$> heap.instanceOf left right

end Heap

/-- The operator that a compound assignment applies; none for those that may leave the target as
it is and for plain assignment. -/
def compoundOperator? : AssignmentOperator → Option BinaryOperator
  | .add => some .add
  | .subtract => some .subtract
  | .multiply => some .multiply
  | .divide => some .divide
  | .modulo => some .modulo
  | .assign | .or | .and | .nullish => none

end PluginSandbox.Script
