import PluginSandbox.Proofs.Script.Data
import PluginSandbox.Proofs.Script.Sorting
import PluginSandbox.Proofs.Script.TextSizes
import PluginSandbox.Proofs.Text.Search

/-!
# Slices of arrays and texts

A place that an argument gives is moved into the array or text that it is used on, whatever number
the argument converts to. So a slice is a part of what it is taken from, and a splice cuts an array
into three parts and replaces the one in the middle. Texts are cut between two of their characters.
-/
namespace PluginSandbox.Script

/-- Whether a value is no object. -/
def Value.IsPrimitive (value : Value) : Prop := ∀ ref, value ≠ .object ref

/-- The number of a primitive value does not depend on objects. -/
theorem Value.IsPrimitive.numberOf {value : Value} (primitive : value.IsPrimitive)
    (heap heap' : Heap) : heap.numberOf value = heap'.numberOf value := by
  cases value with
  | object ref => exact absurd rfl (primitive ref)
  | _ => rfl

namespace Library

open Code

section Places

variable {length start default : Nat}

end Places

end Library

namespace Heap

open Plugin (TokenView)

variable {heap heap' : Heap} {value shown : Value} {views : List TokenView} {elements : List Value}

/-- The views around an array stay when objects are added. -/
theorem Layered.mono (layered : heap.Layered value views shown)
    (array : heap.elementsOf? shown = some elements) (more : heap.Extends heap') :
    heap'.Layered value views shown := by
  induction layered with
  | plain bare =>
    obtain ⟨ref, properties, rfl, found⟩ := Library.exists_of_elementsOf? array
    exact .plain fun view isView => by cases (more ref _ found).symm.trans isView
  | view found _ ih => exact .view (more _ _ found) (ih array)

end Heap

/-- The state after an array was created. -/
def creating (elements : List Value) (state : State) : State :=
  { state with heap := (state.heap.allocate (.array elements {})).2 }

/-- The array that is created next. -/
def State.next (state : State) : Value := .object ⟨state.heap.objects.size⟩

namespace Library

open Code

section Arrays

variable (self : Interpreter) (realm : RealmRef) {this : Value} (arguments : List Value)
  {elements : List Value} {state : State}

end Arrays

section Texts

end Texts

end Library

end PluginSandbox.Script
