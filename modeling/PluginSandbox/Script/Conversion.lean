import PluginSandbox.Number.Notation
import PluginSandbox.Script.Heap

/-!
# Conversions

Every value converts to a truth value, a number, a text and a property key. Objects convert by
way of their text: the texts of the elements of an array between commas, the name and message of
an error, and a fixed text for other objects. A token view converts like the value that it
shows.

Recursion into objects is bounded by the count of objects, which no chain of distinct objects
exceeds.
-/
namespace PluginSandbox.Script

namespace Heap

/-- The token views around a value, outermost first, and the value itself, within a bound. -/
def layersWithin (heap : Heap) : Nat → Value → List Plugin.TokenView × Value
  | 0, value => ([], value)
  | bound + 1, .object ref =>
    match heap.object? ref with
    | some (.view view) =>
      let (views, value) := heap.layersWithin bound view.target
      (view :: views, value)
    | _ => ([], .object ref)
  | _, value => ([], value)

/-- The token views around a value, outermost first, and the value itself. -/
def layers (heap : Heap) (value : Value) : List Plugin.TokenView × Value :=
  heap.layersWithin heap.objects.size value

/-- A value without the token views around it. -/
def unwrap (heap : Heap) (value : Value) : Value := (heap.layers value).2

/-- The object that a value refers to. -/
def objectOf? (heap : Heap) : Value → Option Object
  | .object ref => heap.object? ref
  | _ => none

/-- The elements of an array. -/
def elementsOf? (heap : Heap) (value : Value) : Option (List Value) :=
  match heap.objectOf? value with
  | some (.array elements _) => some elements
  | _ => none

/-- Whether a value is a function. -/
def isFunction (heap : Heap) (value : Value) : Bool :=
  ((heap.objectOf? value).map Object.isFunction).getD false

/-- Whether a value is an array. -/
def isArray (heap : Heap) (value : Value) : Bool :=
  ((heap.objectOf? value).map Object.isArray).getD false

/-- Whether a value is a function, also behind token views. -/
def isCallable (heap : Heap) (value : Value) : Bool := heap.isFunction (heap.unwrap value)

/-- The word that names the kind of a value. -/
def typeOf (heap : Heap) (value : Value) : String :=
  match heap.unwrap value with
  | .undefined => "undefined"
  | .null => "object"
  | .boolean _ => "boolean"
  | .number _ => "number"
  | .text _ => "string"
  | .object ref => if heap.isFunction (.object ref) then "function" else "object"

/-- The text of a function. -/
def functionText (name : String) : String :=
  "function " ++ name ++ "() \x7b [native code] \x7d"

/-- The text of an error with a name and a message. -/
def errorText (name message : String) : String :=
  if message.isEmpty then name else name ++ ": " ++ message

/-- The text of a value, where objects nest within a bound. -/
def textWithin (heap : Heap) : Nat → Value → String
  | _, .undefined => "undefined"
  | _, .null => "null"
  | _, .boolean value => if value then "true" else "false"
  | _, .number value => Number.toText value
  | _, .text value => value
  | 0, .object _ => ""
  | bound + 1, .object ref =>
    match heap.object? ref with
    | some (.array elements _) =>
      ",".intercalate (elements.map fun element =>
        if element.isNullish then "" else heap.textWithin bound element)
    | some (.function name _ _) => functionText name
    | some (.error properties) =>
      let textOfKey (key : String) : String :=
        match properties.get? key with
        | some value => heap.textWithin bound value
        | none => ""
      errorText (textOfKey "name") (textOfKey "message")
    | some (.view view) => heap.textWithin bound view.target
    | _ => "[object Object]"

/-- The text of a value. -/
def textOf (heap : Heap) (value : Value) : String := heap.textWithin heap.objects.size value

/-- The property key that a value stands for. -/
def keyOf (heap : Heap) (value : Value) : String := heap.textOf value

/-- The number that a value converts to. -/
def numberOf (heap : Heap) : Value → Float
  | .undefined => Number.nan
  | .null => 0.0
  | .boolean value => if value then 1.0 else 0.0
  | .number value => value
  | .text value => Number.ofText value
  | .object ref => Number.ofText (heap.textOf (.object ref))

/-- The 32-bit integer that a value converts to. -/
def wordOf (heap : Heap) (value : Value) : BitVec 32 :=
  BitVec.ofInt 32 (Number.toInt32 (heap.numberOf value))

/-- The primitive value that a value converts to: the text of an object, and any other value
itself. -/
def primitiveOf (heap : Heap) : Value → Value
  | .object ref => .text (heap.textOf (.object ref))
  | value => value

/-- The text that describes an error. -/
def describe (heap : Heap) : RuntimeError → String
  | .raised kind message => kind.name ++ ": " ++ message
  | .thrown value => "Uncaught " ++ heap.textOf value
  | .importFailed error => "ImportError: " ++ error.message

end Heap

/-- Whether a value counts as true. -/
def Value.isTrue : Value → Bool
  | .undefined | .null => false
  | .boolean value => value
  | .number value => !(value == 0.0 || value.isNaN)
  | .text value => !value.isEmpty
  | .object _ => true

/-- An error object with a name and a message. -/
def Object.ofError (name message : String) : Object :=
  .error (Properties.ofEntries [("name", .text name), ("message", .text message)])

/-- The value that a catch clause binds for an error: what was thrown, or a new error object. -/
def Heap.caught (heap : Heap) : RuntimeError → Value × Heap
  | .thrown value => (value, heap)
  | .raised kind message => heap.allocateValue (.ofError kind.name message)
  | .importFailed error => heap.allocateValue (.ofError "ImportError" error.message)

end PluginSandbox.Script
