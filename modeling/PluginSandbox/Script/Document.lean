import PluginSandbox.Json.Writer
import PluginSandbox.Script.Access

/-!
# Values as JSON documents

Undefined values and functions have no JSON form: they are left out of objects and become null
in arrays. A number that no JSON text holds becomes null as well, and one that is whole and
below `2 ^ 53` is written without a fraction. Token views are looked through, an array shows its
elements alone, and an object that contains itself along a path has no JSON form at all.
-/
namespace PluginSandbox.Script

/-- The greatest whole number up to which all whole numbers are doubles. -/
def maximumSafeInteger : Nat := 1 <<< 53 - 1

/-- The JSON form of a number. -/
def jsonNumber (number : Float) : Json :=
  match Number.parts number with
  | .finite value =>
    if value.isWhole && value.wholePart ≤ maximumSafeInteger then
      .number (.integer value.truncate)
    else .number (.real number)
  | _ => .null

/-- The error of an object that contains itself. -/
def circularStructure : RuntimeError := .type "Converting circular structure to JSON"

namespace Heap

/-- The members of a JSON object, without the ones whose value has no JSON form. -/
def jsonMembers (convert : Value → Except RuntimeError (Option Json)) :
    List (String × Value) → Except RuntimeError (List (String × Json))
  | [] => .ok []
  | (key, value) :: rest => do
    let json? ← convert value
    let members ← jsonMembers convert rest
    return match json? with
      | some json => (key, json) :: members
      | none => members

/-- The own keys of a value with what a read of each of them yields. -/
def ownEntries (heap : Heap) (value : Value) : List (String × Value) :=
  (heap.ownKeys value).map fun key => (key, (heap.getOwn? value key).getD .undefined)

/-- The JSON form of a value inside the given objects, where objects nest within a bound. -/
def jsonWithin (heap : Heap) : Nat → List Ref → Value → Except RuntimeError (Option Json)
  | 0, _, _ => .error circularStructure
  | bound + 1, inside, value =>
    match heap.unwrap value with
    | .undefined => .ok none
    | .null => .ok (some .null)
    | .boolean value => .ok (some (.boolean value))
    | .number value => .ok (some (jsonNumber value))
    | .text value => .ok (some (.text value))
    | .object ref =>
      if inside.contains ref then .error circularStructure
      else
        match heap.object? ref with
        | some (.function ..) => .ok none
        | some (.array elements _) => do
          let items ← elements.mapM fun element => do
            return (← heap.jsonWithin bound (ref :: inside) element).getD .null
          return some (.array items)
        | _ => do
          return some (.object
            (← jsonMembers (heap.jsonWithin bound (ref :: inside))
              (heap.ownEntries (.object ref))))

/-- The JSON form of a value. Objects on a path without repetition are no more than there are on
the heap. -/
def jsonOf (heap : Heap) (value : Value) : Except RuntimeError (Option Json) :=
  heap.jsonWithin (heap.objects.size + 1) [] value

/-- The text of a value on a console: texts as they are, objects and arrays as JSON where they
have a JSON form. -/
def consoleText (heap : Heap) (value : Value) : String :=
  let shown := heap.unwrap value
  match shown with
  | .object _ =>
    if heap.isFunction shown then heap.textOf shown
    else
      match heap.jsonOf shown with
      | .ok (some json) => Json.compact json
      | _ => heap.textOf shown
  | _ => heap.textOf shown

/-- The line that a console shows for some values. -/
def consoleLine (heap : Heap) (values : List Value) : String :=
  " ".intercalate (values.map heap.consoleText)

end Heap

end PluginSandbox.Script
