import PluginSandbox.Json.Value
import PluginSandbox.Script.Conversion

/-!
# Handing over values

Host values and JSON documents become values of a script by creating their objects on the heap,
inner ones first.
-/
namespace PluginSandbox.Script

namespace Heap

/-- Creates an array. -/
def createArray (heap : Heap) (elements : List Value) : Value × Heap :=
  heap.allocateValue (.array elements {})

/-- Creates an object with entries written in order. -/
def createObject (heap : Heap) (entries : List (String × Value)) : Value × Heap :=
  heap.allocateValue (.ordinary (Properties.ofEntries entries))

/-- Creates a function. -/
def createFunction (heap : Heap) (name : String) (callable : Callable) : Value × Heap :=
  heap.allocateValue (.function name callable {})

mutual

/-- Creates what a host value describes. -/
def ofHost (heap : Heap) : HostValue → Value × Heap
  | .undefined => (.undefined, heap)
  | .null => (.null, heap)
  | .boolean value => (.boolean value, heap)
  | .number value => (.number value, heap)
  | .text value => (.text value, heap)
  | .array items =>
    let (elements, heap) := heap.ofHostItems items
    heap.createArray elements
  | .object members =>
    let (entries, heap) := heap.ofHostMembers members
    heap.createObject entries
  | .error name message => heap.allocateValue (.ofError name message)
  | .function name waits => heap.createFunction name (.host (.ofName name) waits)

/-- Creates what host values describe. -/
def ofHostItems (heap : Heap) : List HostValue → List Value × Heap
  | [] => ([], heap)
  | item :: rest =>
    let (value, heap) := heap.ofHost item
    let (values, heap) := heap.ofHostItems rest
    (value :: values, heap)

/-- Creates what the members of a host object describe. -/
def ofHostMembers (heap : Heap) : List (String × HostValue) → List (String × Value) × Heap
  | [] => ([], heap)
  | (key, member) :: rest =>
    let (value, heap) := heap.ofHost member
    let (entries, heap) := heap.ofHostMembers rest
    ((key, value) :: entries, heap)

end

mutual

/-- Creates what a JSON document describes. -/
def ofJson (heap : Heap) : Json → Value × Heap
  | .null => (.null, heap)
  | .boolean value => (.boolean value, heap)
  | .number value => (.number value.toFloat, heap)
  | .text value => (.text value, heap)
  | .array items =>
    let (elements, heap) := heap.ofJsonItems items
    heap.createArray elements
  | .object members =>
    let (entries, heap) := heap.ofJsonMembers members
    heap.createObject entries

/-- Creates what the items of a JSON array describe. -/
def ofJsonItems (heap : Heap) : List Json → List Value × Heap
  | [] => ([], heap)
  | item :: rest =>
    let (value, heap) := heap.ofJson item
    let (values, heap) := heap.ofJsonItems rest
    (value :: values, heap)

/-- Creates what the members of a JSON object describe. -/
def ofJsonMembers (heap : Heap) : List (String × Json) → List (String × Value) × Heap
  | [] => ([], heap)
  | (key, member) :: rest =>
    let (value, heap) := heap.ofJson member
    let (entries, heap) := heap.ofJsonMembers rest
    ((key, value) :: entries, heap)

end

end Heap

end PluginSandbox.Script
