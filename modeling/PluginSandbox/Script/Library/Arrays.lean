import PluginSandbox.Script.Interpreter

/-!
# Functions on arrays

A function on an array looks through token views. Places may be given from the end, as negative
numbers, and are moved into the array. Functions that call back work on the elements that the
array has when they start.
-/
namespace PluginSandbox.Script.Library

open Code

/-- The error of a receiver that is no array. -/
def notAnArray (function : String) : RuntimeError :=
  .type ("Array.prototype." ++ function ++ " called on a non-array value")

/-- The elements of the receiver. -/
def receiverElements (this : Value) (function : String) : Eval (List Value) :=
  tryHeap fun heap =>
    match heap.elementsOf? (heap.unwrap this) with
    | some elements => .ok elements
    | none => .error (notAnArray function)

/-- Replaces the elements of the receiver. -/
def replaceElements (heap : Heap) (this : Value) (elements : List Value) : Heap :=
  match heap.unwrap this with
  | .object ref =>
    match heap.object? ref with
    | some (.array _ properties) => heap.replace ref (.array elements properties)
    | _ => heap
  | _ => heap

/-- Sets the elements of the receiver. -/
def setElements (this : Value) (function : String) (elements : List Value) : Eval Unit := do
  let _ ← receiverElements this function
  changeHeap (replaceElements · this elements)

/-- A place in a sequence of some length, given by a number that counts from the end when it is
negative. -/
def placeOf (length : Nat) (number : Float) : Nat :=
  let place := Number.clampToInt (-length) length number
  if place < 0 then (length + place).toNat else place.toNat

/-- The place that an argument gives, or the default for an argument that is missing. -/
def placeArgument (heap : Heap) (length default : Nat) : Value → Nat
  | .undefined => default
  | value => placeOf length (heap.numberOf value)

/-- The index that a number gives, counted from the end when it is negative; none before the
start. An index past the end stays past the end. -/
def indexFromEnd? (length : Nat) (number : Float) : Option Nat :=
  let index := Number.clampToInt (-(length + 1)) length number
  if index < 0 then
    if 0 ≤ length + index then some (length + index).toNat else none
  else some index.toNat

/-- The elements from one place up to another. -/
def between {α : Type} (start stop : Nat) (elements : List α) : List α :=
  (elements.take stop).drop start

/-- How many elements a splice removes. -/
def removalCount (heap : Heap) (length start : Nat) : List Value → Nat
  | [] => 0
  | [_] => length - start
  | _ :: count :: _ =>
    (Number.clampToInt 0 (length - start : Nat) (heap.numberOf count)).toNat

/-- The place of the first element from a place on that equals a value. -/
def placeFrom? (start : Nat) (needle : Value) (elements : List Value) : Option Nat :=
  ((elements.drop start).findIdx? (Value.strictEquals · needle)).map (· + start)

/-- The place of the last element that equals a value. -/
def lastPlace? (needle : Value) (elements : List Value) : Option Nat :=
  (elements.reverse.findIdx? (Value.strictEquals · needle)).map
    fun place => elements.length - 1 - place

/-- A place as a value, where a missing one is minus one. -/
def placeValue : Option Nat → Value
  | some place => .ofNat place
  | none => .number (-1.0)

/-- The texts of elements with a separator between them; null and undefined have none. -/
def joinElements (heap : Heap) (separator : String) (elements : List Value) : String :=
  separator.intercalate (elements.map fun element =>
    if element.isNullish then "" else heap.textOf element)

/-- The elements with inner arrays replaced by their elements, down to a depth. -/
def flatten (heap : Heap) : Nat → List Value → List Value
  | 0, elements => elements
  | depth + 1, elements =>
    elements.flatMap fun element =>
      match heap.elementsOf? (heap.unwrap element) with
      | some inner => flatten heap depth inner
      | none => [element]

/-- The depth that a number gives. Without a limit, arrays nest no deeper than there are
objects. -/
def depthOf (heap : Heap) (number : Float) : Nat :=
  match Number.parts number with
  | .nan => 0
  | .infinite negative => if negative then 0 else heap.objects.size
  | .finite value => value.truncate.toNat

/-- The elements followed by those of the given arrays and by the given values that are no
arrays. -/
def concatenate (heap : Heap) :
    List Value → List Value → Except RuntimeError (List Value)
  | elements, [] => .ok elements
  | elements, value :: rest =>
    match heap.elementsOf? (heap.unwrap value) with
    | some more => do
      let _ ← checkedLength (elements.length + more.length)
      concatenate heap (elements ++ more) rest
    | none => concatenate heap (elements ++ [value]) rest

/-- The argument that is called back. -/
def callbackArgument (arguments : List Value) : Eval Value :=
  tryHeap fun heap =>
    let callback := argument arguments 0
    if heap.isCallable callback then .ok callback
    else .error (.type (heap.textOf callback ++ " is not a function"))

section Callbacks

variable (self : Interpreter) (realm : RealmRef)

/-- Calls back with an element, its index and the array. -/
def callWith (this callback : Value) (place : Value × Nat) : Eval Value :=
  self.call realm callback .undefined [place.1, .ofNat place.2, this]

/-- The elements of the receiver with their indices, and the argument that is called back. -/
def callbackSetting (this : Value) (arguments : List Value) (function : String) :
    Eval (List (Value × Nat) × Value) := do
  let elements ← receiverElements this function
  let callback ← callbackArgument arguments
  return (elements.zipIdx, callback)

/-- The first element that the callback accepts, with its index. -/
def findPlace? (this : Value) (arguments : List Value) (function : String) :
    Eval (Option (Value × Nat)) := do
  let (places, callback) ← callbackSetting this arguments function
  places.findM? fun place => Value.isTrue <$> callWith self realm this callback place

/-- The results of calling back with each element. -/
def mapElements (this : Value) (arguments : List Value) (function : String) :
    Eval (List Value) := do
  let (places, callback) ← callbackSetting this arguments function
  places.mapM (callWith self realm this callback)

/-- Whether one element comes after another: by a comparator, or by their texts without one. -/
def comesAfter (comparator : Value) (a b : Value) : Eval Bool := do
  if comparator.isNullish then
    readHeap fun heap => decide (heap.textOf b < heap.textOf a)
  else
    let order ← self.call realm comparator .undefined [a, b]
    readHeap fun heap => decide (0.0 < heap.numberOf order)

end Callbacks

/-- Inserts an element into sorted ones, which are given last first, behind those that do not
come after it. -/
def insertSorted (after : Value → Value → Eval Bool) (element : Value) :
    List Value → Eval (List Value)
  | [] => return [element]
  | last :: before => do
    if ← after last element then return last :: (← insertSorted after element before)
    else return element :: last :: before

/-- Sorts elements by inserting them one after the other. -/
def sortElements (after : Value → Value → Eval Bool) (elements : List Value) :
    Eval (List Value) := do
  let sorted ← elements.foldlM (fun sorted element => insertSorted after element sorted) []
  return sorted.reverse

/-- Creates an array of the items of a value, or of what a callback makes of them. -/
def arrayFrom (self : Interpreter) (realm : RealmRef) (arguments : List Value) :
    Eval Value := do
  let source := argument arguments 0
  let items ← tryHeap (·.itemsOf source)
  let callback := argument arguments 1
  if callback.isNullish then createArray items
  else
    createArray (← items.zipIdx.mapM fun (item, index) =>
      self.call realm callback .undefined [item, .ofNat index])

/-- Joins the elements of the receiver. -/
def joinReceiver (this separator : Value) : Eval Value := do
  let elements ← receiverElements this "join"
  tryHeap fun heap => do
    let separator := if separator.isUndefined then "," else heap.textOf separator
    let _ ← checkedTextSize (separator.utf8ByteSize * elements.length)
    return .text (joinElements heap separator elements)

/-- Removes elements of the receiver and inserts others in their place. -/
def spliceReceiver (this : Value) (arguments : List Value) : Eval Value := do
  let elements ← receiverElements this "splice"
  let start ← readHeap fun heap => placeArgument heap elements.length 0 (argument arguments 0)
  let count ← readHeap fun heap => removalCount heap elements.length start arguments
  setElements this "splice"
    (elements.take start ++ arguments.drop 2 ++ elements.drop (start + count))
  createArray (between start (start + count) elements)

/-- Combines the elements of the receiver by a callback, from the left. -/
def reduceReceiver (self : Interpreter) (realm : RealmRef) (this : Value)
    (arguments : List Value) : Eval Value := do
  let (places, callback) ← callbackSetting this arguments "reduce"
  let combine (accumulator : Value) (place : Value × Nat) : Eval Value :=
    self.call realm callback .undefined [accumulator, place.1, .ofNat place.2, this]
  match arguments[1]?, places with
  | some initial, places => places.foldlM combine initial
  | none, (first, _) :: rest => rest.foldlM combine first
  | none, [] => fail (.type "Reduce of empty array with no initial value")

/-- Sorts the receiver. Undefined elements come last and are not compared. -/
def sortReceiver (self : Interpreter) (realm : RealmRef) (this comparator : Value) :
    Eval Value := do
  let elements ← receiverElements this "sort"
  let (missing, defined) := elements.partition Value.isUndefined
  let sorted ← sortElements (comesAfter self realm comparator) defined
  setElements this "sort" (sorted ++ missing)
  return this

/-- What a function of `Array` does. -/
def runArray (self : Interpreter) (realm : RealmRef) (function : ArrayFunction) (this : Value)
    (arguments : List Value) : Eval Value := do
  let first := argument arguments 0
  match function with
  | .construct =>
    match arguments with
    | [.number length] =>
      let length ← ofExcept (lengthOfNumber length)
      createArray (List.replicate length .undefined)
    | _ => createArray arguments
  | .isArray => readHeap fun heap => .boolean (heap.isArray (heap.unwrap first))
  | .ofItems => createArray arguments
  | .fromItems => arrayFrom self realm arguments
  | .push =>
    let elements ← receiverElements this "push"
    let length ← ofExcept (checkedLength (elements.length + arguments.length))
    setElements this "push" (elements ++ arguments)
    return .ofNat length
  | .pop =>
    let elements ← receiverElements this "pop"
    setElements this "pop" elements.dropLast
    return elements.getLast?.getD .undefined
  | .shift =>
    let elements ← receiverElements this "shift"
    setElements this "shift" elements.tail
    return elements.head?.getD .undefined
  | .unshift =>
    let elements ← receiverElements this "unshift"
    setElements this "unshift" (arguments ++ elements)
    return .ofNat (arguments.length + elements.length)
  | .slice =>
    let elements ← receiverElements this "slice"
    let length := elements.length
    let start ← readHeap fun heap => placeArgument heap length 0 first
    let stop ← readHeap fun heap => placeArgument heap length length (argument arguments 1)
    createArray (between start stop elements)
  | .splice => spliceReceiver this arguments
  | .indexOf =>
    let elements ← receiverElements this "indexOf"
    let start ← readHeap fun heap =>
      placeArgument heap elements.length 0 (argument arguments 1)
    return placeValue (placeFrom? start first elements)
  | .lastIndexOf =>
    return placeValue (lastPlace? first (← receiverElements this "lastIndexOf"))
  | .includes =>
    let elements ← receiverElements this "includes"
    return .boolean (elements.any (Value.sameValueZero · first))
  | .join => joinReceiver this first
  | .concat =>
    let elements ← receiverElements this "concat"
    createArray (← tryHeap fun heap => concatenate heap elements arguments)
  | .reverse =>
    setElements this "reverse" (← receiverElements this "reverse").reverse
    return this
  | .flat =>
    let elements ← receiverElements this "flat"
    let depth ← readHeap fun heap =>
      if first.isUndefined then 1 else depthOf heap (heap.numberOf first)
    createArray (← readHeap fun heap => flatten heap depth elements)
  | .itemAt =>
    let elements ← receiverElements this "at"
    let index? ← readHeap fun heap => indexFromEnd? elements.length (heap.numberOf first)
    return (index?.bind (elements[·]?)).getD .undefined
  | .toText =>
    let elements ← receiverElements this "toString"
    readHeap fun heap => .text (joinElements heap "," elements)
  | .forEach =>
    let _ ← mapElements self realm this arguments "forEach"
    return .undefined
  | .map => createArray (← mapElements self realm this arguments "map")
  | .flatMap =>
    let results ← mapElements self realm this arguments "flatMap"
    createArray (← readHeap fun heap => flatten heap 1 results)
  | .filter =>
    let (places, callback) ← callbackSetting this arguments "filter"
    let kept ← places.filterM fun place =>
      Value.isTrue <$> callWith self realm this callback place
    createArray (kept.map (·.1))
  | .reduce => reduceReceiver self realm this arguments
  | .find =>
    let found ← findPlace? self realm this arguments "find"
    return (found.map (·.1)).getD .undefined
  | .findIndex =>
    return placeValue ((← findPlace? self realm this arguments "findIndex").map (·.2))
  | .some => return .boolean (← findPlace? self realm this arguments "some").isSome
  | .every =>
    let (places, callback) ← callbackSetting this arguments "every"
    return .boolean (← places.allM fun place =>
      Value.isTrue <$> callWith self realm this callback place)
  | .sort => sortReceiver self realm this first

end PluginSandbox.Script.Library
