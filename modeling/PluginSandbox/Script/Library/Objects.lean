import PluginSandbox.Script.Document
import PluginSandbox.Script.Handover
import PluginSandbox.Script.Interpreter

/-!
# Functions on objects

The functions of `Object` work on the own properties of a value, read as a script reads them.
-/
namespace PluginSandbox.Script.Library

open Code

/-- The error of null or undefined where an object is needed. -/
def notCoercible : RuntimeError := .type "Cannot convert undefined or null to object"

/-- The own keys of a value with their values, if it can have any. -/
def coercibleEntries (heap : Heap) (value : Value) :
    Except RuntimeError (List (String × Value)) :=
  if value.isNullish then .error notCoercible else .ok (heap.ownEntries value)

/-- Creates an array of two items. -/
def createPair (entry : String × Value) : Eval Value := createArray [.text entry.1, entry.2]

/-- Writes the own properties of a value to another one; null and undefined have none. -/
def copyProperties (target source : Value) : Eval Unit := do
  if source.isNullish then return
  let entries ← tryHeap (coercibleEntries · source)
  entries.forM fun (key, value) => writeProperty target key value

/-- The entry that a pair denotes. -/
def entryOfPair (heap : Heap) (pair : Value) : String × Value :=
  (heap.keyOf ((heap.getOwn? pair "0").getD .undefined),
    (heap.getOwn? pair "1").getD .undefined)

/-- The text that names the kind of a value. -/
def kindText (heap : Heap) : Value → String
  | .undefined => "[object Undefined]"
  | .null => "[object Null]"
  | value =>
    if heap.isArray value then "[object Array]"
    else if heap.isFunction value then "[object Function]"
    else "[object Object]"

/-- What a function of `Object` does. -/
def runObject (function : ObjectFunction) (this : Value) (arguments : List Value) :
    Eval Value := do
  let first := argument arguments 0
  match function with
  | .construct =>
    match first with
    | .object ref => return .object ref
    | _ => create (.ordinary {})
  | .keys =>
    let entries ← tryHeap (coercibleEntries · first)
    createArray (entries.map fun entry => .text entry.1)
  | .values =>
    let entries ← tryHeap (coercibleEntries · first)
    createArray (entries.map (·.2))
  | .entries =>
    let entries ← tryHeap (coercibleEntries · first)
    createArray (← entries.mapM createPair)
  | .assign =>
    if first.isNullish then fail notCoercible
    else
      (arguments.drop 1).forM (copyProperties first)
      return first
  | .fromEntries =>
    let pairs ← tryHeap (·.itemsOf first)
    updateHeap fun heap => heap.createObject (pairs.map (entryOfPair heap))
  | .freeze => return first
  | .create =>
    match first with
    | .null | .object _ => create (.ordinary {})
    | other =>
      tryHeap fun heap =>
        .error (.type ("Object prototype may only be an Object or null: " ++ heap.textOf other))
  | .hasOwnProperty =>
    readHeap fun heap =>
      .boolean (heap.getOwn? (heap.unwrap this) (heap.keyOf first)).isSome
  | .toText => readHeap fun heap => .text (kindText heap this)

end PluginSandbox.Script.Library
