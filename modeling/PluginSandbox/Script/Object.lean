import PluginSandbox.Plugin.Resolver
import PluginSandbox.Script.Builtin
import PluginSandbox.Script.Error
import PluginSandbox.Script.HostValue
import PluginSandbox.Script.Properties
import PluginSandbox.Syntax.Tree

/-!
# Objects

An object of any kind has a table of properties; arrays hold their elements beside it and
functions answer for their name. A token view has no properties of its own: what is done to it
is done to the value that it shows.

An array is as long as its list of elements, so its length is bounded where it grows.
-/
namespace PluginSandbox.Script

/-- The scopes that code sees. -/
structure Environment where
  /-- The scope in which code declares its names. -/
  innermost : ScopeRef
  /-- The scopes around it, from the inside out. -/
  outer : List ScopeRef
  deriving DecidableEq, Repr, Inhabited

/-- The scopes of an environment from the inside out. -/
def Environment.scopes (environment : Environment) : List ScopeRef :=
  environment.innermost :: environment.outer

/-- Where a script gets the modules that it requires. -/
inductive ModuleSource where
  /-- A table of modules; a name without a value stands for a module that cannot be resolved. -/
  | table (modules : List (String × Option HostValue))
  /-- A resolver. -/
  | resolver (resolver : Plugin.Resolver)

/-- What happens when a function is called. -/
inductive Callable where
  /-- The code of a script runs in the environment in which it was created; an arrow keeps the
  receiver of its surroundings. -/
  | script (definition : Syntax.Function) (environment : Environment)
    (lexicalThis : Option Value)
  /-- A function of the library runs. -/
  | builtin (function : Builtin)
  /-- A function of the host runs. -/
  | host (behaviour : HostBehaviour) (waits : Bool)
  /-- A module is loaded. -/
  | require (source : ModuleSource)

/-- An object. -/
inductive Object where
  /-- An object without special behaviour. -/
  | ordinary (properties : Properties)
  /-- An array. -/
  | array (elements : List Value) (properties : Properties)
  /-- A function. -/
  | function (name : String) (callable : Callable) (properties : Properties)
  /-- An error. -/
  | error (properties : Properties)
  /-- A module value seen through the tokens of the module. -/
  | view (view : Plugin.TokenView)

instance : Inhabited Object := ⟨.ordinary {}⟩

/-- The greatest length of an array. -/
def maximumLength : Nat := 1 <<< 24

/-- The error of an array that would be too long. -/
def invalidLength : RuntimeError := .range "Invalid array length"

/-- A count of elements that an array may have. -/
def checkedLength (length : Nat) : Except RuntimeError Nat :=
  if length ≤ maximumLength then .ok length else .error invalidLength

/-- The count of elements that a number denotes, if an array may have so many. -/
def lengthOfNumber (number : Float) : Except RuntimeError Nat :=
  match Number.parts number with
  | .finite value =>
    if value.isWhole && (value.mantissa == 0 || !value.negative) then
      checkedLength value.wholePart
    else .error invalidLength
  | _ => .error invalidLength

/-- The elements cut or filled up to a length. -/
def resize (length : Nat) (elements : List Value) : List Value :=
  elements.take length ++ List.replicate (length - elements.length) .undefined

/-- The greatest length of a text, in bytes. -/
def maximumTextSize : Nat := 1 <<< 27

/-- The error of a text that would be too long. -/
def invalidTextSize : RuntimeError := .range "Invalid string length"

/-- A count of bytes that a text may have. -/
def checkedTextSize (size : Nat) : Except RuntimeError Nat :=
  if size ≤ maximumTextSize then .ok size else .error invalidTextSize

namespace Object

/-- Whether an object is a function. -/
def isFunction : Object → Bool
  | .function .. => true
  | _ => false

/-- Whether an object is an array. -/
def isArray : Object → Bool
  | .array .. => true
  | _ => false

/-- The property table of an object. -/
def properties : Object → Properties
  | .ordinary properties | .error properties => properties
  | .array _ properties => properties
  | .function _ _ properties => properties
  | .view _ => {}

/-- The value of an own property. -/
def getOwn? : Object → String → Option Value
  | .array elements properties, key =>
    if key = "length" then some (.ofNat elements.length)
    else
      match arrayIndex? key with
      | some index => elements[index]?
      | none => properties.get? key
  | .function name _ properties, key =>
    if key = "name" && !properties.contains key then some (.text name)
    else properties.get? key
  | object, key => object.properties.get? key

/-- Writes a property of an array. The length is given as a number, and elements between the
old end and a new one are undefined. -/
def setElement (elements : List Value) (properties : Properties) (key : String)
    (length : Float) (value : Value) : Except RuntimeError Object :=
  if key = "length" then do
    return .array (resize (← lengthOfNumber length) elements) properties
  else
    match arrayIndex? key with
    | some index =>
      if index < elements.length then .ok (.array (elements.set index value) properties)
      else do
        let grown ← checkedLength (index + 1)
        return .array ((resize grown elements).set index value) properties
    | none => .ok (.array elements (properties.set key value))

/-- Writes an own property; `length` is the value as a length of an array. -/
def setOwn (object : Object) (key : String) (length : Float) (value : Value) :
    Except RuntimeError Object :=
  match object with
  | .ordinary properties => .ok (.ordinary (properties.set key value))
  | .error properties => .ok (.error (properties.set key value))
  | .function name callable properties =>
    .ok (.function name callable (properties.set key value))
  | .array elements properties => setElement elements properties key length value
  | .view _ => .error (.type ("Cannot assign to property '" ++ key ++ "'"))

/-- Deletes an own property. An element of an array becomes undefined. -/
def deleteOwn : Object → String → Object
  | .ordinary properties, key => .ordinary (properties.erase key)
  | .error properties, key => .error (properties.erase key)
  | .function name callable properties, key => .function name callable (properties.erase key)
  | .array elements properties, key =>
    match arrayIndex? key with
    | some index => .array (elements.set index .undefined) properties
    | none => .array elements (properties.erase key)
  | .view shown, _ => .view shown

/-- The own keys in the order of iteration: the indices of the elements before the keys of the
table. -/
def ownKeys : Object → List String
  | .array elements properties =>
    (List.range elements.length).map indexKey ++ properties.keys
  | object => object.properties.keys

end Object

end PluginSandbox.Script
