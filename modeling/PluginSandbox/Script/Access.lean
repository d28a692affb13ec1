import PluginSandbox.Script.Conversion

/-!
# Access to properties

How scripts read, write, delete and enumerate properties. A read looks at the value itself and
then at the properties that its kind shares. A token view answers a read from the tokens of its
module first; every other access goes to the value that it shows.
-/
namespace PluginSandbox.Script

namespace Heap

/-- The token that shadows a property, in the outermost view that has one. -/
def tokenIn? (views : List Plugin.TokenView) (key : String) : Option Value :=
  views.findSome? fun view => view.lookup key

/-- The character of a text at an index, as a text. -/
def charAt? (text : String) (index : Nat) : Option Value :=
  (text.toList[index]?).map fun c => .text (String.singleton c)

/-- The shared property of a key, from the properties of a kind and then from those of all
values. -/
def sharedProperty (heap : Heap) (realm : RealmRef) (kind : Option Ref) (key : String) :
    Option Value :=
  (kind.toList ++ [(heap.realm realm).prototypes.object]).findSome? fun ref =>
    (heap.object? ref).bind fun object => object.getOwn? key

/-- The property of a value that is no token view; a missing one is undefined. -/
def readPlain (heap : Heap) (realm : RealmRef) (value : Value) (key : String) :
    Except RuntimeError Value :=
  let prototypes := (heap.realm realm).prototypes
  let shared (kind : Option Ref) : Value :=
    (heap.sharedProperty realm kind key).getD .undefined
  match value with
  | .undefined | .null =>
    .error (.type ("Cannot read properties of " ++ heap.textOf value ++ " (reading '" ++ key
      ++ "')"))
  | .text text =>
    if key = "length" then .ok (.ofNat text.length)
    else
      match arrayIndex? key with
      | some index => .ok ((charAt? text index).getD .undefined)
      | none => .ok (shared (some prototypes.string))
  | .number _ => .ok (shared (some prototypes.number))
  | .boolean _ => .ok (shared none)
  | .object ref =>
    match heap.object? ref with
    | some object =>
      match object.getOwn? key with
      | some own => .ok own
      | none => .ok (shared (prototypes.forObject? object))
    | none => .ok .undefined

/-- The property of a value. -/
def read (heap : Heap) (realm : RealmRef) (value : Value) (key : String) :
    Except RuntimeError Value :=
  let (views, shown) := heap.layers value
  match tokenIn? views key with
  | some token => .ok token
  | none => heap.readPlain realm shown key

/-- The own property of a value, tokens included and shared properties left out. -/
def getOwn? (heap : Heap) (value : Value) (key : String) : Option Value :=
  let (views, shown) := heap.layers value
  match tokenIn? views key with
  | some token => some token
  | none =>
    match shown with
    | .object ref => (heap.object? ref).bind fun object => object.getOwn? key
    | .text text => (arrayIndex? key).bind (charAt? text)
    | _ => none

/-- The number that a value denotes as the length of an array; objects denote none. -/
def lengthNumber (heap : Heap) : Value → Float
  | .object _ => Number.nan
  | value => heap.numberOf value

/-- The object to which a property is written, as it is afterwards. -/
def written (heap : Heap) (target : Value) (key : String) (value : Value) :
    Except RuntimeError (Ref × Object) :=
  match heap.unwrap target with
  | .object ref => do
    let object := (heap.object? ref).getD default
    return (ref, ← object.setOwn key (heap.lengthNumber value) value)
  | .undefined | .null =>
    .error (.type ("Cannot set properties of " ++ heap.textOf target ++ " (setting '" ++ key
      ++ "')"))
  | _ =>
    .error (.type ("Cannot create property '" ++ key ++ "' on " ++ heap.typeOf target ++ " '"
      ++ heap.textOf target ++ "'"))

/-- Whether an object has a property of its own or a shared one that is not undefined. -/
def hasProperty (heap : Heap) (realm : RealmRef) (value : Value) (key : String) :
    Except RuntimeError Bool :=
  match value with
  | .object _ =>
    let (views, shown) := heap.layers value
    if (tokenIn? views key).isSome then .ok true
    else
      match heap.objectOf? shown with
      | some object =>
        let kind := (heap.realm realm).prototypes.forObject? object
        .ok ((object.getOwn? key).isSome
          || !((heap.sharedProperty realm kind key).getD .undefined).isUndefined)
      | none => .ok false
  | _ =>
    .error (.type ("Cannot use 'in' operator to search for '" ++ key ++ "' in "
      ++ heap.textOf value))

/-- Deletes a property; values that are no objects have none to delete. -/
def delete (heap : Heap) (target : Value) (key : String) : Heap :=
  match heap.unwrap target with
  | .object ref =>
    match heap.object? ref with
    | some object => heap.replace ref (object.deleteOwn key)
    | none => heap
  | _ => heap

/-- The own keys of a value in the order of iteration. -/
def ownKeys (heap : Heap) (value : Value) : List String :=
  match heap.unwrap value with
  | .object ref => ((heap.object? ref).map Object.ownKeys).getD []
  | .text text => (List.range text.length).map indexKey
  | _ => []

/-- The error of a value that yields no items. -/
def notIterable (heap : Heap) (value : Value) : RuntimeError :=
  .type (heap.textOf value ++ " is not iterable")

/-- The items that a value yields: the characters of a text, the elements of an array. -/
def itemsOf (heap : Heap) (value : Value) : Except RuntimeError (List Value) :=
  match heap.unwrap value with
  | .text text => .ok (text.toList.map fun c => .text (String.singleton c))
  | shown =>
    match heap.elementsOf? shown with
    | some elements => .ok elements
    | none => .error (heap.notIterable value)

end Heap

end PluginSandbox.Script
