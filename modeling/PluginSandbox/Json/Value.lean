import PluginSandbox.Number.Parts

/-!
# JSON values

A document is a tree of values. Objects keep their members in the order of the text, with one
member for each key: a later value replaces an earlier one in its place.
-/
namespace PluginSandbox

/-- A number of a JSON document. -/
inductive Json.Number where
  /-- A whole number of at most 64 bits, written without a fraction or an exponent. -/
  | integer (value : Int)
  /-- Any other number. -/
  | real (value : Float)

/-- A JSON document. -/
inductive Json where
  /-- The null value. -/
  | null
  /-- A truth value. -/
  | boolean (value : Bool)
  /-- A number. -/
  | number (value : Json.Number)
  /-- A text. -/
  | text (value : String)
  /-- An array. -/
  | array (items : List Json)
  /-- An object. -/
  | object (members : List (String × Json))

namespace Json

instance : Inhabited Json := ⟨.null⟩

/-- The double that a number stands for. -/
def Number.toFloat : Number → Float
  | .integer value => PluginSandbox.Number.ofInt value
  | .real value => value

/-- The members with one more at the end, or with the value of its key replaced. -/
def insertMember (key : String) (value : Json) :
    List (String × Json) → List (String × Json)
  | [] => [(key, value)]
  | (other, old) :: rest =>
    if other = key then (key, value) :: rest else (other, old) :: insertMember key value rest

/-- The value that an object holds under a key. -/
def member? (json : Json) (key : String) : Option Json :=
  match json with
  | .object members => members.lookup key
  | _ => none

end Json

end PluginSandbox
