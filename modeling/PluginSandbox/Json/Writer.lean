import PluginSandbox.Json.Value
import PluginSandbox.Number.Notation
import PluginSandbox.Text.Quoted

/-!
# Writing JSON

The compact form has no blanks. The indented form puts every item and member on a line of its
own, one unit of indentation deeper than its container; empty containers stay closed.
-/
namespace PluginSandbox.Json

/-- The text of a number. A number that is not finite has none and is written as null. -/
def Number.render : Number → String
  | .integer value =>
    PluginSandbox.Number.signed (value < 0) (PluginSandbox.Number.digitsOf value.natAbs)
  | .real value =>
    match PluginSandbox.Number.parts value with
    | .finite parts => parts.jsonText
    | _ => "null"

mutual

/-- The compact text of a value. -/
def compact : Json → String
  | .null => "null"
  | .boolean value => if value then "true" else "false"
  | .number value => value.render
  | .text value => Text.Quoted.encode value
  | .array items => "[" ++ ",".intercalate (compactItems items) ++ "]"
  | .object members => "\x7b" ++ ",".intercalate (compactMembers members) ++ "\x7d"

/-- The compact texts of the items of an array. -/
def compactItems : List Json → List String
  | [] => []
  | item :: rest => compact item :: compactItems rest

/-- The compact texts of the members of an object. -/
def compactMembers : List (String × Json) → List String
  | [] => []
  | (key, value) :: rest =>
    (Text.Quoted.encode key ++ ":" ++ compact value) :: compactMembers rest

end

/-- The lines of a container between its brackets, one unit of indentation deeper. -/
def bracketed (unit margin opening closing : String) : List String → String
  | [] => opening ++ closing
  | lines =>
    let inner := "\n" ++ margin ++ unit
    opening ++ inner ++ ("," ++ inner).intercalate lines ++ "\n" ++ margin ++ closing

mutual

/-- The indented text of a value whose lines start with the given margin. -/
def indentedFrom (unit margin : String) : Json → String
  | .array items => bracketed unit margin "[" "]" (indentedItems unit (margin ++ unit) items)
  | .object members =>
    bracketed unit margin "\x7b" "\x7d" (indentedMembers unit (margin ++ unit) members)
  | json => compact json

/-- The indented texts of the items of an array. -/
def indentedItems (unit margin : String) : List Json → List String
  | [] => []
  | item :: rest => indentedFrom unit margin item :: indentedItems unit margin rest

/-- The indented texts of the members of an object. -/
def indentedMembers (unit margin : String) : List (String × Json) → List String
  | [] => []
  | (key, value) :: rest =>
    (Text.Quoted.encode key ++ ": " ++ indentedFrom unit margin value)
      :: indentedMembers unit margin rest

end

/-- The indented text of a value. -/
def indented (unit : String) (json : Json) : String := indentedFrom unit "" json

end PluginSandbox.Json
