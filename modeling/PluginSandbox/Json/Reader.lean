import PluginSandbox.Json.Numeral

/-!
# Reading JSON

A text is read as one value with blanks around it. Arrays and objects nest at most 127 deep. A
key that occurs twice keeps its first place and its last value.
-/
namespace PluginSandbox.Json

namespace Scan

/-- Reads the items of an array after its bracket, at most `fuel` of them. -/
def items {α : Type} (item : Scan α) : Nat → Bool → List α → Scan (List α)
  | 0, _, read => pure read.reverse
  | fuel + 1, first, read => do
    if ← hasItem first then items item fuel false ((← item) :: read) else return read.reverse

/-- Reads the members of an object after its bracket, at most `fuel` of them. -/
def members (value : Scan Json) :
    Nat → Bool → List (String × Json) → Scan (List (String × Json))
  | 0, _, read => pure read
  | fuel + 1, first, read => do
    if ← hasMember first then
      skip
      let key ← stringBody
      colon
      members value fuel false (insertMember key (← value) read)
    else return read

/-- Reads a value whose items and members are read by `nested`; without that reader it may be
neither an array nor an object. -/
def valueAround (nested : Option (Scan Json)) : Scan Json := do
  match ← nextToken with
  | none => failAhead .endInValue
  | some 'n' => do skip; word "ull".toList; return .null
  | some 't' => do skip; word "rue".toList; return .boolean true
  | some 'f' => do skip; word "alse".toList; return .boolean false
  | some '-' => do skip; return .number (← number false)
  | some '"' => do skip; return .text (← stringBody)
  | some '[' =>
    match nested with
    | none => failAhead .tooDeep
    | some inner =>
      skip
      return .array (← closedBy (do items inner ((← remaining) + 1) true []) endArray)
  | some '\x7b' =>
    match nested with
    | none => failAhead .tooDeep
    | some inner =>
      skip
      return .object (← closedBy (do members inner ((← remaining) + 1) true []) endObject)
  | some c =>
    if c.isDigit then return .number (← number true) else failAhead .expectedValue

/-- Reads a value in which arrays and objects nest at most `levels` deep. -/
def value : Nat → Scan Json
  | 0 => valueAround none
  | levels + 1 => valueAround (some (value levels))

end Scan

/-- How deep arrays and objects may nest. -/
def maximumDepth : Nat := 127

/-- Reads a text as one JSON value. -/
def parse (text : String) : Except Failure Json :=
  scanAll (Scan.value maximumDepth) text

end PluginSandbox.Json
