import PluginSandbox.Number.Reading
import PluginSandbox.Script.Value

/-!
# Properties

A table of properties keeps its keys in the order in which they were first written; writing a
key again leaves it in its place, and a key that is deleted and written again comes last. Keys
that are the canonical numeral of an index address the elements of an array instead.
-/
namespace PluginSandbox.Script

/-- An ordered table of properties. -/
structure Properties where
  /-- The keys with their values, oldest key first. -/
  entries : List (String × Value) := []
  deriving Inhabited

namespace Properties

/-- The value of a key. -/
def get? (properties : Properties) (key : String) : Option Value :=
  properties.entries.lookup key

/-- Whether a key is present. -/
def contains (properties : Properties) (key : String) : Bool :=
  (properties.get? key).isSome

/-- The keys in order. -/
def keys (properties : Properties) : List String := properties.entries.map (·.1)

/-- The entries with the value of a key replaced, or with a new entry at the end. -/
def insertEntry (key : String) (value : Value) :
    List (String × Value) → List (String × Value)
  | [] => [(key, value)]
  | (other, old) :: rest =>
    if other = key then (key, value) :: rest else (other, old) :: insertEntry key value rest

/-- The table with a key written. -/
def set (properties : Properties) (key : String) (value : Value) : Properties :=
  ⟨insertEntry key value properties.entries⟩

/-- The table without a key. -/
def erase (properties : Properties) (key : String) : Properties :=
  ⟨properties.entries.filter fun entry => entry.1 ≠ key⟩

/-- The table that entries written in order make. -/
def ofEntries (entries : List (String × Value)) : Properties :=
  entries.foldl (fun properties entry => properties.set entry.1 entry.2) {}

end Properties

/-- One more than the greatest index. -/
def indexBound : Nat := 1 <<< 32 - 1

/-- The index that a key addresses: a decimal numeral without superfluous zeros, below
`indexBound`. -/
def arrayIndex? (key : String) : Option Nat :=
  let digits := key.toList
  if digits.isEmpty || !digits.all Number.isDigit then none
  else if 1 < digits.length && digits.head? == some '0' then none
  else
    let index := Number.ofDigits digits
    if index < indexBound then some index else none

/-- The key of an index. -/
def indexKey (index : Nat) : String := String.ofList (Number.digitsOf index)

end PluginSandbox.Script
