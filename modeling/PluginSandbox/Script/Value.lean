/-!
# Values

What a script computes with. Objects live on the heap, and a value only refers to one, so two
values denote the same object exactly when they are the same reference.
-/
namespace PluginSandbox.Script

/-- The place of an object on the heap. -/
structure Ref where
  /-- The index of the object. -/
  index : Nat
  deriving DecidableEq, Repr, Inhabited

/-- The place of a scope on the heap. -/
structure ScopeRef where
  /-- The index of the scope. -/
  index : Nat
  deriving DecidableEq, Repr, Inhabited

/-- The place of a realm on the heap. -/
structure RealmRef where
  /-- The index of the realm. -/
  index : Nat
  deriving DecidableEq, Repr, Inhabited

/-- A value of a script. -/
inductive Value where
  /-- The absence of a value. -/
  | undefined
  /-- The null value. -/
  | null
  /-- A truth value. -/
  | boolean (value : Bool)
  /-- A number. -/
  | number (value : Float)
  /-- A text. -/
  | text (value : String)
  /-- An object. -/
  | object (ref : Ref)
  deriving Inhabited

namespace Value

/-- Whether a value is null or undefined. -/
def isNullish : Value → Bool
  | .undefined | .null => true
  | _ => false

/-- Whether a value is undefined. -/
def isUndefined : Value → Bool
  | .undefined => true
  | _ => false

/-- Strict equality: numbers compare as numbers, objects by identity, and values of two kinds
are never equal. -/
def strictEquals : Value → Value → Bool
  | .undefined, .undefined => true
  | .null, .null => true
  | .boolean a, .boolean b => a == b
  | .number a, .number b => a == b
  | .text a, .text b => a == b
  | .object a, .object b => a == b
  | _, _ => false

/-- Strict equality, except that what is no number equals itself. -/
def sameValueZero : Value → Value → Bool
  | .number a, .number b => a == b || (a.isNaN && b.isNaN)
  | a, b => a.strictEquals b

/-- The number that a natural number is as a value. -/
def ofNat (n : Nat) : Value := .number (Float.ofNat n)

end Value

/-- The kinds of error that the interpreter raises by itself. -/
inductive ErrorKind where
  | reference | type | range | syntaxFault
  deriving DecidableEq, Repr

/-- The name of an error of a kind. -/
def ErrorKind.name : ErrorKind → String
  | .reference => "ReferenceError"
  | .type => "TypeError"
  | .range => "RangeError"
  | .syntaxFault => "SyntaxError"

end PluginSandbox.Script
