import PluginSandbox.Json.Reader
import PluginSandbox.Json.Writer
import PluginSandbox.Text.Escaped

/-!
# Reading records

A record is read from an object, by the names of its fields, or from an array, by their order.
Fields may be left out when they have a default, other members are passed over, and no field
may be given twice. Each field is read as the type it has, so a value of another type is refused
where it stands.
-/
namespace PluginSandbox.Json.Scan

/-- What a message calls a number. -/
def describeNumber : Number → String
  | .integer value => s!"integer `{(Number.integer value).render}`"
  | .real value => s!"floating point `{(Number.real value).render}`"

/-- Refuses the value that comes next because something else was expected. -/
def refuseNext {α : Type} (expected : String) : Scan α := located do
  let unsuitable (found : String) : Scan α :=
    refuse s!"invalid type: {found}, expected {expected}"
  match ← peek with
  | some 'n' => do skip; word "ull".toList; unsuitable "null"
  | some 't' => do skip; word "rue".toList; unsuitable "boolean `true`"
  | some 'f' => do skip; word "alse".toList; unsuitable "boolean `false`"
  | some '-' => do skip; unsuitable (describeNumber (← number false))
  | some '"' => do skip; unsuitable ("string " ++ Text.Escaped.encode (← stringBody))
  | some '[' => unsuitable "sequence"
  | some '\x7b' => unsuitable "map"
  | some c =>
    if c.isDigit then unsuitable (describeNumber (← number true))
    else failAhead .expectedValue
  | none => failAhead .expectedValue

/-- Reads a string. -/
def text (expected : String) : Scan String := do
  match ← nextToken with
  | none => failAhead .endInValue
  | some '"' => do skip; stringBody
  | some _ => refuseNext expected

/-- Reads a truth value. -/
def flag : Scan Bool := do
  match ← nextToken with
  | none => failAhead .endInValue
  | some 't' => do skip; word "rue".toList; return true
  | some 'f' => do skip; word "alse".toList; return false
  | some _ => refuseNext "a boolean"

/-- Reads null, or a value. -/
def optional {α : Type} (body : Scan α) : Scan (Option α) := do
  match ← nextToken with
  | some 'n' => do skip; word "ull".toList; return none
  | _ => return some (← body)

/-- The names of a choice as a message lists them. -/
def listNames (names : List String) : String :=
  match names.map fun name => s!"`{name}`" with
  | [first] => first
  | [first, second] => s!"{first} or {second}"
  | quoted => "one of " ++ ", ".intercalate quoted

/-- Reads the name of an alternative. -/
def alternative {α : Type} (choices : List (String × α)) : Scan α := located do
  let name ← text "variant identifier"
  match choices.lookup name with
  | some choice => return choice
  | none =>
    refuse s!"unknown variant `{name}`, expected {listNames (choices.map Prod.fst)}"

/-- Reads one of several named alternatives: its name, or an object that maps it to null. -/
def choice {α : Type} (choices : List (String × α)) : Scan α := do
  match ← nextToken with
  | some '\x7b' =>
    skip
    let chosen ← alternative choices
    colon
    match ← nextToken with
    | none => failAhead .endInValue
    | some 'n' => do skip; word "ull".toList
    | some _ => refuseNext "unit"
    match ← nextToken with
    | some '\x7d' =>
      skip
      return chosen
    | some _ => failHere .expectedValue
    | none => failHere .endInObject
  | some '"' => alternative choices
  | some _ => failAhead .expectedValue
  | none => failAhead .endInValue

/-- Passes over the rest of a string after its opening quote, at most `fuel` characters and
escapes. -/
def skipString : Nat → Scan Unit
  | 0 => failHere .endInString
  | fuel + 1 => do
    match ← peek with
    | none => failHere .endInString
    | some '"' => skip
    | some '\\' =>
      skip
      match ← peek with
      | none => failHere .endInString
      | some 'u' => do skip; discard hexEscape
      | some letter => if escapeLetters.any (·.1 == letter) then skip else failAhead .invalidEscape
      skipString fuel
    | some c =>
      if c.toNat < 32 then failHere .controlCharacter
      else
        skip
        skipString fuel

/-- Passes over the exponent of a number, from its letter on. -/
def skipExponent : Scan Unit := do
  skip
  match ← peek with
  | some '+' | some '-' => skip
  | _ => pure ()
  match ← peek with
  | some c => if c.isDigit then skipWhile Char.isDigit else failAhead .invalidNumber
  | none => failHere .invalidNumber

/-- Passes over an unsigned number. -/
def skipNumber : Scan Unit := do
  match ← peek with
  | some '0' =>
    skip
    match ← peek with
    | some c => if c.isDigit then failAhead .invalidNumber
    | none => pure ()
  | some c => if c.isDigit then skipWhile Char.isDigit else failAhead .invalidNumber
  | none => failHere .invalidNumber
  match ← peek with
  | some '.' =>
    skip
    match ← peek with
    | some c => if c.isDigit then skipWhile Char.isDigit else failAhead .invalidNumber
    | none => failAhead .invalidNumber
    match ← peek with
    | some 'e' | some 'E' => skipExponent
    | _ => pure ()
  | some 'e' | some 'E' => skipExponent
  | _ => pure ()

/-- Passes over a key and its colon. -/
def skipKey : Scan Unit := do
  match ← nextToken with
  | some '"' => skip
  | some _ => failAhead .keyMustBeString
  | none => failAhead .endInObject
  skipString ((← remaining) + 1)
  colon

/-- Passes over the ends of containers and, at a comma, over the key after it. The list holds
the closing brackets that are due, the innermost one first; the flag tells whether a value was
passed over since the last opening bracket. The result is the list at the next value. -/
def skipClosings : Nat → List Char → Bool → Scan (List Char)
  | 0, _, _ => pure []
  | _ + 1, [], _ => pure []
  | fuel + 1, closing :: outer, passed => do
    let enter : Scan (List Char) := do
      if closing = '\x7d' then skipKey
      return closing :: outer
    match ← nextToken with
    | none => failAhead (if closing = ']' then .endInList else .endInObject)
    | some c =>
      if c = ',' && passed then
        skip
        enter
      else if c = closing then
        skip
        skipClosings fuel outer true
      else if passed then
        failAhead (if closing = ']' then .expectedListCommaOrEnd else .expectedObjectCommaOrEnd)
      else enter

/-- Passes over a value that nobody asked for, in at most `fuel` steps. The list holds the
closing brackets that are due. -/
def skipValue : Nat → List Char → Scan Unit
  | 0, _ => failAhead .endInValue
  | fuel + 1, due => do
    let after (due : List Char) (passed : Bool) : Scan Unit := do
      match ← skipClosings ((← remaining) + due.length + 1) due passed with
      | [] => pure ()
      | due => skipValue fuel due
    match ← nextToken with
    | none => failAhead .endInValue
    | some 'n' => do skip; word "ull".toList; after due true
    | some 't' => do skip; word "rue".toList; after due true
    | some 'f' => do skip; word "alse".toList; after due true
    | some '-' => do skip; skipNumber; after due true
    | some '"' => do skip; skipString ((← remaining) + 1); after due true
    | some '[' => do skip; after (']' :: due) false
    | some '\x7b' => do skip; after ('\x7d' :: due) false
    | some c =>
      if c.isDigit then do skipNumber; after due true else failAhead .expectedValue

/-- A field of a record whose values have type `α`. -/
structure Field (α : Type) where
  /-- The name under which an object holds the field. -/
  name : String
  /-- How the field is read. -/
  read : Scan α
  /-- What the field holds when it is left out, if it may be. -/
  default? : Option α

/-- Reads the fields of a record from an array, in order. -/
def recordItems {α : Type} (typeName : String) (count : Nat) :
    List (Field α) → Bool → Scan (List α)
  | [], _ => pure []
  | field :: rest, first => do
    if ← hasItem first then
      let value ← field.read
      return value :: (← recordItems typeName count rest false)
    else
      match field.default? with
      | some value => return value :: (← recordItems typeName count rest first)
      | none =>
        let plural := if count = 1 then "" else "s"
        refuse ("invalid length " ++ toString (count - (rest.length + 1)) ++ ", expected struct "
          ++ typeName ++ " with " ++ toString count ++ " element" ++ plural)

/-- Reads the members of an object into the fields of a record, at most `fuel` members. -/
def recordMembers {α : Type} (fields : List (Field α)) :
    Nat → Bool → List (String × α) → Scan (List (String × α))
  | 0, _, read => pure read
  | fuel + 1, first, read => do
    if ← hasMember first then
      skip
      let key ← stringBody
      match fields.find? (·.name == key) with
      | some field =>
        if (read.lookup key).isSome then refuse s!"duplicate field `{key}`"
        else
          colon
          let value ← field.read
          recordMembers fields fuel false ((key, value) :: read)
      | none =>
        colon
        skipValue ((← remaining) + 1) []
        recordMembers fields fuel false read
    else return read

/-- The values of the fields in order, each as it was read or by default. -/
def fillIn {α : Type} (read : List (String × α)) : List (Field α) → Scan (List α)
  | [] => pure []
  | field :: rest => do
    match read.lookup field.name <|> field.default? with
    | some value => return value :: (← fillIn read rest)
    | none => refuse s!"missing field `{field.name}`"

/-- Reads a record and gives the values of its fields in order. -/
def record {α : Type} (typeName : String) (fields : List (Field α)) : Scan (List α) := located do
  match ← nextToken with
  | none => failAhead .endInValue
  | some '[' =>
    skip
    closedBy (recordItems typeName fields.length fields true) endArray
  | some '\x7b' =>
    skip
    closedBy (do fillIn (← recordMembers fields ((← remaining) + 1) true []) fields) endObject
  | some _ => refuseNext s!"struct {typeName}"

end PluginSandbox.Json.Scan
