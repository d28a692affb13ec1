import PluginSandbox.Number.Notation
import PluginSandbox.Json.Value

/-!
# Scanning JSON texts

A scan reads a text from the left and keeps its place also when it fails, so that a failure can
be given the position where it was noticed. Positions count bytes: the line, and the bytes from
its start.
-/
namespace PluginSandbox.Json

/-- Why a text is refused. -/
inductive Cause where
  /-- The text ends inside an array. -/
  | endInList
  /-- The text ends inside an object. -/
  | endInObject
  /-- The text ends inside a string. -/
  | endInString
  /-- The text ends where a value is due. -/
  | endInValue
  /-- A key is not followed by a colon. -/
  | expectedColon
  /-- An item is followed by neither a comma nor the end of its array. -/
  | expectedListCommaOrEnd
  /-- A member is followed by neither a comma nor the end of its object. -/
  | expectedObjectCommaOrEnd
  /-- A word is none of the three that JSON has. -/
  | expectedIdentifier
  /-- No value starts here. -/
  | expectedValue
  /-- A backslash is followed by no escape. -/
  | invalidEscape
  /-- The digits form no number. -/
  | invalidNumber
  /-- The number exceeds every double. -/
  | numberOutOfRange
  /-- A control character stands in a string. -/
  | controlCharacter
  /-- A member starts with something other than a string. -/
  | keyMustBeString
  /-- A low surrogate has no high one before it, or a high one no low one after it. -/
  | loneSurrogate
  /-- A high surrogate is followed by no escape. -/
  | unexpectedEndOfEscape
  /-- A comma is followed by the end of its container. -/
  | trailingComma
  /-- Something follows the value. -/
  | trailingCharacters
  /-- The nesting is too deep. -/
  | tooDeep
  /-- The value is not what the reader of a record asked for. -/
  | unsuitable (message : String)

/-- The text of a cause. -/
def Cause.message : Cause → String
  | .endInList => "EOF while parsing a list"
  | .endInObject => "EOF while parsing an object"
  | .endInString => "EOF while parsing a string"
  | .endInValue => "EOF while parsing a value"
  | .expectedColon => "expected `:`"
  | .expectedListCommaOrEnd => "expected `,` or `]`"
  | .expectedObjectCommaOrEnd => "expected `,` or `\x7d`"
  | .expectedIdentifier => "expected ident"
  | .expectedValue => "expected value"
  | .invalidEscape => "invalid escape"
  | .invalidNumber => "invalid number"
  | .numberOutOfRange => "number out of range"
  | .controlCharacter => "control character (\\u0000-\\u001F) found while parsing a string"
  | .keyMustBeString => "key must be a string"
  | .loneSurrogate => "lone leading surrogate in hex escape"
  | .unexpectedEndOfEscape => "unexpected end of hex escape"
  | .trailingComma => "trailing comma"
  | .trailingCharacters => "trailing characters"
  | .tooDeep => "recursion limit exceeded"
  | .unsuitable message => message

/-- A cause, and the byte offset of its position once that is known. -/
structure Failure where
  /-- Why the text is refused. -/
  cause : Cause
  /-- Byte offset of the position. -/
  offset : Option Nat

/-- A place in a text. -/
structure Cursor where
  /-- The characters that are left. -/
  rest : List Char
  /-- How many bytes precede them. -/
  offset : Nat

/-- A reader that keeps its place when it fails. -/
abbrev Scan := ExceptT Failure (StateM Cursor)

namespace Scan

/-- Fails at the current position. -/
def failHere {α : Type} (cause : Cause) : Scan α := do
  throw ⟨cause, some (← get).offset⟩

/-- Fails at the position after the next byte. -/
def failAhead {α : Type} (cause : Cause) : Scan α := do
  let cursor ← get
  throw ⟨cause, some (if cursor.rest.isEmpty then cursor.offset else cursor.offset + 1)⟩

/-- Fails with a message whose position is still to be found. -/
def refuse {α : Type} (message : String) : Scan α :=
  throw ⟨.unsuitable message, none⟩

/-- Gives a failure without a position the place that the scan has reached. -/
def located {α : Type} (body : Scan α) : Scan α := do
  try body
  catch failure =>
    match failure.offset with
    | some _ => throw failure
    | none => throw ⟨failure.cause, some (← get).offset⟩

/-- Runs a reader and then the reader of what closes it, also when the first one failed; the
first failure counts. -/
def closedBy {α : Type} (body : Scan α) (closing : Scan Unit) : Scan α := fun cursor =>
  let (result, cursor) := body.run cursor
  let (closed, cursor) := closing.run cursor
  match result, closed with
  | .ok value, .ok _ => (.ok value, cursor)
  | .ok _, .error failure => (.error failure, cursor)
  | .error failure, _ => (.error failure, cursor)

/-- The next character. -/
def peek : Scan (Option Char) := do
  return (← get).rest.head?

/-- Moves past the next character. -/
def skip : Scan Unit :=
  modify fun cursor =>
    match cursor.rest with
    | c :: rest => ⟨rest, cursor.offset + c.utf8Size⟩
    | [] => cursor

/-- Takes the next character. -/
def next : Scan (Option Char) := do
  let c ← peek
  skip
  return c

/-- Moves past the characters of a class. -/
def skipWhile (holds : Char → Bool) : Scan Unit :=
  modify fun cursor =>
    let passed := cursor.rest.takeWhile holds
    ⟨cursor.rest.dropWhile holds, passed.foldl (fun n c => n + c.utf8Size) cursor.offset⟩

/-- Moves past the blanks between tokens and gives the next character. -/
def nextToken : Scan (Option Char) := do
  skipWhile fun c => c == ' ' || c == '\n' || c == '\t' || c == '\r'
  peek

/-- Reads the remaining letters of a word. -/
def word : List Char → Scan Unit
  | [] => pure ()
  | expected :: letters => do
    match ← peek with
    | none => failHere .endInValue
    | some c =>
      if c = expected then
        skip
        word letters
      else failAhead .expectedIdentifier

/-- Reads four hexadecimal digits. -/
def hexEscape : Scan Nat := do
  let cursor ← get
  let digits := cursor.rest.take 4
  let bytes := digits.foldl (fun n c => n + c.utf8Size) 0
  if bytes < 4 then
    set (Cursor.mk [] (cursor.offset + bytes))
    failHere .endInString
  else
    match Text.numeral? 16 digits with
    | some code =>
      set (Cursor.mk (cursor.rest.drop 4) (cursor.offset + 4))
      return code
    | none => throw ⟨.invalidEscape, some (cursor.offset + 4)⟩

/-- Reads the rest of a surrogate pair after its high half. -/
def lowSurrogate (high : Nat) : Scan Char := do
  for expected in ['\\', 'u'] do
    match ← peek with
    | none => failHere .endInString
    | some c => if c = expected then skip else failAhead .unexpectedEndOfEscape
  let low ← hexEscape
  if low < 0xDC00 || 0xDFFF < low then failHere .loneSurrogate
  return Char.ofNat ((high - 0xD800) * 0x400 + (low - 0xDC00) + 0x10000)

/-- The escapes of one letter and what they stand for. -/
def escapeLetters : List (Char × Char) :=
  [('"', '"'), ('\\', '\\'), ('/', '/'), ('b', '\x08'), ('f', '\x0c'), ('n', '\n'),
    ('r', '\r'), ('t', '\t')]

/-- Reads the rest of an escape after its backslash. -/
def escape : Scan Char := do
  match ← peek with
  | none => failHere .endInString
  | some 'u' =>
    skip
    let code ← hexEscape
    if 0xDC00 ≤ code && code ≤ 0xDFFF then failHere .loneSurrogate
    else if 0xD800 ≤ code && code ≤ 0xDBFF then lowSurrogate code
    else return Char.ofNat code
  | some letter =>
    match escapeLetters.lookup letter with
    | some c =>
      skip
      return c
    | none => failAhead .invalidEscape

/-- Reads the rest of a string after its opening quote, at most `fuel` characters and escapes;
the second argument holds the characters read before, last first. -/
def stringFrom : Nat → List Char → Scan String
  | 0, _ => failHere .endInString
  | fuel + 1, read => do
    match ← next with
    | none => failHere .endInString
    | some '"' => return String.ofList read.reverse
    | some '\\' => stringFrom fuel ((← escape) :: read)
    | some c =>
      if c.toNat < 32 then failHere .controlCharacter else stringFrom fuel (c :: read)

/-- Reads the rest of a string after its opening quote. -/
def stringBody : Scan String := do
  stringFrom ((← get).rest.length + 1) []

/-- Whether an array goes on with an item. The flag tells whether none was read before. -/
def hasItem (first : Bool) : Scan Bool := do
  match ← nextToken with
  | none => failAhead .endInList
  | some ']' => return false
  | some c =>
    if first then return true
    else if c = ',' then
      skip
      match ← nextToken with
      | some ']' => failAhead .trailingComma
      | some _ => return true
      | none => failAhead .endInValue
    else failAhead .expectedListCommaOrEnd

/-- Whether an object goes on with a member. The flag tells whether none was read before. -/
def hasMember (first : Bool) : Scan Bool := do
  match ← nextToken with
  | none => failAhead .endInObject
  | some '\x7d' => return false
  | some c =>
    if first then
      if c = '"' then return true else failAhead .keyMustBeString
    else if c = ',' then
      skip
      match ← nextToken with
      | some '"' => return true
      | some '\x7d' => failAhead .trailingComma
      | some _ => failAhead .keyMustBeString
      | none => failAhead .endInValue
    else failAhead .expectedObjectCommaOrEnd

/-- Reads the colon after a key. -/
def colon : Scan Unit := do
  match ← nextToken with
  | some ':' => skip
  | some _ => failAhead .expectedColon
  | none => failAhead .endInObject

/-- Reads the end of an array. -/
def endArray : Scan Unit := do
  match ← nextToken with
  | some ']' => skip
  | some ',' =>
    skip
    match ← nextToken with
    | some ']' => failAhead .trailingComma
    | _ => failAhead .trailingCharacters
  | some _ => failAhead .trailingCharacters
  | none => failAhead .endInList

/-- Reads the end of an object. -/
def endObject : Scan Unit := do
  match ← nextToken with
  | some '\x7d' => skip
  | some ',' => failAhead .trailingComma
  | some _ => failAhead .trailingCharacters
  | none => failAhead .endInObject

end Scan

/-- The line, and the bytes from its start, of a byte offset. -/
def lineAndColumn (offset : Nat) : List Char → Nat → Nat → Nat → Nat × Nat
  | c :: rest, position, line, lineStart =>
    if offset ≤ position then (line, offset - lineStart)
    else
      let next := position + c.utf8Size
      if c = '\n' then lineAndColumn offset rest next (line + 1) next
      else lineAndColumn offset rest next line lineStart
  | [], _, line, lineStart => (line, offset - lineStart)

/-- The text of a failure in a given text. -/
def Failure.message (text : String) (failure : Failure) : String :=
  match failure.offset with
  | none => failure.cause.message
  | some offset =>
    let (line, column) := lineAndColumn offset text.toList 0 1 0
    s!"{failure.cause.message} at line {line} column {column}"

/-- Reads a whole text with a scan. Only blanks may follow what it reads. -/
def scanAll {α : Type} (scan : Scan α) (text : String) : Except Failure α :=
  let whole : Scan α := do
    let value ← scan
    match ← Scan.nextToken with
    | some _ => Scan.failAhead .trailingCharacters
    | none => return value
  (whole.run ⟨text.toList, 0⟩).1

end PluginSandbox.Json
