import PluginSandbox.Text.Bytes

/-!
# Lines

Lines and columns of a text count from one, and a column counts characters. A line keeps the
line feed that ends it. A carriage return counts as a character of its line unless a line feed
follows it.
-/
namespace PluginSandbox.Text

/-- The line and the column after so many bytes of a text, from the given ones on. -/
def advance : Nat → Nat × Nat → List Char → Nat × Nat
  | 0, at_, _ => at_
  | _, at_, [] => at_
  | 1, (line, column), '\r' :: _ => (line, column + 1)
  | bytes, (line, _), '\r' :: '\n' :: rest => advance (bytes - 2) (line + 1, 1) rest
  | bytes, (line, column), c :: rest =>
    advance (bytes - c.utf8Size) (if c = '\n' then (line + 1, 1) else (line, column + 1)) rest

/-- The line and the column of a byte offset in a text. -/
def lineColumn (text : List Char) (offset : Nat) : Nat × Nat := advance offset (1, 1) text

/-- The rest of a line, with the line feed that ends it. -/
def lineEnd : List Char → List Char
  | [] => []
  | c :: rest => if c = '\n' then ['\n'] else c :: lineEnd rest

/-- The line around a byte offset. -/
def lineAround (text : List Char) (offset : Nat) : List Char :=
  let (before, rest) := splitAt offset [] text
  (before.takeWhile (· ≠ '\n')).reverse ++ lineEnd rest

/-- The line that holds the last character of a part of a text, if it is not the line in which
the part starts. -/
def lastLine? (text : List Char) (start stop : Nat) : Option (List Char) :=
  match (slice start stop text).reverse with
  | last :: before =>
    if before.contains '\n' then some (lineAround text (stop - last.utf8Size)) else none
  | [] => none

/-- The characters with visible signs in place of line feeds and carriage returns. -/
def showLineEnds (chars : List Char) : List Char :=
  chars.map fun c => if c = '\n' then '␊' else if c = '\r' then '␍' else c

end PluginSandbox.Text
