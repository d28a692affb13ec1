import PluginSandbox.Syntax.Rule
import PluginSandbox.Syntax.Tree
import PluginSandbox.Text.Lines

/-!
# Problems of a text

A text that is no script or module has a problem: what is wrong and where. The full report of
a problem shows the line with the place marked.
-/
namespace PluginSandbox.Syntax

/-- What is wrong with a text. -/
inductive Fault where
  /-- The grammar asks for other things. -/
  | mismatch (expected unexpected : List Rule)
  /-- A constant has no value. -/
  | missingInitializer
  /-- An assignment writes to something that cannot be written. -/
  | invalidAssignment
  /-- A change by one before its operand writes to something that cannot be written. -/
  | invalidPrefixUpdate
  /-- A change by one after its operand writes to something that cannot be written. -/
  | invalidPostfixUpdate
  /-- The text of a rule has no meaning; the number tells where that was found. -/
  | meaningless (rule : Rule) (state : Nat)
  deriving DecidableEq, Repr

/-- The names of rules as a message lists them. -/
def listRules : List Rule → String
  | [] => ""
  | [rule] => rule.name
  | [first, second] => first.name ++ " or " ++ second.name
  | rules =>
    ", ".intercalate (rules.dropLast.map Rule.name) ++ ", or "
      ++ ((rules.getLast?.map Rule.name).getD "")

/-- The text of a fault. -/
def Fault.message : Fault → String
  | .mismatch [] [] => "unknown parsing error"
  | .mismatch expected [] => "expected " ++ listRules expected
  | .mismatch [] unexpected => "unexpected " ++ listRules unexpected
  | .mismatch expected unexpected =>
    "unexpected " ++ listRules unexpected ++ "; expected " ++ listRules expected
  | .missingInitializer => "Missing initializer in const declaration"
  | .invalidAssignment => "Invalid left-hand side in assignment"
  | .invalidPrefixUpdate => "Invalid left-hand side expression in prefix operation"
  | .invalidPostfixUpdate => "Invalid left-hand side expression in postfix operation"
  | .meaningless rule state =>
    "Unexpected state reached [" ++ rule.name ++ "] - " ++ toString state

/-- Whether the grammar itself refuses the text. -/
def Fault.isMismatch : Fault → Bool
  | .mismatch .. => true
  | _ => false

/-- A fault and the part of the text that has it. -/
structure Problem where
  /-- What is wrong. -/
  fault : Fault
  /-- The part of the text; a mismatch has a place, which is an empty part. -/
  span : Span
  deriving DecidableEq, Repr

namespace Problem

/-- The line and the column where a problem starts. -/
def startPosition (problem : Problem) (text : List Char) : Nat × Nat :=
  Text.lineColumn text problem.span.start

/-- The line and the column where a problem ends. An end at the start of a line counts as the
end of the line before it. -/
def stopPosition (problem : Problem) (text : List Char) : Nat × Nat :=
  let stop := Text.lineColumn text problem.span.stop
  if stop.2 = 1 then
    let (before, _) := Text.splitAt problem.span.stop [] text
    let back := match before with
      | c :: _ => c.utf8Size
      | [] => 0
    let (line, column) := Text.lineColumn text (problem.span.stop - back)
    (line, column + 1)
  else stop

/-- The blanks under the given number of characters of a line, with its tabs. -/
def indentation (count : Nat) (line : List Char) : List Char :=
  (line.take count).map fun c => if c = '\t' then '\t' else ' '

/-- The mark under a part that starts and ends in the given columns. -/
def underline (start stop : Nat) : String :=
  if stop - start ≤ 1 then "^"
  else "^" ++ String.ofList (List.replicate (stop - start - 2) '-') ++ "^"

/-- The first column of a mark and the column after it. -/
def markedColumns (start stop : Nat) : Nat × Nat :=
  if start > stop then (stop - 1, start + 1) else (start, stop)

/-- The text of a number with blanks before it up to the given width. -/
def padded (width n : Nat) : String :=
  let digits := toString n
  String.ofList (List.replicate (width - digits.length) ' ') ++ digits

/-- Whether a character ends a line or precedes such a character. -/
def isLineEnd (c : Char) : Bool := c == '\n' || c == '\r'

/-- The report of a problem at a place. -/
def renderPlace (problem : Problem) (text : List Char) : String :=
  let (number, column) := problem.startPosition text
  let atLineEnd := (Text.splitAt problem.span.start [] text).2.head?.any isLineEnd
  let line := Text.lineAround text problem.span.start
  let shown := if atLineEnd then Text.showLineEnds line else line.filter (!isLineEnd ·)
  let gutter := String.ofList (List.replicate (toString number).length ' ')
  "\n".intercalate
    [gutter ++ "--> " ++ toString number ++ ":" ++ toString column, gutter ++ " |",
      toString number ++ " | " ++ String.ofList shown,
      gutter ++ " | " ++ String.ofList (indentation (column - 1) shown) ++ "^---",
      gutter ++ " |", gutter ++ " = " ++ problem.fault.message]

/-- The report of a problem of a part of the text. -/
def renderSpan (problem : Problem) (text : List Char) : String :=
  let (startLine, startColumn) := problem.startPosition text
  let (stopLine, stopColumn) := problem.stopPosition text
  let first := Text.lineAround text problem.span.start
  let part := Text.slice problem.span.start problem.span.stop text
  let atLineEnd := part.head?.any isLineEnd || part.getLast?.any isLineEnd
  let shown := if atLineEnd then Text.showLineEnds first else first.filter (!isLineEnd ·)
  let width := (toString (max startLine stopLine)).length
  let gutter := String.ofList (List.replicate width ' ')
  let (start, stop) := markedColumns startColumn stopColumn
  let further := match Text.lastLine? text problem.span.start problem.span.stop with
    | some last =>
      (if stopLine - startLine > 1 then [gutter ++ " | ..."] else [])
        ++ [padded width stopLine ++ " | "
          ++ String.ofList (if atLineEnd then last else Text.showLineEnds last)]
    | none => []
  "\n".intercalate
    ([gutter ++ "--> " ++ toString startLine ++ ":" ++ toString startColumn, gutter ++ " |",
      padded width startLine ++ " | " ++ String.ofList shown]
      ++ further
      ++ [gutter ++ " | " ++ String.ofList (indentation (start - 1) shown) ++ underline start stop,
        gutter ++ " |", gutter ++ " = " ++ problem.fault.message])

/-- The report of a problem of a text. -/
def render (problem : Problem) (text : String) : String :=
  if problem.fault.isMismatch then problem.renderPlace text.toList
  else problem.renderSpan text.toList

end Problem

end PluginSandbox.Syntax
