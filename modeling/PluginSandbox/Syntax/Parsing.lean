import PluginSandbox.Syntax.Assembly
import PluginSandbox.Syntax.Grammar
import PluginSandbox.Text.Escaped

/-!
# Parsing

A text is first matched against the grammar and the parse tree then assembled into a syntax
tree. A text that does not match is matched a second time under observation, to find the place
to report.
-/
namespace PluginSandbox.Syntax

open Peg (Attempts)

/-- More than the depth of a search at a place without progress. -/
def searchDepth : Nat := 4096

/-- Fuel for matching a text: the search never goes deeper. -/
def fuelFor (text : String) : Nat := searchDepth * (text.length + 1)

/-- The rules in the order in which messages list them, each once. -/
def inMessageOrder (rules : List Rule) : List Rule :=
  (Rule.names.map (·.1)).filter rules.contains

/-- The problem that the attempts to match a text show. -/
def problemOf (attempts : Attempts Rule) : Problem :=
  ⟨.mismatch (inMessageOrder attempts.expected) (inMessageOrder attempts.unexpected),
    ⟨attempts.offset, attempts.offset⟩⟩

/-- The problem of a text that a rule does not match. -/
def diagnose (rule : Rule) (text : String) : Problem :=
  match grammar.recognizeRule Attempts.observe (fuelFor text) rule text .empty with
  | .failed attempts => problemOf attempts
  | _ => problemOf .empty

/-- The parse tree of a text that a rule matches. -/
def parseTree (rule : Rule) (text : String) : Except Problem (Peg.Tree Rule) :=
  match grammar.recognizeRule (fun _ _ state => state) (fuelFor text) rule text () with
  | .matched _ (tree :: _) _ => .ok tree
  | _ => .error (diagnose rule text)

/-- Reads a text as a module. -/
def parseModule (text : String) : Except Problem (List ModuleItem) := do
  let tree ← parseTree .moduleSource text
  match ← tree.fold assemble with
  | .items items => return items
  | _ => refuse tree.root 1

/-- Reads a text as a script, which is a list of statements. -/
def parseScript (text : String) : Except Problem (List Statement) := do
  let tree ← parseTree .script text
  match ← tree.fold assemble with
  | .statements statements => return statements
  | _ => refuse tree.root 1

mutual

/-- The lines that show a parse tree: a line for every node, indented by its depth. -/
def listTree (depth : Nat) : Peg.Tree Rule → List String
  | .node rule start stop children =>
    let node : Peg.Node Rule := ⟨rule, start, stop⟩
    (String.ofList (List.replicate (2 * depth) ' ') ++ rule.name ++ " => ("
      ++ toString start.offset ++ "," ++ toString stop ++ ") #" ++ Text.Escaped.encode node.text)
      :: listTrees (depth + 1) children

/-- The lines that show parse trees. -/
def listTrees (depth : Nat) : List (Peg.Tree Rule) → List String
  | [] => []
  | tree :: others => listTree depth tree ++ listTrees depth others

end

/-- Shows the parse tree of a module. -/
def listing (text : String) : Except Problem String := do
  return "\n".intercalate (listTree 0 (← parseTree .moduleSource text))

end PluginSandbox.Syntax
