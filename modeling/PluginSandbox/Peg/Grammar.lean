/-!
# Parsing expression grammars

A grammar gives every rule a parsing expression. Expressions are tried in the order in which
they are written and never give up a part that they have matched, so a text has at most one
parse tree. A rule also says whether blanks are passed over between the parts of its
expression and whether it shows as a node of the tree.
-/
namespace PluginSandbox.Peg

/-- A parsing expression over the rules `ρ`. -/
inductive Expression (ρ : Type) where
  /-- Exactly these characters. -/
  | literal (characters : List Char)
  /-- One character of a class. -/
  | oneOf (holds : Char → Bool)
  /-- The start of the text. -/
  | atStart
  /-- The end of the text. -/
  | atEnd
  /-- Whatever a rule matches. -/
  | call (rule : ρ)
  /-- One expression and then, after blanks if the rule passes over them, another. -/
  | seq (first second : Expression ρ)
  /-- The first of two expressions that matches. -/
  | choice (first second : Expression ρ)
  /-- An expression as often as it matches. -/
  | many (body : Expression ρ)
  /-- An expression if it matches. -/
  | maybe (body : Expression ρ)
  /-- Nothing, where the expression would match. -/
  | ahead (body : Expression ρ)
  /-- Nothing, where the expression would not match. -/
  | notAhead (body : Expression ρ)

/-- How a rule treats blanks and whether it shows in the tree. -/
inductive RuleKind where
  /-- It is a node and treats blanks as its surroundings do. -/
  | plain
  /-- It is no node and treats blanks as its surroundings do. -/
  | hidden
  /-- It is a node without children, and no blanks are passed over. -/
  | atomic
  /-- It is a node, and no blanks are passed over. -/
  | compact
  /-- It is a node, and blanks are passed over. -/
  | spaced
  deriving DecidableEq, Repr

/-- A place in a text: the characters from it on and how many bytes precede it. -/
structure Place where
  /-- The characters from the place on. -/
  rest : List Char
  /-- The bytes before the place. -/
  offset : Nat
  deriving DecidableEq, Repr, Inhabited

/-- The start of a text. -/
def Place.start (text : String) : Place := ⟨text.toList, 0⟩

/-- The place after the next character. -/
def Place.next : Place → Option (Char × Place)
  | ⟨[], _⟩ => none
  | ⟨c :: rest, offset⟩ => some (c, ⟨rest, offset + c.utf8Size⟩)

/-- The place after the given characters, if they come next. -/
def Place.after? : List Char → Place → Option Place
  | [], place => some place
  | c :: others, place =>
    match place.next with
    | some (d, place) => if c = d then Place.after? others place else none
    | none => none

/-- A grammar over the rules `ρ`. -/
structure Grammar (ρ : Type) where
  /-- How each rule treats blanks and whether it shows. -/
  kind : ρ → RuleKind
  /-- The expression of each rule. -/
  body : ρ → Expression ρ
  /-- The place after the blanks that start here. -/
  skipBlanks : Place → Place

namespace Expression

variable {ρ : Type}

instance : Coe String (Expression ρ) := ⟨fun text => .literal text.toList⟩

instance : Coe ρ (Expression ρ) := ⟨.call⟩

/-- Expressions one after another. -/
def inOrder : List (Expression ρ) → Expression ρ
  | [] => .literal []
  | [e] => e
  | e :: others => .seq e (inOrder others)

/-- The first of several expressions that matches. -/
def firstOf : List (Expression ρ) → Expression ρ
  | [] => .notAhead (.literal [])
  | [e] => e
  | e :: others => .choice e (firstOf others)

/-- An expression as often as it matches, but at least once. -/
def atLeastOnce (body : Expression ρ) : Expression ρ := .seq body (.many body)

/-- Several matches of an expression with a separator between them. -/
def separated (separator body : Expression ρ) : Expression ρ :=
  .seq body (.many (.seq separator body))

/-- Any character. -/
def anyChar : Expression ρ := .oneOf fun _ => true

end Expression

end PluginSandbox.Peg
