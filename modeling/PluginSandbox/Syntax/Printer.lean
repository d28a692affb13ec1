import PluginSandbox.Number.Notation
import PluginSandbox.Syntax.Tree
import PluginSandbox.Text.Quoted

/-!
# Printing syntax trees

Trees are printed in one layout: one statement on a line, two blanks for each level of nesting,
and the bodies of branches and loops always in braces. Parentheses stand only where the
strengths of operators, or the beginning of a statement or of an arrow body, ask for them.
-/
namespace PluginSandbox.Syntax

/-- The blanks at the start of a line. -/
def margin (depth : Nat) : String := String.ofList (List.replicate (2 * depth) ' ')

/-- A line of text. -/
def line (depth : Nat) (text : String) : String := margin depth ++ text ++ "\n"

/-- Texts with commas between them. -/
def commaList (texts : List String) : String := ", ".intercalate texts

/-- Strength of an assignment or an arrow function. -/
def assignmentStrength : Nat := 1

/-- Strength of a choice between two expressions. -/
def conditionalStrength : Nat := 2

/-- Strength of an operator before its operand. -/
def unaryStrength : Nat := 15

/-- Strength of a change by one. -/
def updateStrength : Nat := 16

/-- Strength of a call or a property. -/
def callStrength : Nat := 17

/-- Strength of everything that needs no parentheses. -/
def primaryStrength : Nat := 18

/-- How tightly the outermost operation of an expression binds. -/
def Expr.strength : Expr → Nat
  | .assign .. | .arrow .. => assignmentStrength
  | .conditional .. => conditionalStrength
  | .logical operator .. => operator.strength
  | .binary operator .. => operator.strength
  | .unary .. | .await .. => unaryStrength
  | .update .. => updateStrength
  | .call .. | .new .. | .member .. | .index .. => callStrength
  | _ => primaryStrength

/-- The text of an expression in parentheses. -/
def parenthesized (text : String) : String := "(" ++ text ++ ")"

/-- The text of an expression where at least the given strength is needed. -/
def Expr.atLeast (needed : Nat) (e : Expr) (text : String) : String :=
  if e.strength < needed then parenthesized text else text

/-- The text of an expression before a dot, a bracket or an argument list. A number would take
the dot for its own. -/
def Expr.asObject (e : Expr) (text : String) : String :=
  match e with
  | .literal (.number _) => parenthesized text
  | _ => e.atLeast callStrength text

/-- Whether an expression, followed through its objects, contains a call. -/
def Expr.containsCall : Expr → Bool
  | .call .. => true
  | .member base _ _ | .index base _ _ => base.containsCall
  | _ => false

/-- The expression that the text of an expression starts with. -/
def Expr.leftmost : Expr → Expr
  | .binary _ left _ | .logical _ left _ | .assign _ left _ => left.leftmost
  | .conditional test _ _ => test.leftmost
  | .call callee _ _ => callee.leftmost
  | .member base _ _ | .index base _ _ => base.leftmost
  | .update _ false target => target.leftmost
  | e => e

/-- Whether an expression would be taken for another statement at the beginning of one. -/
def Expr.needsStatementParens (e : Expr) : Bool :=
  match e.leftmost with
  | .object .. | .function .. => true
  | _ => false

/-- Whether an expression would be taken for a block at the beginning of an arrow body. -/
def Expr.isObject : Expr → Bool
  | .object .. => true
  | _ => false

/-- Whether an expression is a nullish operation. -/
def Expr.isNullish : Expr → Bool
  | .logical .nullish _ _ => true
  | _ => false

/-- The text of a constant. -/
def Literal.render : Literal → String
  | .null => "null"
  | .boolean value => if value then "true" else "false"
  | .text value => Text.Quoted.encode value
  | .number value => Number.toText value

/-- The characters of a piece of a template. -/
def escapeTemplateChars : List Char → List Char
  | [] => []
  | '\\' :: rest => '\\' :: '\\' :: escapeTemplateChars rest
  | '\x60' :: rest => '\\' :: '\x60' :: escapeTemplateChars rest
  | '$' :: '\x7b' :: rest => '\\' :: '$' :: '\x7b' :: escapeTemplateChars rest
  | c :: rest => c :: escapeTemplateChars rest

/-- The text of a piece of a template. -/
def escapeTemplate (piece : String) : String :=
  String.ofList (escapeTemplateChars piece.toList)

/-- The body of a template: its pieces with the texts of its expressions between them. -/
def templateBody : List String → List String → String
  | [], _ => ""
  | piece :: pieces, [] => escapeTemplate piece ++ templateBody pieces []
  | piece :: pieces, text :: texts =>
    escapeTemplate piece ++ "$\x7b" ++ text ++ "\x7d" ++ templateBody pieces texts

/-- Whether a character may start an identifier. -/
def isIdentifierStart (c : Char) : Bool := c.isAlpha || c == '_' || c == '$'

/-- Whether a character may go on an identifier. -/
def isIdentifierChar (c : Char) : Bool := c.isAlphanum || c == '_' || c == '$'

/-- Whether a text has the form of an identifier, a reserved word included. -/
def isIdentifierName (name : String) : Bool :=
  match name.toList with
  | c :: rest => isIdentifierStart c && rest.all isIdentifierChar
  | [] => false

/-- Whether a text is a run of decimal digits without a superfluous zero. -/
def isCanonicalIndex (name : String) : Bool :=
  match name.toList with
  | [] => false
  | ['0'] => true
  | '0' :: _ => false
  | digits => digits.all Char.isDigit

/-- The text of a fixed key. -/
def renderFixedKey (name : String) : String :=
  if isIdentifierName name || isCanonicalIndex name then name else Text.Quoted.encode name

/-- The text of an operator before its operand. A sign before the same sign would be taken for
a change by one. -/
def renderUnary (operator : UnaryOperator) (operand : String) : String :=
  if operator.isWord then operator.spelling ++ " " ++ operand
  else if (operator = .minus ∨ operator = .plus) ∧ operator.spelling.isPrefixOf operand then
    operator.spelling ++ parenthesized operand
  else operator.spelling ++ operand

/-- The text of an operator between two operands. The left operand of a power must be no unary
operation. -/
def renderBinary (operator : BinaryOperator) (left right : Expr) (leftText rightText : String) :
    String :=
  let (leftNeed, rightNeed) :=
    if operator = .exponent then (unaryStrength + 1, operator.strength)
    else (operator.strength, operator.strength + 1)
  left.atLeast leftNeed leftText ++ " " ++ operator.spelling ++ " "
    ++ right.atLeast rightNeed rightText

/-- The text of an operator that may leave out its second operand. A nullish operation and the
other two do not mix without parentheses. -/
def renderLogical (operator : LogicalOperator) (left right : Expr)
    (leftText rightText : String) : String :=
  let (leftNeed, rightNeed) :=
    if operator = .nullish then
      (LogicalOperator.strength .nullish + 3, LogicalOperator.strength .nullish + 3)
    else (operator.strength, operator.strength + 1)
  let leftText :=
    if operator ≠ .nullish ∧ left.isNullish then parenthesized leftText
    else left.atLeast leftNeed leftText
  let rightText :=
    if right.isNullish then parenthesized rightText else right.atLeast rightNeed rightText
  leftText ++ " " ++ operator.spelling ++ " " ++ rightText

/-- The text of a function from the texts of its parameters and its body. -/
def renderFunction (name : Option String) (isAsync isArrow : Bool)
    (parameters body : String) : String :=
  let start := if isAsync then "async " else ""
  if isArrow then start ++ parenthesized parameters ++ " => " ++ body
  else
    let name :=
      match name with
      | some name => " " ++ name
      | none => ""
    start ++ "function" ++ name ++ parenthesized parameters ++ " " ++ body

/-- The text of a list in braces. -/
def braced (texts : List String) : String :=
  if texts.isEmpty then "\x7b\x7d" else "\x7b " ++ commaList texts ++ " \x7d"

/-- The lines of a block from the lines of its body, without the end of the last line. -/
def blockLines (depth : Nat) (head body : String) : String :=
  line depth (head ++ "\x7b") ++ body ++ margin depth ++ "\x7d"

mutual

/-- The text of an expression, without parentheses around it. -/
def Expr.render (depth : Nat) : Expr → String
  | .literal value => value.render
  | .identifier name => name
  | .this => "this"
  | .template quasis expressions =>
    "`" ++ templateBody quasis (Expr.renderAll depth expressions) ++ "`"
  | .array elements => "[" ++ commaList (Element.renderAll depth elements) ++ "]"
  | .object properties => braced (Property.renderAll depth properties)
  | .function definition | .arrow definition => definition.render depth
  | .unary operator operand =>
    renderUnary operator (operand.atLeast unaryStrength (operand.render depth))
  | .update operator isPrefix target =>
    let text := target.atLeast callStrength (target.render depth)
    if isPrefix then operator.spelling ++ text else text ++ operator.spelling
  | .binary operator left right =>
    renderBinary operator left right (left.render depth) (right.render depth)
  | .logical operator left right =>
    renderLogical operator left right (left.render depth) (right.render depth)
  | .assign operator target value =>
    target.atLeast callStrength (target.render depth) ++ " " ++ operator.spelling ++ " "
      ++ value.render depth
  | .conditional test whenTrue whenFalse =>
    test.atLeast (LogicalOperator.strength .nullish) (test.render depth) ++ " ? "
      ++ whenTrue.render depth ++ " : " ++ whenFalse.render depth
  | .call callee arguments optional =>
    callee.asObject (callee.render depth) ++ (if optional then "?." else "")
      ++ parenthesized (commaList (Element.renderAll depth arguments))
  | .new callee arguments =>
    let text := callee.render depth
    "new " ++ (if callee.containsCall then parenthesized text else callee.asObject text)
      ++ parenthesized (commaList (Element.renderAll depth arguments))
  | .member base name optional =>
    base.asObject (base.render depth) ++ (if optional then "?." else ".") ++ name
  | .index base key optional =>
    base.asObject (base.render depth) ++ (if optional then "?." else "")
      ++ "[" ++ key.render depth ++ "]"
  | .await operand => "await " ++ operand.atLeast unaryStrength (operand.render depth)

/-- The texts of expressions. -/
def Expr.renderAll (depth : Nat) : List Expr → List String
  | [] => []
  | e :: others => e.render depth :: Expr.renderAll depth others

/-- The texts of the items of a list. -/
def Element.renderAll (depth : Nat) : List Element → List String
  | [] => []
  | .item value :: others => value.render depth :: Element.renderAll depth others
  | .spread source :: others =>
    ("..." ++ source.render depth) :: Element.renderAll depth others

/-- The text of a key. -/
def PropertyKey.render (depth : Nat) : PropertyKey → String
  | .fixed name => renderFixedKey name
  | .computed key => "[" ++ key.render depth ++ "]"

/-- The texts of the properties of an object expression. -/
def Property.renderAll (depth : Nat) : List Property → List String
  | [] => []
  | .init _ (.identifier name) true :: others => name :: Property.renderAll depth others
  | .init key value _ :: others =>
    (key.render depth ++ ": " ++ value.render depth) :: Property.renderAll depth others
  | .method key (.mk _ parameters rest body isAsync _) :: others =>
    ((if isAsync then "async " else "") ++ key.render depth
      ++ parenthesized
        (commaList (Pattern.renderAll depth parameters ++ Pattern.renderRest depth rest))
      ++ " " ++ body.render depth false) :: Property.renderAll depth others
  | .spread source :: others =>
    ("..." ++ source.render depth) :: Property.renderAll depth others

/-- The text of a function. -/
def Function.render (depth : Nat) : Function → String
  | .mk name parameters rest body isAsync isArrow =>
    renderFunction name isAsync isArrow
      (commaList (Pattern.renderAll depth parameters ++ Pattern.renderRest depth rest))
      (body.render depth isArrow)

/-- The text of a function body, of an arrow function or of another one. -/
def FunctionBody.render (depth : Nat) (isArrow : Bool) : FunctionBody → String
  | .block [] => "\x7b\x7d"
  | .block statements =>
    "\x7b\n" ++ Statement.renderAll (depth + 1) statements ++ margin depth ++ "\x7d"
  | .expression value =>
    let text := value.render depth
    if !isArrow then "\x7b return " ++ text ++ "; \x7d"
    else if value.isObject then parenthesized text
    else text

/-- The text of a pattern. -/
def Pattern.render (depth : Nat) : Pattern → String
  | .identifier name => name
  | .object properties rest =>
    braced (PatternProperty.renderAll depth properties ++ Pattern.renderRest depth rest)
  | .array elements rest =>
    "[" ++ commaList (Pattern.renderAll depth elements ++ Pattern.renderRest depth rest) ++ "]"
  | .withDefault target value => target.render depth ++ " = " ++ value.render depth

/-- The text of a pattern for what remains. -/
def Pattern.renderRest (depth : Nat) : Option Pattern → List String
  | none => []
  | some pattern => ["..." ++ pattern.render depth]

/-- The texts of patterns. -/
def Pattern.renderAll (depth : Nat) : List Pattern → List String
  | [] => []
  | pattern :: others => pattern.render depth :: Pattern.renderAll depth others

/-- The texts of the properties of a pattern. -/
def PatternProperty.renderAll (depth : Nat) : List PatternProperty → List String
  | [] => []
  | .mk _ value true :: others => value.render depth :: PatternProperty.renderAll depth others
  | .mk key value false :: others =>
    (key.render depth ++ ": " ++ value.render depth) :: PatternProperty.renderAll depth others

/-- The text of a declaration of variables. -/
def VariableDeclaration.render (depth : Nat) : VariableDeclaration → String
  | .mk kind declarators =>
    kind.spelling ++ " " ++ commaList (Declarator.renderAll depth declarators)

/-- The texts of the variables of a declaration. -/
def Declarator.renderAll (depth : Nat) : List Declarator → List String
  | [] => []
  | .mk target (some initial) :: others =>
    (target.render depth ++ " = " ++ initial.render depth) :: Declarator.renderAll depth others
  | .mk target none :: others => target.render depth :: Declarator.renderAll depth others

/-- The text of the first part of the head of a counting loop. -/
def LoopStart.render (depth : Nat) : LoopStart → String
  | .declaration declaration => declaration.render depth
  | .expression value => value.render depth

/-- The text of an expression that may be missing, after the given text. -/
def Expr.renderOptional (depth : Nat) (before : String) : Option Expr → String
  | none => ""
  | some value => before ++ value.render depth

/-- The lines of the cases of a switch. -/
def SwitchCase.renderAll (depth : Nat) : List SwitchCase → String
  | [] => ""
  | .mk (some test) body :: others =>
    line depth ("case " ++ test.render depth ++ ":")
      ++ Statement.renderAll (depth + 1) body ++ SwitchCase.renderAll depth others
  | .mk none body :: others =>
    line depth "default:" ++ Statement.renderAll (depth + 1) body
      ++ SwitchCase.renderAll depth others

/-- The lines of a handler of errors, from the brace before it on. -/
def CatchClause.render (depth : Nat) : CatchClause → String
  | .mk none body =>
    line depth "\x7d catch \x7b" ++ Statement.renderAll (depth + 1) body
  | .mk (some parameter) body =>
    line depth ("\x7d catch " ++ parenthesized (parameter.render depth) ++ " \x7b")
      ++ Statement.renderAll (depth + 1) body

/-- The lines of a statement. With the flag set, a block is printed as its statements alone,
because braces stand around it already. -/
def Statement.render (inBraces : Bool) (depth : Nat) : Statement → String
  | .expression value =>
    let text := value.render depth
    line depth ((if value.needsStatementParens then parenthesized text else text) ++ ";")
  | .block body =>
    if inBraces then Statement.renderAll depth body
    else blockLines depth "" (Statement.renderAll (depth + 1) body) ++ "\n"
  | .empty => line depth ";"
  | .function definition => line depth (definition.render depth)
  | .variables declaration => line depth (declaration.render depth ++ ";")
  | .if test whenTrue none =>
    blockLines depth ("if " ++ parenthesized (test.render depth) ++ " ")
      (whenTrue.render true (depth + 1)) ++ "\n"
  | .if test whenTrue (some whenFalse) =>
    blockLines depth ("if " ++ parenthesized (test.render depth) ++ " ")
        (whenTrue.render true (depth + 1))
      ++ " else \x7b\n" ++ whenFalse.render true (depth + 1) ++ margin depth ++ "\x7d\n"
  | .while test body =>
    blockLines depth ("while " ++ parenthesized (test.render depth) ++ " ")
      (body.render true (depth + 1)) ++ "\n"
  | .for start test update body =>
    let start :=
      match start with
      | some start => start.render depth
      | none => ""
    let head := start ++ ";" ++ Expr.renderOptional depth " " test ++ ";"
      ++ Expr.renderOptional depth " " update
    blockLines depth ("for " ++ parenthesized head ++ " ") (body.render true (depth + 1)) ++ "\n"
  | .forIn kind target source body =>
    let head := kind.spelling ++ " " ++ target.render depth ++ " in " ++ source.render depth
    blockLines depth ("for " ++ parenthesized head ++ " ") (body.render true (depth + 1)) ++ "\n"
  | .forOf kind target source body =>
    let head := kind.spelling ++ " " ++ target.render depth ++ " of " ++ source.render depth
    blockLines depth ("for " ++ parenthesized head ++ " ") (body.render true (depth + 1)) ++ "\n"
  | .switch subject cases =>
    blockLines depth ("switch " ++ parenthesized (subject.render depth) ++ " ")
      (SwitchCase.renderAll (depth + 1) cases) ++ "\n"
  | .return value => line depth ("return" ++ Expr.renderOptional depth " " value ++ ";")
  | .throw value => line depth ("throw " ++ value.render depth ++ ";")
  | .try block handler finalizer =>
    let handler :=
      match handler with
      | some handler => handler.render depth
      | none => ""
    let finalizer :=
      match finalizer with
      | some body => line depth "\x7d finally \x7b" ++ Statement.renderAll (depth + 1) body
      | none => ""
    line depth "try \x7b" ++ Statement.renderAll (depth + 1) block ++ handler ++ finalizer
      ++ line depth "\x7d"
  | .break => line depth "break;"
  | .continue => line depth "continue;"

/-- The lines of statements. -/
def Statement.renderAll (depth : Nat) : List Statement → String
  | [] => ""
  | statement :: others =>
    statement.render false depth ++ Statement.renderAll depth others

end

/-- The text of a script. -/
def renderScript (statements : List Statement) : String := Statement.renderAll 0 statements

end PluginSandbox.Syntax
