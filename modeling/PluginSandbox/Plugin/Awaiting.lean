import PluginSandbox.Syntax.Tree

/-!
# Waiting for required modules

A call of `require` gives a value that has to be waited for. Where waiting is allowed, that is
outside functions and in asynchronous ones, every such call that is not waited for already is
put under an `await`. Other functions stay as they are.
-/
namespace PluginSandbox.Plugin

open Syntax

/-- The name of the function that loads a module. -/
def requireName : String := "require"

/-- Whether an expression calls the function that loads a module. -/
def isRequireCall : Expr → Bool
  | .call (.identifier name) _ _ => name = requireName
  | _ => false

/-- A call of the function that loads a module is waited for; anything else is as it is. -/
def awaited (e : Expr) : Expr := if isRequireCall e then .await e else e

mutual

/-- Awaits the modules that an expression requires. -/
def awaitInExpr : Expr → Expr
  | .await (.call (.identifier name) arguments optional) =>
    if name = requireName then
      .await (.call (.identifier name) (awaitInElements arguments) optional)
    else .await (awaitInExpr (.call (.identifier name) arguments optional))
  | .await operand => .await (awaitInExpr operand)
  | .literal value => .literal value
  | .identifier name => .identifier name
  | .this => .this
  | .template quasis expressions => .template quasis (awaitInExprs expressions)
  | .array elements => .array (awaitInElements elements)
  | .object properties => .object (awaitInProperties properties)
  | .function definition => .function (awaitInFunction definition)
  | .arrow definition => .arrow (awaitInFunction definition)
  | .unary operator operand => .unary operator (awaitInExpr operand)
  | .update operator isPrefix target => .update operator isPrefix (awaitInExpr target)
  | .binary operator left right => .binary operator (awaitInExpr left) (awaitInExpr right)
  | .logical operator left right => .logical operator (awaitInExpr left) (awaitInExpr right)
  | .assign operator target value => .assign operator (awaitInExpr target) (awaitInExpr value)
  | .conditional test whenTrue whenFalse =>
    .conditional (awaitInExpr test) (awaitInExpr whenTrue) (awaitInExpr whenFalse)
  | .call callee arguments optional =>
    awaited (.call (awaitInExpr callee) (awaitInElements arguments) optional)
  | .new callee arguments => .new (awaitInExpr callee) (awaitInElements arguments)
  | .member base name optional => .member (awaitInExpr base) name optional
  | .index base key optional => .index (awaitInExpr base) (awaitInExpr key) optional

/-- Awaits the modules that expressions require. -/
def awaitInExprs : List Expr → List Expr
  | [] => []
  | e :: others => awaitInExpr e :: awaitInExprs others

/-- Awaits the modules that the items of a list require. -/
def awaitInElements : List Element → List Element
  | [] => []
  | .item value :: others => .item (awaitInExpr value) :: awaitInElements others
  | .spread source :: others => .spread (awaitInExpr source) :: awaitInElements others

/-- Awaits the modules that a key requires. -/
def awaitInKey : PropertyKey → PropertyKey
  | .fixed name => .fixed name
  | .computed key => .computed (awaitInExpr key)

/-- Awaits the modules that the properties of an object require. -/
def awaitInProperties : List Property → List Property
  | [] => []
  | .init key value shorthand :: others =>
    .init (awaitInKey key) (awaitInExpr value) shorthand :: awaitInProperties others
  | .method key definition :: others =>
    .method (awaitInKey key) (awaitInFunction definition) :: awaitInProperties others
  | .spread source :: others => .spread (awaitInExpr source) :: awaitInProperties others

/-- Awaits the modules that a pattern requires. -/
def awaitInPattern : Pattern → Pattern
  | .identifier name => .identifier name
  | .object properties rest =>
    .object (awaitInPatternProperties properties) (awaitInRest rest)
  | .array elements rest => .array (awaitInPatterns elements) (awaitInRest rest)
  | .withDefault target value => .withDefault (awaitInPattern target) (awaitInExpr value)

/-- Awaits the modules that a pattern for what remains requires. -/
def awaitInRest : Option Pattern → Option Pattern
  | none => none
  | some pattern => some (awaitInPattern pattern)

/-- Awaits the modules that patterns require. -/
def awaitInPatterns : List Pattern → List Pattern
  | [] => []
  | pattern :: others => awaitInPattern pattern :: awaitInPatterns others

/-- Awaits the modules that the properties of a pattern require. -/
def awaitInPatternProperties : List PatternProperty → List PatternProperty
  | [] => []
  | .mk key value shorthand :: others =>
    .mk (awaitInKey key) (awaitInPattern value) shorthand :: awaitInPatternProperties others

/-- Awaits the modules that an asynchronous function requires. -/
def awaitInFunction : Function → Function
  | .mk name parameters rest body true isArrow =>
    .mk name (awaitInPatterns parameters) (awaitInRest rest) (awaitInBody body) true isArrow
  | .mk name parameters rest body false isArrow =>
    .mk name parameters rest body false isArrow

/-- Awaits the modules that the body of a function requires. -/
def awaitInBody : FunctionBody → FunctionBody
  | .block statements => .block (awaitInStatements statements)
  | .expression value => .expression (awaitInExpr value)

/-- Awaits the modules that an optional expression requires. -/
def awaitInOption : Option Expr → Option Expr
  | none => none
  | some e => some (awaitInExpr e)

/-- Awaits the modules that variables require. -/
def awaitInDeclarators : List Declarator → List Declarator
  | [] => []
  | .mk target initial :: others =>
    .mk (awaitInPattern target) (awaitInOption initial) :: awaitInDeclarators others

/-- Awaits the modules that a declaration requires. -/
def awaitInDeclaration : VariableDeclaration → VariableDeclaration
  | .mk kind declarators => .mk kind (awaitInDeclarators declarators)

/-- Awaits the modules that the cases of a switch require. -/
def awaitInCases : List SwitchCase → List SwitchCase
  | [] => []
  | .mk test body :: others =>
    .mk (awaitInOption test) (awaitInStatements body) :: awaitInCases others

/-- Awaits the modules that a statement requires. -/
def awaitInStatement : Statement → Statement
  | .expression value => .expression (awaitInExpr value)
  | .block body => .block (awaitInStatements body)
  | .empty => .empty
  | .function definition => .function (awaitInFunction definition)
  | .variables declaration => .variables (awaitInDeclaration declaration)
  | .if test whenTrue whenFalse =>
    .if (awaitInExpr test) (awaitInStatement whenTrue)
      (match whenFalse with
        | none => none
        | some statement => some (awaitInStatement statement))
  | .while test body => .while (awaitInExpr test) (awaitInStatement body)
  | .for start test update body =>
    .for
      (match start with
        | none => none
        | some (.declaration declaration) =>
          some (.declaration (awaitInDeclaration declaration))
        | some (.expression value) => some (.expression (awaitInExpr value)))
      (awaitInOption test) (awaitInOption update) (awaitInStatement body)
  | .forIn kind target source body =>
    .forIn kind (awaitInPattern target) (awaitInExpr source) (awaitInStatement body)
  | .forOf kind target source body =>
    .forOf kind (awaitInPattern target) (awaitInExpr source) (awaitInStatement body)
  | .switch subject cases => .switch (awaitInExpr subject) (awaitInCases cases)
  | .return value => .return (awaitInOption value)
  | .throw value => .throw (awaitInExpr value)
  | .try block handler finalizer =>
    .try (awaitInStatements block)
      (match handler with
        | none => none
        | some (.mk parameter body) =>
          some (.mk (awaitInRest parameter) (awaitInStatements body)))
      (match finalizer with
        | none => none
        | some body => some (awaitInStatements body))
  | .break => .break
  | .continue => .continue

/-- Awaits the modules that statements require. -/
def awaitInStatements : List Statement → List Statement
  | [] => []
  | statement :: others => awaitInStatement statement :: awaitInStatements others

end

end PluginSandbox.Plugin
