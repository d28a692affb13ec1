import PluginSandbox.Number.Reading
import PluginSandbox.Peg.Tree
import PluginSandbox.Syntax.Grouping
import PluginSandbox.Syntax.Problem
import PluginSandbox.Syntax.Unescape

/-!
# From parse trees to syntax trees

Every node of a parse tree denotes a part of a syntax tree. The part is assembled from the
parts of the nodes below it; those that only delimit others or that belong to type syntax are
left out. The problems that the grammar does not know are found here, and the first one in the
order in which the parts are needed is reported.
-/
namespace PluginSandbox.Syntax

open Peg (Node)

/-- What a node denotes. -/
inductive Part where
  /-- A word, which stands for the text of the node. -/
  | word
  /-- The value of a string. -/
  | text (value : String)
  /-- The value of a number, if it can be represented. -/
  | numeral (value : Option Float)
  /-- An expression and the part of the text that it spans. -/
  | expression (value : Expr) (span : Span)
  /-- Items of an array or of an argument list. -/
  | elements (items : List Element)
  /-- The key of a property. -/
  | key (key : PropertyKey)
  /-- A property of an object expression. -/
  | property (property : Property)
  /-- A pattern. -/
  | pattern (pattern : Pattern)
  /-- A property of an object pattern. -/
  | patternProperty (property : PatternProperty)
  /-- A parameter; it may stand for all remaining arguments. -/
  | parameter (pattern : Pattern) (isRest : Bool)
  /-- The parameters of a function and the one for the remaining arguments. -/
  | parameters (patterns : List Pattern) (rest : Option Pattern)
  /-- A function and the part of the text that it spans. -/
  | function (definition : Function)
  /-- Statements. -/
  | statements (body : List Statement)
  /-- A statement, or a declaration of types, which is none. -/
  | statement (statement : Option Statement)
  /-- A variable with its initial value. -/
  | declarator (declarator : Declarator)
  /-- A declaration of variables. -/
  | declaration (declaration : VariableDeclaration)
  /-- The first part of the head of a counting loop. -/
  | loopStart (start : LoopStart)
  /-- A case of a switch. -/
  | switchCase (branch : SwitchCase)
  /-- What a try statement does with an error. -/
  | handler (clause : CatchClause)
  /-- Names that an import declaration binds. -/
  | importSpecifiers (specifiers : List ImportSpecifier)
  /-- Names that an export list gives out. -/
  | exportSpecifiers (specifiers : List ExportSpecifier)
  /-- An item of a module, or a declaration of types, which is none. -/
  | item (item : Option ModuleItem)
  /-- The items of a module. -/
  | items (items : List ModuleItem)

/-- A node with what it denotes. -/
abbrev Child := Node Rule × Except Problem Part

/-- Whether a node only delimits others or belongs to type syntax. -/
def Rule.isNoise : Rule → Bool
  | .keyword .async | .keyword .await | .keyword .delete | .keyword .typeof | .keyword .void =>
    false
  | .keyword _ | .typeAscription | .typeParameters | .typeAssertion | .definiteMarker
  | .optionalMarker | .nonNullAssertion | .endOfText => true
  | _ => false

/-- The part of the text that a node spans. -/
def spanOf (node : Node Rule) : Span := ⟨node.start, node.stop⟩

/-- Refuses a node whose parts do not fit together. -/
def refuse {α : Type} (node : Node Rule) (state : Nat) : Except Problem α :=
  .error ⟨.meaningless node.rule state, spanOf node⟩

namespace Child

/-- The rule of a node. -/
def rule (child : Child) : Rule := child.1.rule

/-- The text of a node. -/
def text (child : Child) : String := child.1.text

/-- The expression that a node denotes and the part of the text that it spans. -/
def spannedExpr (child : Child) : Except Problem (Expr × Span) := do
  match ← child.2 with
  | .expression value span => return (value, span)
  | .text value => return (.literal (.text value), spanOf child.1)
  | .numeral (some value) => return (.literal (.number value), spanOf child.1)
  | .numeral none => refuse child.1 21
  | .function definition => return (.function definition, spanOf child.1)
  | .word => return (.identifier child.text, spanOf child.1)
  | _ => refuse child.1 22

/-- The expression that a node denotes. -/
def expr (child : Child) : Except Problem Expr := return (← child.spannedExpr).1

/-- The text that a node denotes. -/
def textValue (child : Child) : Except Problem String := do
  match ← child.2 with
  | .text value => return value
  | _ => refuse child.1 1

/-- The items that a node denotes: those of an array or a spread, or one expression. -/
def elements (child : Child) : Except Problem (List Element) := do
  match ← child.2 with
  | .elements items => return items
  | _ => return [.item (← child.expr)]

/-- The key that a node denotes. -/
def key (child : Child) : Except Problem PropertyKey := do
  match ← child.2 with
  | .key key => return key
  | .text value => return .fixed value
  | .numeral (some value) => return .fixed (Number.toText value)
  | .numeral none => refuse child.1 14
  | .word => return .fixed child.text
  | _ => refuse child.1 15

/-- The property that a node denotes. -/
def property (child : Child) : Except Problem Property := do
  match ← child.2 with
  | .property property => return property
  | .elements [.spread source] => return .spread source
  | _ => refuse child.1 25

/-- The pattern that a node denotes. -/
def pattern (child : Child) : Except Problem Pattern := do
  match ← child.2 with
  | .pattern pattern => return pattern
  | .word => return .identifier child.text
  | _ => refuse child.1 13

/-- The function that a node denotes. -/
def function (child : Child) : Except Problem Function := do
  match ← child.2 with
  | .function definition => return definition
  | _ => refuse child.1 11

/-- The statements that a node denotes. -/
def statements (child : Child) : Except Problem (List Statement) := do
  match ← child.2 with
  | .statements body => return body
  | _ => refuse child.1 9

/-- The statement that a node denotes, unless it declares types. -/
def statement? (child : Child) : Except Problem (Option Statement) := do
  match ← child.2 with
  | .statement statement => return statement
  | .statements body => return some (.block body)
  | .function definition => return some (.function definition)
  | _ => refuse child.1 9

/-- The statement that a node denotes where one is needed. -/
def statement (child : Child) : Except Problem Statement :=
  return (← child.statement?).getD .empty

/-- The declaration that a node denotes. -/
def declaration (child : Child) : Except Problem VariableDeclaration := do
  match ← child.2 with
  | .declaration declaration => return declaration
  | .statement (some (.variables declaration)) => return declaration
  | _ => refuse child.1 10

/-- The item of a module that a node denotes, unless it declares types. -/
def item? (child : Child) : Except Problem (Option ModuleItem) := do
  match ← child.2 with
  | .item item => return item
  | _ => return (← child.statement?).map .statement

end Child

/-- A pattern with the value that replaces a missing one, if any. -/
def withDefault (target : Pattern) : Option Expr → Pattern
  | some value => .withDefault target value
  | none => target

/-- A pattern from the nodes of its target and its initial value. -/
def assembleElement (node : Node Rule) : List Child → Except Problem Pattern
  | [] => refuse node 1
  | target :: others => do
    let target ← target.pattern
    return withDefault target (← others.head?.mapM Child.expr)

/-- A function from the nodes of its head and body. -/
def assembleFunction (node : Node Rule) (isArrow : Bool) (parts : List Child) :
    Except Problem Function := do
  let isAsync := parts.any fun child => child.rule = .keyword .async
  let name := (parts.find? fun child => child.rule = .identifier).map Child.text
  let (parameters, rest) ←
    match parts.find? fun child =>
      child.rule = .formalParameters ∨ child.rule = .arrowParameters with
    | some child => do
      match ← child.2 with
      | .parameters patterns rest => pure (patterns, rest)
      | _ => refuse node 11
    | none => pure ([], none)
  match parts.getLast? with
  | some child =>
    let body ←
      if child.rule = .functionBody then FunctionBody.block <$> child.statements
      else FunctionBody.expression <$> child.expr
    return .mk name parameters rest body isAsync isArrow
  | none => refuse node 11

/-- The patterns of a list and the one for what remains; a later one replaces it. -/
def splitRest (parameters : List (Pattern × Bool)) : List Pattern × Option Pattern :=
  ((parameters.filter (!·.2)).map (·.1), (parameters.filter (·.2)).getLast?.map (·.1))

/-- A pattern of a list, and whether it stands for what remains. -/
def listedPattern (child : Child) : Except Problem (Pattern × Bool) := do
  match ← child.2 with
  | .parameter pattern isRest => return (pattern, isRest)
  | _ => return (← child.pattern, child.rule = .restElement)

/-- Whether an expression can be written to. -/
def Expr.isWritable : Expr → Bool
  | .identifier _ | .member _ _ false | .index _ _ false => true
  | _ => false

/-- The operators of assignments. -/
def assignmentOperators : List AssignmentOperator :=
  [.assign, .add, .subtract, .multiply, .divide, .modulo, .or, .and, .nullish]

/-- The operation that an operator node before an operand denotes. -/
def applyPrefix (child : Child) (operand : Expr) : Except Problem Expr :=
  let update (operator : UpdateOperator) :=
    if operand.isWritable then .ok (.update operator true operand)
    else .error ⟨.invalidPrefixUpdate, spanOf child.1⟩
  match child.rule with
  | .keyword .await => .ok (.await operand)
  | .preIncrement => update .increment
  | .preDecrement => update .decrement
  | .logicalNot => .ok (.unary .logicalNot operand)
  | .negate => .ok (.unary .minus operand)
  | .unaryPlus => .ok (.unary .plus operand)
  | .bitwiseNot => .ok (.unary .bitwiseNot operand)
  | .keyword .typeof => .ok (.unary .typeOf operand)
  | .keyword .void => .ok (.unary .void operand)
  | .keyword .delete => .ok (.unary .delete operand)
  | _ => refuse child.1 18

/-- The access or call that a node after an object denotes. -/
def applySuffix (base : Expr) (child : Child) : Except Problem Expr := do
  match child.rule with
  | .arguments => return .call base (← child.elements) false
  | .optionalCall => return .call base (← child.elements) true
  | .memberDot | .optionalMember =>
    return .member base (← child.textValue) (child.rule = .optionalMember)
  | .memberBracket | .optionalBracket =>
    return .index base (← child.expr) (child.rule = .optionalBracket)
  | _ => refuse child.1 20

/-- The pieces of a template and its expressions from the nodes of its body. -/
def assembleTemplate : List Child → Except Problem (List String × List Expr)
  | [] => .ok ([""], [])
  | child :: others => do
    if child.rule = .templateChars then
      let piece := String.ofList (unescape child.1.characters)
      match ← assembleTemplate others with
      | (next :: pieces, expressions) => return ((piece ++ next) :: pieces, expressions)
      | ([], expressions) => return ([piece], expressions)
    else
      let value ← child.expr
      let (pieces, expressions) ← assembleTemplate others
      return ("" :: pieces, value :: expressions)

/-- The case of a switch from its nodes. -/
def assembleCase : List Child → Except Problem SwitchCase
  | [] => .ok (.mk none [])
  | child :: others => do
    if child.rule = .expression then
      let test ← child.expr
      return .mk (some test) ((← others.mapM Child.statement?).filterMap id)
    else
      return .mk none ((← (child :: others).mapM Child.statement?).filterMap id)

/-- The statement that tries statements, from the nodes of its blocks. -/
def assembleTry (node : Node Rule) : List Child → Except Problem Statement
  | [] => refuse node 8
  | block :: others => do
    let block ← block.statements
    let handler ← (others.find? fun child => child.rule = .catchClause).mapM fun child => do
      match ← child.2 with
      | .handler clause => return clause
      | _ => refuse child.1 8
    let finalizer ←
      (others.find? fun child => child.rule = .finallyClause).mapM Child.statements
    return .try block handler finalizer

/-- A declaration of variables from the nodes of its kind and its variables. -/
def assembleDeclaration (node : Node Rule) : List Child → Except Problem VariableDeclaration
  | [] => refuse node 10
  | kind :: declared => do
    let kind :=
      match kind.text with
      | "const" => DeclarationKind.const
      | "let" => .let
      | _ => .var
    let declarators ← declared.mapM fun child => do
      match ← child.2 with
      | .declarator (.mk target none) =>
        if kind = .const then throw ⟨.missingInitializer, spanOf child.1⟩
        else return Declarator.mk target none
      | .declarator declarator => return declarator
      | _ => refuse child.1 10
    return .mk kind declarators

/-- The kind of declaration that a word names. -/
def declarationKind (child : Child) : DeclarationKind :=
  match child.text with
  | "const" => .const
  | "let" => .let
  | _ => .var

/-- A loop over a value from the nodes of its head and its body. -/
def assembleLoop (node : Node Rule) : List Child → Except Problem Statement
  | [kind, target, source, body] => do
    let target ← target.pattern
    let source ← source.expr
    let body ← body.statement
    return if node.rule = .forOfStatement then .forOf (declarationKind kind) target source body
      else .forIn (declarationKind kind) target source body
  | _ => refuse node 7

/-- A counting loop from the nodes of its head and its body. -/
def assembleFor (node : Node Rule) (parts : List Child) : Except Problem Statement := do
  let find (rule : Rule) := parts.find? fun child => child.rule = rule
  let start ← (find .forInit).mapM fun child => do
    match ← child.2 with
    | .loopStart start => return start
    | _ => refuse child.1 1
  let test ← (find .forTest).mapM Child.expr
  let update ← (find .forUpdate).mapM Child.expr
  match parts.getLast? with
  | some body => return .for start test update (← body.statement)
  | none => refuse node 7

/-- The specifier of an import declaration from its nodes. -/
def assembleImportSpecifier (node : Node Rule) (parts : List Child) :
    Except Problem ImportSpecifier :=
  let isTypeOnly := parts.any fun child => child.rule = .specifierTypeMarker
  let names := parts.filter fun child => child.rule ≠ .specifierTypeMarker
  match names.head?, names.getLast? with
  | some imported, some name => .ok (.named imported.text name.text isTypeOnly)
  | _, _ => refuse node 26

/-- An import declaration from its nodes. -/
def assembleImport (parts : List Child) : Except Problem ModuleItem := do
  let isTypeOnly := parts.any fun child => child.rule = .typeOnlyMarker
  let specifiers ← parts.mapM fun child => do
    match ← child.2 with
    | .importSpecifiers specifiers => return specifiers
    | _ => return []
  let source ← (parts.find? fun child => child.rule = .moduleSpecifier).mapM Child.textValue
  return .importDeclaration specifiers.flatten (source.getD "") isTypeOnly

/-- An export list from its nodes. -/
def assembleExportList (parts : List Child) : Except Problem ModuleItem := do
  let isTypeOnly := parts.any fun child => child.rule = .typeOnlyMarker
  let specifiers ← parts.mapM fun child => do
    match ← child.2 with
    | .exportSpecifiers specifiers => return specifiers
    | _ => return []
  let source ← (parts.find? fun child => child.rule = .moduleSpecifier).mapM Child.textValue
  return .exportList specifiers.flatten source isTypeOnly

/-- An export of a declaration from its node. -/
def assembleExportDeclaration (child : Child) : Except Problem (Option ModuleItem) := do
  match child.rule with
  | .variableStatement =>
    return some (.exportDeclaration (.variables (← child.declaration)))
  | .functionDeclaration =>
    return some (.exportDeclaration (.function (← child.function)))
  | _ => return none

/-- A default export from its node. -/
def assembleExportDefault (child : Child) : Except Problem (Option ModuleItem) := do
  match child.rule with
  | .interfaceType => return none
  | .functionDeclaration =>
    return some (.exportDefault (.function (← child.function)) (spanOf child.1))
  | _ =>
    let (value, span) ← child.spannedExpr
    return some (.exportDefault (.expression value) span)

/-- The statement that the nodes of a statement rule denote. -/
def assembleStatement (node : Node Rule) (parts : List Child) : Except Problem Statement := do
  match node.rule, parts with
  | .emptyStatement, _ => return .empty
  | .expressionStatement, [value] => return .expression (← value.expr)
  | .variableStatement, [declaration] => return .variables (← declaration.declaration)
  | .ifStatement, test :: whenTrue :: others =>
    let test ← test.expr
    let whenTrue ← whenTrue.statement
    return .if test whenTrue (← others.head?.mapM Child.statement)
  | .whileStatement, [test, body] =>
    let test ← test.expr
    return .while test (← body.statement)
  | .forStatement, parts => assembleFor node parts
  | .forInStatement, parts | .forOfStatement, parts => assembleLoop node parts
  | .switchStatement, subject :: cases =>
    let subject ← subject.expr
    let cases ← cases.mapM fun child => do
      match ← child.2 with
      | .switchCase branch => return branch
      | _ => refuse child.1 9
    return .switch subject cases
  | .returnStatement, parts => return .return (← parts.head?.mapM Child.expr)
  | .throwStatement, [value] => return .throw (← value.expr)
  | .tryStatement, parts => assembleTry node parts
  | .breakStatement, _ => return .break
  | .continueStatement, _ => return .continue
  | _, _ => refuse node 9

/-- What the nodes of an expression rule denote. -/
def assembleExpression (node : Node Rule) (parts : List Child) :
    Except Problem (Expr × Span) := do
  let whole := spanOf node
  match node.rule, parts with
  | .assignmentExpression, [left, operator, value] =>
    match assignmentOperators.find? fun op => op.spelling = operator.text with
    | some op =>
      let target ← left.expr
      if !target.isWritable then throw ⟨.invalidAssignment, spanOf left.1⟩
      return (.assign op target (← value.expr), whole)
    | none => refuse operator.1 16
  | .arrowFunction, parts => return (.arrow (← assembleFunction node true parts), whole)
  | .conditionalExpression, [test, whenTrue, whenFalse] =>
    let test ← test.expr
    let whenTrue ← whenTrue.expr
    return (.conditional test whenTrue (← whenFalse.expr), whole)
  | .binaryExpression, first :: chain =>
    let operators := chain.filterMap fun child =>
      match child.rule with
      | .operator op => some op
      | _ => none
    let first ← first.spannedExpr
    let operands ←
      (chain.filter fun child => child.rule = .unaryExpression).mapM Child.spannedExpr
    let combine (op : InfixOperator) (left right : Expr × Span) : Expr × Span :=
      (match op with
        | .binary op => .binary op left.1 right.1
        | .logical op => .logical op left.1 right.1,
        ⟨left.2.start, right.2.stop⟩)
    return group combine first (operators.zip operands)
  | .unaryExpression, parts =>
    match parts.reverse with
    | operand :: prefixes =>
      prefixes.foldlM
        (fun (value, span) child =>
          return (← applyPrefix child value, ⟨child.1.start, span.stop⟩))
        (← operand.spannedExpr)
    | [] => refuse node 27
  | .postfixExpression, [target, operator] =>
    let value ← target.expr
    if !value.isWritable then throw ⟨.invalidPostfixUpdate, spanOf operator.1⟩
    let op :=
      if operator.rule = .postIncrement then UpdateOperator.increment else .decrement
    return (.update op false value, whole)
  | .leftHandSideExpression, first :: suffixes =>
    suffixes.foldlM
      (fun (value, span) child =>
        return (← applySuffix value child, ⟨span.start, child.1.stop⟩))
      (← first.spannedExpr)
  | .newExpression, first :: suffixes =>
    let members := suffixes.filter fun child => child.rule ≠ .arguments
    let callee ← members.foldlM applySuffix (← first.expr)
    let arguments ←
      (suffixes.find? fun child => child.rule = .arguments).mapM Child.elements
    return (.new callee (arguments.getD []), whole)
  | .thisExpression, _ => return (.this, whole)
  | .nullLiteral, _ => return (.literal .null, whole)
  | .booleanLiteral, _ => return (.literal (.boolean (node.text = "true")), whole)
  | .templateLiteral, parts =>
    let (pieces, expressions) ← assembleTemplate parts
    return (.template pieces expressions, whole)
  | .arrayLiteral, parts =>
    return (.array (← parts.mapM Child.elements).flatten, whole)
  | .objectLiteral, parts => return (.object (← parts.mapM Child.property), whole)
  | _, [inner] => inner.spannedExpr
  | _, _ => refuse node 22

/-- What a node denotes, from the nodes below it with what they denote. -/
def assemble (node : Node Rule) (children : List Child) : Except Problem Part := do
  let parts := children.filter fun child => !child.rule.isNoise
  match node.rule, parts with
  | .number, _ => return .numeral (Number.readLiteral? node.characters)
  | .string, [raw] => return .text (String.ofList (unescape raw.1.characters))
  | .string, _ => return .text ""
  | .memberDot, [name] | .optionalMember, [name] => return .text name.text
  | .moduleSpecifier, [source] => return .text (← source.textValue)
  | .arguments, parts => return .elements (← parts.mapM Child.elements).flatten
  | .optionalCall, [arguments] => return .elements (← arguments.elements)
  | .spreadElement, [source] => return .elements [.spread (← source.expr)]
  | .propertyName, [key] => return .key (← key.key)
  | .computedPropertyName, [key] => return .key (.computed (← key.expr))
  | .shorthandProperty, [name] =>
    return .property (.init (.fixed name.text) (.identifier name.text) true)
  | .keyValueProperty, [key, value] =>
    let key ← key.key
    return .property (.init key (← value.expr) false)
  | .methodProperty, parts =>
    match parts.find? fun child => child.rule = .propertyName with
    | some key =>
      let key ← key.key
      return .property (.method key (← assembleFunction node false parts))
    | none => refuse node 24
  | .functionExpression, parts | .functionDeclaration, parts =>
    return .function (← assembleFunction node false parts)
  | .parameter, parts =>
    let isRest := parts.any fun child => child.rule = .restMarker
    let parts := parts.filter fun child => child.rule ≠ .restMarker
    return .parameter (← assembleElement node parts) isRest
  | .formalParameters, parts | .arrowParameters, parts =>
    match parts with
    | [child] =>
      match ← child.2 with
      | .parameters patterns rest => return .parameters patterns rest
      | _ =>
        let (patterns, rest) := splitRest [← listedPattern child]
        return .parameters patterns rest
    | _ =>
      let (patterns, rest) := splitRest (← parts.mapM listedPattern)
      return .parameters patterns rest
  | .bindingElement, parts => return .pattern (← assembleElement node parts)
  | .restElement, [target] => return .pattern (← target.pattern)
  | .shorthandBindingProperty, name :: others =>
    let pattern ← assembleElement node (name :: others)
    return .patternProperty (.mk (.fixed name.text) pattern true)
  | .aliasedBindingProperty, [key, value] =>
    let key ← key.key
    return .patternProperty (.mk key (← value.pattern) false)
  | .objectPattern, parts =>
    let members ← parts.mapM fun child => do
      match ← child.2 with
      | .patternProperty property => return (some property, none)
      | _ => return (none, some (← child.pattern))
    return .pattern (.object (members.filterMap (·.1)) (members.filterMap (·.2)).getLast?)
  | .arrayPattern, parts =>
    let (patterns, rest) := splitRest (← parts.mapM listedPattern)
    return .pattern (.array patterns rest)
  | .variableDeclarator, target :: others =>
    let target ← target.pattern
    return .declarator (.mk target (← others.head?.mapM Child.expr))
  | .variableDeclaration, parts => return .declaration (← assembleDeclaration node parts)
  | .forInit, [child] =>
    if child.rule = .variableDeclaration then
      return .loopStart (.declaration (← child.declaration))
    else return .loopStart (.expression (← child.expr))
  | .switchCase, parts => return .switchCase (← assembleCase parts)
  | .catchClause, parts =>
    match parts with
    | [parameter, body] =>
      let parameter ← parameter.pattern
      return .handler (.mk (some parameter) (← body.statements))
    | [body] => return .handler (.mk none (← body.statements))
    | _ => refuse node 8
  | .finallyClause, [body] => return .statements (← body.statements)
  | .functionBody, parts | .blockStatement, parts | .script, parts =>
    return .statements ((← parts.mapM Child.statement?).filterMap id)
  | .typeDeclaration, _ => return .statement none
  | .defaultImport, [name] => return .importSpecifiers [.default name.text]
  | .namespaceImport, [name] => return .importSpecifiers [.whole name.text]
  | .importSpecifier, parts =>
    return .importSpecifiers [← assembleImportSpecifier node parts]
  | .namedImports, parts =>
    let specifiers ← parts.mapM fun child => do
      match ← child.2 with
      | .importSpecifiers specifiers => return specifiers
      | _ => refuse child.1 6
    return .importSpecifiers specifiers.flatten
  | .exportSpecifier, parts =>
    match parts.head?, parts.getLast? with
    | some name, some exported => return .exportSpecifiers [⟨name.text, exported.text⟩]
    | _, _ => refuse node 3
  | .exportClause, parts =>
    let specifiers ← parts.mapM fun child => do
      match ← child.2 with
      | .exportSpecifiers specifiers => return specifiers
      | _ => refuse child.1 3
    return .exportSpecifiers specifiers.flatten
  | .importDeclaration, parts => return .item (some (← assembleImport parts))
  | .exportDefault, [value] => return .item (← assembleExportDefault value)
  | .exportAssignment, [value] =>
    return .item (some (.exportAssignment (← value.expr) (spanOf node)))
  | .exportAll, parts =>
    let exported := (parts.find? fun child => child.rule = .identifierName).map Child.text
    let source ← (parts.find? fun child => child.rule = .moduleSpecifier).mapM Child.textValue
    return .item (some (.exportAll exported (source.getD "")))
  | .exportNamed, parts => return .item (some (← assembleExportList parts))
  | .exportDeclaration, [child] => return .item (← assembleExportDeclaration child)
  | .moduleSource, parts => return .items ((← parts.mapM Child.item?).filterMap id)
  | .identifier, _ | .identifierName, _ | .keyword _, _ | .declarationKind, _
  | .restMarker, _ | .assignmentOperator, _ | .operator _, _ | .preIncrement, _
  | .preDecrement, _ | .logicalNot, _ | .negate, _ | .unaryPlus, _ | .bitwiseNot, _
  | .postIncrement, _ | .postDecrement, _ | .templateChars, _ | .doubleQuoted, _
  | .singleQuoted, _ | .typeOnlyMarker, _ | .specifierTypeMarker, _ => return .word
  | .emptyStatement, _ | .expressionStatement, _ | .variableStatement, _ | .ifStatement, _
  | .whileStatement, _ | .forStatement, _ | .forInStatement, _ | .forOfStatement, _
  | .switchStatement, _ | .returnStatement, _ | .throwStatement, _ | .tryStatement, _
  | .breakStatement, _ | .continueStatement, _ =>
    return .statement (some (← assembleStatement node parts))
  | _, _ =>
    let (value, span) ← assembleExpression node parts
    return .expression value span

end PluginSandbox.Syntax
