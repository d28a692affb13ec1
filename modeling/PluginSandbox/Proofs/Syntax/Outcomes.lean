import PluginSandbox.Proofs.Syntax.Items

/-!
# Outcomes of assembling

What is assembled from a node ends with a part of the kind that the rule of the node stands for, or
with a problem that is foreseen: an early fault of the text, or a number that cannot be represented.
What a node denotes can be read as anything that its kind allows.
-/
namespace PluginSandbox.Syntax

open Peg (Node)

/-- The faults that scripts and modules can have although the grammar accepts them. -/
def Fault.isEarly : Fault → Bool
  | .missingInitializer | .invalidAssignment | .invalidPrefixUpdate | .invalidPostfixUpdate => true
  | .mismatch .. | .meaningless .. => false

/-- The problems that are foreseen where some nodes are refused: early faults, and the refusals of
these nodes, as a key or as an expression. -/
inductive Foreseen (refused : Node Rule → Prop) : Problem → Prop where
  | early {fault : Fault} {span : Span} (early : fault.isEarly = true) :
    Foreseen refused ⟨fault, span⟩
  | key {node : Node Rule} (here : refused node) :
    Foreseen refused ⟨.meaningless node.rule 14, spanOf node⟩
  | expression {node : Node Rule} (here : refused node) :
    Foreseen refused ⟨.meaningless node.rule 21, spanOf node⟩

/-- A computation ends with a value that has a property or with a foreseen problem. -/
def Delivers (refused : Node Rule → Prop) {α : Type} (result : Except Problem α)
    (post : α → Prop) : Prop :=
  match result with
  | .ok value => post value
  | .error problem => Foreseen refused problem

/-- A computation ends with a value or with a foreseen problem. -/
abbrev Settles (refused : Node Rule → Prop) {α : Type} (result : Except Problem α) : Prop :=
  Delivers refused result fun _ => True

section

variable {refused : Node Rule → Prop} {α β : Type}

theorem Delivers.bind {first : Except Problem α} {next : α → Except Problem β}
    {middle : α → Prop} {post : β → Prop} (delivers : Delivers refused first middle)
    (rest : ∀ value, middle value → Delivers refused (next value) post) :
    Delivers refused (first >>= next) post := by
  cases first with
  | error problem => exact delivers
  | ok value => exact rest value delivers

theorem Delivers.imp {result : Except Problem α} {post other : α → Prop}
    (delivers : Delivers refused result post) (weaker : ∀ value, post value → other value) :
    Delivers refused result other := by
  cases result with
  | error problem => exact delivers
  | ok value => exact weaker value delivers

theorem Settles.bind {first : Except Problem α} {next : α → Except Problem β} {post : β → Prop}
    (settles : Settles refused first) (rest : ∀ value, Delivers refused (next value) post) :
    Delivers refused (first >>= next) post :=
  Delivers.bind settles fun value _ => rest value

theorem Settles.map (f : α → β) {result : Except Problem α} (settles : Settles refused result) :
    Settles refused (f <$> result) := by
  cases result with
  | error problem => exact settles
  | ok value => exact trivial

/-- A step that settles for every member of a list settles for the list. -/
theorem Settles.mapM {step : α → Except Problem β} {list : List α}
    (each : ∀ part ∈ list, Settles refused (step part)) : Settles refused (list.mapM step) := by
  induction list with
  | nil => exact trivial
  | cons part rest ih =>
    rw [List.mapM_cons]
    refine Settles.bind (each part List.mem_cons_self) fun value => ?_
    exact Settles.bind (ih fun other member => each other (.tail _ member)) fun _ => trivial

/-- A step that settles for a part, if there is one, settles. -/
theorem Settles.optionMapM {step : α → Except Problem β} {part? : Option α}
    (each : ∀ part ∈ part?, Settles refused (step part)) : Settles refused (part?.mapM step) := by
  cases part? with
  | none => exact trivial
  | some part => exact Settles.map some (each part rfl)

/-- Steps that settle for every member of a list settle one after the other. -/
theorem Settles.foldlM {step : β → α → Except Problem β} {list : List α} (start : β)
    (each : ∀ value, ∀ part ∈ list, Settles refused (step value part)) :
    Settles refused (list.foldlM step start) := by
  induction list generalizing start with
  | nil => exact trivial
  | cons part rest ih =>
    rw [List.foldlM_cons]
    refine Settles.bind (each start part List.mem_cons_self) fun value => ?_
    exact ih value fun value other member => each value other (.tail _ member)

end

/-- The kinds of parts that nodes stand for. A spread is a single item that is spread, and a binding
is a statement that declares variables. -/
inductive PartKind where
  | word | text | numeral | expression | elements | spread | key | property | pattern
  | patternProperty | parameter | parameters | function | statements | statement | binding
  | declarator | declaration | loopStart | switchCase | handler | importSpecifiers
  | exportSpecifiers | item | items
  deriving DecidableEq

/-- The kind of what the nodes of a rule denote. Rules that show in no node, marks and types have
none. -/
def Rule.partKind : Rule → Option PartKind
  | .identifier | .identifierName | .doubleQuoted | .singleQuoted | .templateChars
  | .declarationKind | .restMarker | .assignmentOperator | .operator _ | .preIncrement
  | .preDecrement | .logicalNot | .negate | .unaryPlus | .bitwiseNot | .postIncrement
  | .postDecrement | .typeOnlyMarker | .specifierTypeMarker | .keyword .async | .keyword .await
  | .keyword .delete | .keyword .typeof | .keyword .void => some .word
  | .string | .memberDot | .optionalMember | .moduleSpecifier => some .text
  | .number => some .numeral
  | .nullLiteral | .booleanLiteral | .thisExpression | .templateLiteral | .templateSubstitution
  | .initializer | .forTest | .forUpdate | .expression | .assignmentExpression | .arrowFunction
  | .conditionalExpression | .binaryExpression | .unaryExpression | .postfixExpression
  | .leftHandSideExpression | .optionalBracket | .memberBracket | .newExpression
  | .parenthesizedExpression | .arrayLiteral | .objectLiteral => some .expression
  | .arguments | .optionalCall => some .elements
  | .spreadElement => some .spread
  | .propertyName | .computedPropertyName => some .key
  | .shorthandProperty | .keyValueProperty | .methodProperty => some .property
  | .objectPattern | .arrayPattern | .bindingElement | .restElement => some .pattern
  | .aliasedBindingProperty | .shorthandBindingProperty => some .patternProperty
  | .parameter => some .parameter
  | .formalParameters | .arrowParameters => some .parameters
  | .functionDeclaration | .functionExpression => some .function
  | .script | .blockStatement | .functionBody | .finallyClause => some .statements
  | .emptyStatement | .expressionStatement | .ifStatement | .whileStatement | .forStatement
  | .forInStatement | .forOfStatement | .switchStatement | .returnStatement | .throwStatement
  | .breakStatement | .continueStatement | .tryStatement | .typeDeclaration => some .statement
  | .variableStatement => some .binding
  | .variableDeclarator => some .declarator
  | .variableDeclaration => some .declaration
  | .forInit => some .loopStart
  | .switchCase => some .switchCase
  | .catchClause => some .handler
  | .defaultImport | .namespaceImport | .namedImports | .importSpecifier => some .importSpecifiers
  | .exportClause | .exportSpecifier => some .exportSpecifiers
  | .importDeclaration | .exportDefault | .exportAssignment | .exportAll | .exportNamed
  | .exportDeclaration => some .item
  | .moduleSource => some .items
  | _ => none

/-- The parts of a kind that a node can denote. -/
inductive Covers (refused : Node Rule → Prop) (node : Node Rule) : PartKind → Part → Prop where
  | word : Covers refused node .word .word
  | text {value : String} : Covers refused node .text (.text value)
  | numeral {value : Option Float} (read : value = none → refused node) :
    Covers refused node .numeral (.numeral value)
  | expression {value : Expr} {span : Span} :
    Covers refused node .expression (.expression value span)
  | elements {items : List Element} : Covers refused node .elements (.elements items)
  | spread {source : Expr} : Covers refused node .spread (.elements [.spread source])
  | key {key : PropertyKey} : Covers refused node .key (.key key)
  | property {property : Property} : Covers refused node .property (.property property)
  | pattern {pattern : Pattern} : Covers refused node .pattern (.pattern pattern)
  | patternProperty {property : PatternProperty} :
    Covers refused node .patternProperty (.patternProperty property)
  | parameter {pattern : Pattern} {isRest : Bool} :
    Covers refused node .parameter (.parameter pattern isRest)
  | parameters {patterns : List Pattern} {rest : Option Pattern} :
    Covers refused node .parameters (.parameters patterns rest)
  | function {definition : Function} : Covers refused node .function (.function definition)
  | statements {body : List Statement} : Covers refused node .statements (.statements body)
  | statement {statement : Option Statement} :
    Covers refused node .statement (.statement statement)
  | binding {declaration : VariableDeclaration} :
    Covers refused node .binding (.statement (some (.variables declaration)))
  | declarator {declarator : Declarator} :
    Covers refused node .declarator (.declarator declarator)
  | declaration {declaration : VariableDeclaration} :
    Covers refused node .declaration (.declaration declaration)
  | loopStart {start : LoopStart} : Covers refused node .loopStart (.loopStart start)
  | switchCase {branch : SwitchCase} : Covers refused node .switchCase (.switchCase branch)
  | handler {clause : CatchClause} : Covers refused node .handler (.handler clause)
  | importSpecifiers {specifiers : List ImportSpecifier} :
    Covers refused node .importSpecifiers (.importSpecifiers specifiers)
  | exportSpecifiers {specifiers : List ExportSpecifier} :
    Covers refused node .exportSpecifiers (.exportSpecifiers specifiers)
  | item {item : Option ModuleItem} : Covers refused node .item (.item item)
  | items {items : List ModuleItem} : Covers refused node .items (.items items)

/-- A node denotes what its rule stands for, and the operator of an assignment is a known one. -/
structure Child.Sound (refused : Node Rule → Prop) (child : Child) : Prop where
  /-- The node denotes a part of the kind that its rule stands for, if it stands for one. -/
  denotes : ∀ kind, child.rule.partKind = some kind →
    Delivers refused child.2 (Covers refused child.1 kind)
  /-- The operator of an assignment is spelled like one of those that are known. -/
  spelled : child.rule = .assignmentOperator →
    ∃ op ∈ assignmentOperators, op.spelling = child.text

/-- A node stems from one of some rules and is sound. -/
structure Child.OneOf (refused : Node Rule → Prop) (rules : List Rule) (child : Child) : Prop where
  /-- The rule of the node is one of the rules. -/
  rule : child.rule ∈ rules
  /-- The node is sound. -/
  sound : child.Sound refused

/-- Whether rules stand for parts of some kinds only. -/
def standFor (kinds : List PartKind) (rules : List Rule) : Bool :=
  rules.all fun rule => rule.partKind.any kinds.contains

/-- The kinds of parts that can be read as an expression. -/
def valueKinds : List PartKind := [.expression, .text, .numeral, .function, .word]

/-- The kinds of parts that can be read as items. -/
def elementKinds : List PartKind := .elements :: .spread :: valueKinds

/-- The kinds of parts that can be read as the key of a property. -/
def keyKinds : List PartKind := [.key, .text, .numeral, .word]

/-- The kinds of parts that can be read as a statement. -/
def statementKinds : List PartKind := [.statement, .binding, .statements, .function]

namespace Child.OneOf

variable {refused : Node Rule → Prop} {rules : List Rule} {child : Child}

/-- A node of one of some rules stands for one of the kinds that they stand for. -/
theorem kind (one : child.OneOf refused rules) {kinds : List PartKind}
    (fit : standFor kinds rules = true) :
    ∃ kind ∈ kinds, child.rule.partKind = some kind := by
  have known := List.all_eq_true.mp fit child.rule one.rule
  obtain ⟨kind, same, listed⟩ := (Option.any_eq_true _ _).mp known
  exact ⟨kind, List.contains_iff_mem.mp listed, same⟩

/-- A sound node of one of some rules denotes a part of one of the kinds that they stand for. -/
theorem read (one : child.OneOf refused rules) (kinds : List PartKind)
    (fit : standFor kinds rules = true) :
    Delivers refused child.2 fun part => ∃ kind ∈ kinds, Covers refused child.1 kind part := by
  obtain ⟨kind, listed, same⟩ := one.kind fit
  exact (one.sound.denotes kind same).imp fun part covers => ⟨kind, listed, covers⟩

/-- A sound node of rules that all stand for one kind denotes a part of this kind. -/
theorem only (one : child.OneOf refused rules) (kind : PartKind)
    (fit : standFor [kind] rules = true) : Delivers refused child.2 (Covers refused child.1 kind) :=
  (one.read _ fit).imp fun _ ⟨_, listed, covers⟩ => List.mem_singleton.mp listed ▸ covers

/-- A node of a rule that stands for a kind of parts is seen as just that. -/
theorem alone (one : child.OneOf refused rules) {kind : PartKind} {kinds : List PartKind}
    (same : child.rule.partKind = some kind) (listed : kind ∈ kinds) :
    child.OneOf refused [child.rule] ∧ standFor kinds [child.rule] = true := by
  refine ⟨⟨List.mem_singleton_self _, one.sound⟩, ?_⟩
  rw [standFor, List.all_cons, same, Option.any_some, List.all_nil, Bool.and_true]
  exact List.contains_iff_mem.mpr listed

/-- A node with a value can be read as an expression. -/
theorem spannedExpr (one : child.OneOf refused rules) (fit : standFor valueKinds rules = true) :
    Settles refused child.spannedExpr := by
  refine (one.read _ fit).bind fun part ⟨kind, listed, covers⟩ => ?_
  cases covers with
  | @numeral value read =>
    cases value with
    | none => exact .expression (read rfl)
    | some value => exact trivial
  | expression | text | function | word => exact trivial
  | _ => exact absurd listed (by decide)

theorem expr (one : child.OneOf refused rules) (fit : standFor valueKinds rules = true) :
    Settles refused child.expr :=
  (one.spannedExpr fit).bind fun _ => trivial

theorem textValue (one : child.OneOf refused rules) (fit : standFor [.text] rules = true) :
    Settles refused child.textValue := by
  refine (one.only _ fit).bind fun part covers => ?_
  cases covers
  exact trivial

/-- A node with items or a value can be read as items. -/
theorem elements (one : child.OneOf refused rules) (fit : standFor elementKinds rules = true) :
    Settles refused child.elements := by
  obtain ⟨kind, listed, same⟩ := one.kind fit
  have value (known : kind ∈ valueKinds) : Settles refused child.expr :=
    (one.alone same known).1.expr (one.alone same known).2
  refine (one.sound.denotes kind same).bind fun part covers => ?_
  cases covers with
  | elements | spread => exact trivial
  | expression | text | numeral | function | word =>
    exact (value (by decide)).bind fun _ => trivial
  | _ => exact absurd listed (by decide)

/-- A node for a key or with a value that names one can be read as a key. -/
theorem key (one : child.OneOf refused rules) (fit : standFor keyKinds rules = true) :
    Settles refused child.key := by
  refine (one.read _ fit).bind fun part ⟨kind, listed, covers⟩ => ?_
  cases covers with
  | @numeral value read =>
    cases value with
    | none => exact .key (read rfl)
    | some value => exact trivial
  | key | text | word => exact trivial
  | _ => exact absurd listed (by decide)

theorem property (one : child.OneOf refused rules)
    (fit : standFor [.property, .spread] rules = true) : Settles refused child.property := by
  refine (one.read _ fit).bind fun part ⟨kind, listed, covers⟩ => ?_
  cases covers with
  | property | spread => exact trivial
  | _ => exact absurd listed (by decide)

theorem pattern (one : child.OneOf refused rules)
    (fit : standFor [.pattern, .word] rules = true) : Settles refused child.pattern := by
  refine (one.read _ fit).bind fun part ⟨kind, listed, covers⟩ => ?_
  cases covers with
  | pattern | word => exact trivial
  | _ => exact absurd listed (by decide)

theorem function (one : child.OneOf refused rules) (fit : standFor [.function] rules = true) :
    Settles refused child.function := by
  refine (one.only _ fit).bind fun part covers => ?_
  cases covers
  exact trivial

theorem statements (one : child.OneOf refused rules)
    (fit : standFor [.statements] rules = true) : Settles refused child.statements := by
  refine (one.only _ fit).bind fun part covers => ?_
  cases covers
  exact trivial

theorem statement? (one : child.OneOf refused rules)
    (fit : standFor statementKinds rules = true) : Settles refused child.statement? := by
  refine (one.read _ fit).bind fun part ⟨kind, listed, covers⟩ => ?_
  cases covers with
  | statement | binding | statements | function => exact trivial
  | _ => exact absurd listed (by decide)

theorem statement (one : child.OneOf refused rules)
    (fit : standFor statementKinds rules = true) : Settles refused child.statement :=
  (one.statement? fit).bind fun _ => trivial

theorem declaration (one : child.OneOf refused rules)
    (fit : standFor [.declaration, .binding] rules = true) :
    Settles refused child.declaration := by
  refine (one.read _ fit).bind fun part ⟨kind, listed, covers⟩ => ?_
  cases covers with
  | declaration | binding => exact trivial
  | _ => exact absurd listed (by decide)

/-- A node for an item or a statement can be read as an item. -/
theorem item? (one : child.OneOf refused rules)
    (fit : standFor (.item :: statementKinds) rules = true) : Settles refused child.item? := by
  obtain ⟨kind, listed, same⟩ := one.kind fit
  have body (known : kind ∈ statementKinds) : Settles refused child.statement? :=
    (one.alone same known).1.statement? (one.alone same known).2
  refine (one.sound.denotes kind same).bind fun part covers => ?_
  cases covers with
  | item => exact trivial
  | statement | binding | statements | function =>
    exact (body (by decide)).bind fun _ => trivial
  | _ => exact absurd listed (by decide)

end Child.OneOf

end PluginSandbox.Syntax
