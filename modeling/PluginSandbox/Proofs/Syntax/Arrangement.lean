import PluginSandbox.Proofs.Peg.Shapes
import PluginSandbox.Proofs.Syntax.Outcomes
import PluginSandbox.Proofs.Syntax.Prefixes

/-!
# How the nodes below a node are arranged

The nodes below a node, without marks and types, have the shape of the body of its rule. Rules that
show in no node stand for one node, or for some, of the rules that they choose from.
-/
namespace PluginSandbox.Syntax

open Peg (Given Node StartsWith)
open Peg.Grammar (inside shownIn)

namespace Rule

/-- The rules that a statement is one of. -/
def statements : List Rule :=
  [.blockStatement, .variableStatement, .functionDeclaration, .ifStatement, .forOfStatement,
    .forInStatement, .forStatement, .whileStatement, .switchStatement, .returnStatement,
    .throwStatement, .tryStatement, .breakStatement, .continueStatement, .typeDeclaration,
    .emptyStatement, .expressionStatement]

/-- The rules that an item of a module is one of. -/
def items : List Rule :=
  [.importDeclaration, .exportDefault, .exportAssignment, .exportAll, .exportNamed,
    .exportDeclaration] ++ statements

/-- The rules that the target of a binding is one of. -/
def targets : List Rule := [.identifier, .objectPattern, .arrayPattern]

/-- The rules that a primary expression is one of. -/
def primaries : List Rule := primaryRules ++ [.identifier]

/-- The rules that an item of a list is one of. -/
def elements : List Rule := [.spreadElement, .assignmentExpression]

/-- The rules that a property of an object expression is one of. -/
def properties : List Rule :=
  [.spreadElement, .methodProperty, .keyValueProperty, .shorthandProperty]

/-- The rules that a property of an object pattern is one of. -/
def patternProperties : List Rule :=
  [.restElement, .aliasedBindingProperty, .shorthandBindingProperty]

/-- The rules that an access or a call is one of. -/
def suffixes : List Rule :=
  [.arguments, .memberDot, .optionalCall, .optionalBracket, .optionalMember, .memberBracket]

end Rule

/-- The nodes that a rule stands for. -/
inductive Manner where
  /-- None that matter. -/
  | nothing
  /-- One of one of some rules. -/
  | one (rules : List Rule)
  /-- Any number of nodes of some rules. -/
  | some (rules : List Rule)
  /-- Nodes that nothing is said about. -/
  | unknown

/-- The nodes that a rule stands for in the bodies of others. -/
def Rule.manner : Rule → Manner
  | .statement => .one statements
  | .moduleItem => .one items
  | .importClause => .some [.defaultImport, .namespaceImport, .namedImports]
  | .bindingTarget => .one targets
  | .objectPatternProperty => .one patternProperties
  | .arrayPatternElement => .one [.restElement, .bindingElement]
  | .binaryOperand => .one [.unaryExpression]
  | .binaryOperator => .one (infixOperators.map .operator)
  | .prefixOperator => .one prefixRules
  | .postfixOperator => .one [.postIncrement, .postDecrement]
  | .callSuffix => .some suffixes
  | .primaryExpression => .one primaries
  | .listElement => .one elements
  | .objectProperty => .one properties
  | .identifierStart | .identifierChar | .unaryOperatorStart | .intersectionType | .postfixType
  | .primaryType | .functionType | .tupleType | .typeReference | .typeArguments | .objectType
  | .typeMember | .indexSignature | .methodSignature | .propertySignature => .unknown
  | rule => if rule.isNoise then .nothing else .one [rule]

section

variable {refused : Node Rule → Prop} {next : List Child → Prop} {list : List Child}

/-- The sound nodes that a rule makes at the front of a list, with a condition on the rest. -/
def sounding (refused : Node Rule → Prop) : Given Rule Child := fun rule next list =>
  match rule.manner with
  | .nothing => next list
  | .one rules => ∃ child rest, list = child :: rest ∧ child.OneOf refused rules ∧ next rest
  | .some rules => StartsWith (Child.OneOf refused rules) next list
  | .unknown => True

/-- A node of one of some rules is one of more rules. -/
theorem Child.OneOf.weaken {child : Child} {rules more : List Rule}
    (one : child.OneOf refused rules) (within : rules ⊆ more) : child.OneOf refused more :=
  ⟨within one.rule, one.sound⟩

/-- Whether a rule stands for one node of some rules. -/
def Rule.standsIn (family : List Rule) (rule : Rule) : Bool :=
  match rule.manner with
  | .one rules => rules.all family.contains
  | .nothing | .some _ | .unknown => false

/-- A choice between rules that stand for one node each stands for one node. -/
theorem one_of_firstOf (rules : List Rule) {family : List Rule} (filled : rules ≠ [])
    (stand : rules.all (Rule.standsIn family) = true)
    (makes : (Peg.Expression.firstOf (rules.map .call)).Makes (sounding refused) next list) :
    ∃ child rest, list = child :: rest ∧ child.OneOf refused family ∧ next rest := by
  have single (rule : Rule) (member : rule ∈ rules) (given : sounding refused rule next list) :
      ∃ child rest, list = child :: rest ∧ child.OneOf refused family ∧ next rest := by
    have known := List.all_eq_true.mp stand rule member
    unfold Rule.standsIn at known
    unfold sounding at given
    split at given
    case h_2 few manner =>
      rw [manner] at known
      have inside : few ⊆ family := fun rule member =>
        List.contains_iff_mem.mp (List.all_eq_true.mp known rule member)
      obtain ⟨child, rest, same, one, holds⟩ := given
      exact ⟨child, rest, same, one.weaken inside, holds⟩
    all_goals
      rename_i manner
      simp only [manner] at known
      cases known
  clear stand
  induction rules with
  | nil => exact absurd rfl filled
  | cons rule others ih =>
    cases others with
    | nil => exact single rule List.mem_cons_self makes
    | cons other others =>
      rcases makes with first | second
      · exact single rule List.mem_cons_self first
      · exact ih (List.cons_ne_nil _ _) second fun rule member => single rule (.tail _ member)

/-- Whether a rule stands for nodes of some rules only. -/
def Rule.staysIn (family : List Rule) (rule : Rule) : Bool :=
  match rule.manner with
  | .nothing => true
  | .one rules | .some rules => rules.all family.contains
  | .unknown => false

/-- Expressions over rules that stand for nodes of some rules only make no others. -/
theorem startsWith_of_makes {e : Peg.Expression Rule} (family : List Rule)
    (stays : e.calls.all (Rule.staysIn family) = true)
    (makes : e.Makes (sounding refused) next list) :
    StartsWith (Child.OneOf refused family) next list := by
  refine makes.startsWith fun rule called next list given => ?_
  have known := List.all_eq_true.mp stays rule called
  unfold Rule.staysIn at known
  unfold sounding at given
  split at given
  all_goals
    rename_i manner
    simp only [manner] at known
  · exact .none given
  · rename_i rules
    have inside : rules ⊆ family := fun rule member =>
      List.contains_iff_mem.mp (List.all_eq_true.mp known rule member)
    obtain ⟨child, rest, rfl, one, holds⟩ := given
    refine ⟨[child], rest, rfl, ?_, holds⟩
    exact List.forall_mem_singleton.mpr (one.weaken inside)
  · rename_i rules
    have inside : rules ⊆ family := fun rule member =>
      List.contains_iff_mem.mp (List.all_eq_true.mp known rule member)
    obtain ⟨front, back, same, all, holds⟩ := given
    exact ⟨front, back, same, fun child member => (all child member).weaken inside, holds⟩
  · cases known

/-- Marks and types make nothing that matters. -/
theorem next_of_marks {e : Peg.Expression Rule} (makes : e.Makes (sounding refused) next list)
    (marks : e.calls.all (Rule.staysIn []) = true) : next list := by
  obtain ⟨front, back, rfl, all, holds⟩ := startsWith_of_makes [] marks makes
  cases front with
  | nil => exact holds
  | cons child others => cases (all child List.mem_cons_self).rule

/-- Rules that show in no node stand for what their bodies make. -/
theorem sounding_hidden (rule : Rule) (hidden : grammar.kind rule = .hidden)
    (next : List Child → Prop) (list : List Child)
    (makes : (grammar.body rule).Makes (sounding refused) next list) :
    sounding refused rule next list := by
  have choice {family : List Rule} (rules : List Rule)
      (choice : grammar.body rule = .firstOf (rules.map .call))
      (manner : rule.manner = .one family) (filled : rules ≠ [])
      (stand : rules.all (Rule.standsIn family) = true) : sounding refused rule next list := by
    rw [choice] at makes
    rw [sounding, manner]
    exact one_of_firstOf rules filled stand makes
  cases rule with
  | importClause | callSuffix => exact startsWith_of_makes _ rfl makes
  | binaryOperand => exact makes.elim id id
  | statement => exact choice Rule.statements rfl rfl (by decide) (by decide)
  | moduleItem =>
    exact choice (Rule.items.take 6 ++ [Rule.statement]) rfl rfl (by decide) (by decide)
  | bindingTarget => exact choice Rule.targets rfl rfl (by decide) (by decide)
  | objectPatternProperty => exact choice Rule.patternProperties rfl rfl (by decide) (by decide)
  | arrayPatternElement =>
    exact choice [.restElement, .bindingElement] rfl rfl (by decide) (by decide)
  | binaryOperator =>
    exact choice (infixOperators.map .operator) rfl rfl (by decide) (by decide)
  | prefixOperator => exact choice prefixRules rfl rfl (by decide) (by decide)
  | postfixOperator => exact choice [.postIncrement, .postDecrement] rfl rfl (by decide) (by decide)
  | primaryExpression => exact choice Rule.primaries rfl rfl (by decide) (by decide)
  | listElement => exact choice Rule.elements rfl rfl (by decide) (by decide)
  | objectProperty => exact choice Rule.properties rfl rfl (by decide) (by decide)
  | operator op => rcases op with op | op <;> cases op <;> cases hidden
  | _ => first | exact trivial | cases hidden

/-- A rule that shows stands for its own nodes, if they matter. -/
theorem manner_of_shown {rule : Rule} (shown : grammar.kind rule ≠ .hidden) :
    rule.manner = if rule.isNoise then .nothing else .one [rule] := by
  cases rule <;> first | rfl | exact absurd rfl shown

/-- The root of a tree with what the tree denotes, if it matters to the node above. -/
def significant (tree : Peg.Tree Rule) : List Child :=
  if tree.root.rule.isNoise then [] else [childOf tree]

theorem partsBelow_eq_flatMap (tree : Peg.Tree Rule) :
    partsBelow tree = tree.children.flatMap significant := by
  obtain ⟨rule, start, stop, children⟩ := tree
  rw [partsBelow, Peg.Tree.children]
  induction children with
  | nil => rfl
  | cons child others ih =>
    rw [List.map_cons, List.filter_cons, ih, List.flatMap_cons, significant]
    change (if (!child.root.rule.isNoise) = true then _ else _) = _
    cases child.root.rule.isNoise <;> rfl

/-- The nodes below a node that matter have the shape of the body of its rule, if they are sound. -/
theorem makes_partsBelow {tree : Peg.Tree Rule} (compound : grammar.kind tree.root.rule ≠ .atomic)
    (grows : tree.Grows grammar) (sound : ∀ child ∈ partsBelow tree, child.Sound refused) :
    (grammar.body tree.root.rule).Makes (sounding refused) (· = []) (partsBelow tree) := by
  rw [partsBelow_eq_flatMap] at sound ⊢
  obtain ⟨rule, start, stop, children⟩ := tree
  obtain ⟨around, last, makes, _, derived⟩ := grows
  have makesBelow : (inside (grammar.kind rule) around).makesNodes = true := by
    cases kind : grammar.kind rule with
    | atomic => exact absurd kind compound
    | plain | hidden | compact | spaced =>
      rw [kind] at makes
      exact makes
  have nodes : ∀ child ∈ children, grammar.kind child.root.rule ≠ .hidden →
      ∀ (next : List Child → Prop) rest, next rest →
        sounding refused child.root.rule next (significant child ++ rest) := by
    intro child member shown next rest holds
    have known : ∀ one ∈ significant child, one.Sound refused := fun one inside =>
      sound one (List.mem_flatMap.mpr ⟨child, member, inside⟩)
    rw [sounding, manner_of_shown shown]
    unfold significant at known ⊢
    cases noise : child.root.rule.isNoise with
    | true => exact holds
    | false =>
      rw [noise] at known
      have one : (childOf child).OneOf refused [child.root.rule] :=
        ⟨List.mem_singleton_self _, known _ List.mem_cons_self⟩
      exact ⟨childOf child, rest, rfl, one, holds⟩
  have shape : (Peg.Phrase.once (grammar.body rule)).Makes (sounding refused) (· = [])
      (children.flatMap significant ++ []) :=
    derived.makes significant sounding_hidden makesBelow nodes (· = []) [] rfl
  rw [List.append_nil] at shape
  exact shape

end

end PluginSandbox.Syntax
