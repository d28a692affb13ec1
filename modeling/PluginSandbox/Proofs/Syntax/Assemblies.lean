import PluginSandbox.Proofs.Syntax.Arrangement

/-!
# What is assembled from sound nodes

Where the nodes below a node are arranged as its rule says and are sound themselves, everything
that is assembled from them settles.
-/
namespace PluginSandbox.Syntax

open Peg (Node Place)
open Peg.Expression (inOrder firstOf many maybe)

/-- Nodes are sound and arranged as the body of a rule says. -/
structure Arranged (refused : Node Rule → Prop) (rule : Rule) (parts : List Child) : Prop where
  /-- The nodes have the shape of the body of the rule. -/
  shape : rule.body.Makes (sounding refused) (· = []) parts
  /-- Every node is sound. -/
  sound : ∀ child ∈ parts, child.Sound refused

section

variable {refused : Node Rule → Prop} {parts : List Child} {node : Node Rule}

/-- A node that is found by its rule is a sound node of that rule. -/
theorem oneOf_of_find {rule : Rule} {child : Child} (sound : ∀ child ∈ parts, child.Sound refused)
    (found : (parts.find? fun child => child.rule = rule) = some child) :
    child.OneOf refused [rule] := by
  have same : child.rule = rule := of_decide_eq_true (List.find?_some found :)
  exact ⟨List.mem_singleton.mpr same, sound child (List.mem_of_find?_eq_some found)⟩

/-- A part that is looked for by its rule settles where a node of the rule does. -/
theorem Settles.mapM_find {α : Type} {rule : Rule} {step : Child → Except Problem α}
    (sound : ∀ child ∈ parts, child.Sound refused)
    (each : ∀ child, child.OneOf refused [rule] → Settles refused (step child)) :
    Settles refused ((parts.find? fun child => child.rule = rule).mapM step) :=
  .optionMapM fun child found => each child (oneOf_of_find sound found)

/-- A pattern and its initial value settle. -/
theorem settles_assembleElement {target : Child} {others : List Child}
    (first : target.OneOf refused Rule.targets)
    (rest : ∀ child ∈ others, child.OneOf refused [.initializer]) :
    Settles refused (assembleElement node (target :: others)) := by
  refine Settles.bind (first.pattern (by decide)) fun _ => ?_
  refine Settles.bind (.optionMapM fun value found => ?_) fun _ => trivial
  exact (rest value (List.mem_of_mem_head? found)).expr (by decide)

/-- A function settles whose body is a block or an expression. -/
theorem settles_assembleFunction {front : List Child} {body : Child} {isArrow : Bool}
    (sound : ∀ child ∈ front ++ [body], child.Sound refused)
    (last : body.OneOf refused [.functionBody, .assignmentExpression]) :
    Settles refused (assembleFunction node isArrow (front ++ [body])) := by
  have finish (name : Option String) (patterns : List Pattern) (rest : Option Pattern)
      (isAsync : Bool) : Settles refused (do
        let block ←
          if body.rule = .functionBody then FunctionBody.block <$> body.statements
          else FunctionBody.expression <$> body.expr
        return Function.mk name patterns rest block isAsync isArrow) := by
    split
    case isTrue block =>
      have alone : body.OneOf refused [.functionBody] := ⟨List.mem_singleton.mpr block, last.sound⟩
      exact ((alone.statements (by decide)).map _).bind fun _ => trivial
    case isFalse other =>
      have alone : body.OneOf refused [.assignmentExpression] := by
        refine ⟨?_, last.sound⟩
        simpa [other] using last.rule
      exact ((alone.expr (by decide)).map _).bind fun _ => trivial
  unfold assembleFunction
  rw [List.getLast?_concat]
  dsimp only
  split
  case h_2 => exact finish _ _ _ _
  case h_1 child found =>
    have listed : child.rule = .formalParameters ∨ child.rule = .arrowParameters :=
      of_decide_eq_true (List.find?_some found :)
    have one : child.OneOf refused [.formalParameters, .arrowParameters] :=
      ⟨by simpa using listed, sound child (List.mem_of_find?_eq_some found)⟩
    refine (one.only .parameters (by decide)).bind fun part covers => ?_
    cases covers
    exact finish _ _ _ _

end

section

variable {refused : Node Rule → Prop} {parts : List Child} {place : Place} {stop : Nat}

theorem settles_expressionStatement (arranged : Arranged refused .expressionStatement parts) :
    Settles refused (assembleStatement ⟨.expressionStatement, place, stop⟩ parts) := by
  obtain ⟨value, rest, rfl, one, ends⟩ := arranged.shape
  obtain rfl := next_of_marks ends (by decide)
  exact Settles.bind (one.expr (by decide)) fun _ => trivial

theorem settles_ifStatement (arranged : Arranged refused .ifStatement parts) :
    Settles refused (assembleStatement ⟨.ifStatement, place, stop⟩ parts) := by
  obtain ⟨test, _, rfl, first, whenTrue, others, rfl, second, ends⟩ := arranged.shape
  refine Settles.bind (first.expr (by decide)) fun _ => ?_
  refine Settles.bind (second.statement (by decide)) fun _ => ?_
  refine Settles.bind (.optionMapM fun other found => ?_) fun _ => trivial
  rcases ends with rfl | ⟨_, _, rfl, third, rfl⟩
  · cases found
  · cases found
    exact third.statement (by decide)

theorem settles_whileStatement (arranged : Arranged refused .whileStatement parts) :
    Settles refused (assembleStatement ⟨.whileStatement, place, stop⟩ parts) := by
  obtain ⟨test, _, rfl, first, body, _, rfl, second, rfl⟩ := arranged.shape
  refine Settles.bind (first.expr (by decide)) fun _ => ?_
  exact Settles.bind (second.statement (by decide)) fun _ => trivial

/-- The head of a counting loop has parts that are found by their rules, and the body comes last. -/
theorem settles_forStatement (arranged : Arranged refused .forStatement parts) :
    Settles refused (assembleStatement ⟨.forStatement, place, stop⟩ parts) := by
  have head : (inOrder [.call (.keyword .for), "(", maybe (.call .forInit), ";",
      maybe (.call .forTest), ";", maybe (.call .forUpdate), ")"]).Makes (sounding refused)
        (sounding refused .statement (· = [])) parts := arranged.shape
  obtain ⟨front, _, rfl, _, body, _, rfl, last, rfl⟩ :=
    startsWith_of_makes [.forInit, .forTest, .forUpdate] rfl head
  refine Settles.bind (.mapM_find arranged.sound fun child one => ?_) fun _ => ?_
  · refine (one.only .loopStart (by decide)).bind fun part covers => ?_
    cases covers
    exact trivial
  refine Settles.bind (.mapM_find arranged.sound fun child one => one.expr (by decide)) fun _ => ?_
  refine Settles.bind (.mapM_find arranged.sound fun child one => one.expr (by decide)) fun _ => ?_
  rw [List.getLast?_concat]
  exact Settles.bind (last.statement (by decide)) fun _ => trivial

theorem settles_forInStatement (arranged : Arranged refused .forInStatement parts) :
    Settles refused (assembleStatement ⟨.forInStatement, place, stop⟩ parts) := by
  obtain ⟨kind, _, rfl, _, target, _, rfl, first, source, _, rfl, second, body, _, rfl, third,
    rfl⟩ := arranged.shape
  refine Settles.bind (first.pattern (by decide)) fun _ => ?_
  refine Settles.bind (second.expr (by decide)) fun _ => ?_
  exact Settles.bind (third.statement (by decide)) fun _ => trivial

theorem settles_forOfStatement (arranged : Arranged refused .forOfStatement parts) :
    Settles refused (assembleStatement ⟨.forOfStatement, place, stop⟩ parts) := by
  obtain ⟨kind, _, rfl, _, target, _, rfl, first, source, _, rfl, second, body, _, rfl, third,
    rfl⟩ := arranged.shape
  refine Settles.bind (first.pattern (by decide)) fun _ => ?_
  refine Settles.bind (second.expr (by decide)) fun _ => ?_
  exact Settles.bind (third.statement (by decide)) fun _ => trivial

theorem settles_switchStatement (arranged : Arranged refused .switchStatement parts) :
    Settles refused (assembleStatement ⟨.switchStatement, place, stop⟩ parts) := by
  obtain ⟨subject, cases, rfl, first, rest⟩ := arranged.shape
  have branches : (many (.call Rule.switchCase)).Makes (sounding refused) (· = []) cases := rest
  have all := (startsWith_of_makes [.switchCase] rfl branches).all
  refine Settles.bind (first.expr (by decide)) fun _ => ?_
  refine Settles.bind (.mapM fun child member => ?_) fun _ => trivial
  refine ((all child member).only .switchCase (by decide)).bind fun part covers => ?_
  cases covers
  exact trivial

theorem settles_returnStatement (arranged : Arranged refused .returnStatement parts) :
    Settles refused (assembleStatement ⟨.returnStatement, place, stop⟩ parts) := by
  have whole : (maybe (.call Rule.expression)).Makes (sounding refused) (· = []) parts :=
    arranged.shape.imp (·.elim id id) fun ⟨value, rest, same, one, ends⟩ =>
      ⟨value, rest, same, one, ends.elim id id⟩
  have all := (startsWith_of_makes [.expression] rfl whole).all
  refine Settles.bind (.optionMapM fun value found => ?_) fun _ => trivial
  exact (all value (List.mem_of_mem_head? found)).expr (by decide)

theorem settles_throwStatement (arranged : Arranged refused .throwStatement parts) :
    Settles refused (assembleStatement ⟨.throwStatement, place, stop⟩ parts) := by
  obtain ⟨value, rest, rfl, one, ends⟩ := arranged.shape
  obtain rfl := next_of_marks ends (by decide)
  exact Settles.bind (one.expr (by decide)) fun _ => trivial

theorem settles_tryStatement (arranged : Arranged refused .tryStatement parts) :
    Settles refused (assembleStatement ⟨.tryStatement, place, stop⟩ parts) := by
  have sound := arranged.sound
  obtain ⟨block, others, rfl, first, _⟩ := arranged.shape
  have rest : ∀ child ∈ others, child.Sound refused := fun child member =>
    sound child (.tail _ member)
  refine Settles.bind (first.statements (by decide)) fun _ => ?_
  refine Settles.bind (.mapM_find rest fun child one => ?_) fun _ => ?_
  · refine (one.only .handler (by decide)).bind fun part covers => ?_
    cases covers
    exact trivial
  · exact Settles.bind (.mapM_find rest fun child one => one.statements (by decide))
      fun _ => trivial

theorem settles_variableStatement (arranged : Arranged refused .variableStatement parts) :
    Delivers refused (assembleStatement ⟨.variableStatement, place, stop⟩ parts)
      fun statement => ∃ declaration, statement = .variables declaration := by
  obtain ⟨declaration, rest, rfl, one, ends⟩ := arranged.shape
  obtain rfl := next_of_marks ends (by decide)
  exact Settles.bind (one.declaration (by decide)) fun declaration => ⟨declaration, rfl⟩

end

section

variable {refused : Node Rule → Prop} {parts : List Child} {place : Place} {stop : Nat}

theorem settles_assignmentExpression (arranged : Arranged refused .assignmentExpression parts) :
    Settles refused (assembleExpression ⟨.assignmentExpression, place, stop⟩ parts) := by
  rcases arranged.shape with ⟨arrow, _, rfl, one, rfl⟩ |
    ⟨left, _, rfl, first, rfl | ⟨operator, _, rfl, second, value, _, rfl, third, rfl⟩⟩
  · exact one.spannedExpr (by decide)
  · exact first.spannedExpr (by decide)
  · have spelled := second.sound.spelled (List.mem_singleton.mp second.rule)
    unfold assembleExpression
    dsimp only
    split
    case h_1 op _ =>
      refine Settles.bind (first.expr (by decide)) fun target => ?_
      cases target.isWritable with
      | false => exact .early rfl
      | true => exact Settles.bind (third.expr (by decide)) fun _ => trivial
    case h_2 none =>
      obtain ⟨op, known, same⟩ := spelled
      have differs := List.find?_eq_none.mp none op known
      exact absurd (decide_eq_true same) differs

/-- The body of an arrow function comes last. -/
theorem settles_arrowFunction (arranged : Arranged refused .arrowFunction parts) :
    Settles refused (assembleExpression ⟨.arrowFunction, place, stop⟩ parts) := by
  have head : (inOrder [maybe (.call (.keyword .async)), .call .arrowParameters,
      maybe (.call .typeAscription), "=>"]).Makes (sounding refused)
        ((firstOf [.call .functionBody, .call .assignmentExpression]).Makes (sounding refused)
          (· = [])) parts := arranged.shape
  have sound := arranged.sound
  obtain ⟨front, back, rfl, _, ends⟩ :=
    startsWith_of_makes [.keyword .async, .arrowParameters] rfl head
  have either : ∃ body rest, back = body :: rest ∧
      body.OneOf refused [.functionBody, .assignmentExpression] ∧ rest = [] :=
    one_of_firstOf [.functionBody, .assignmentExpression] (by decide) (by decide) ends
  obtain ⟨body, _, rfl, last, rfl⟩ := either
  exact Settles.bind (settles_assembleFunction sound last) fun _ => trivial

theorem settles_conditionalExpression (arranged : Arranged refused .conditionalExpression parts) :
    Settles refused (assembleExpression ⟨.conditionalExpression, place, stop⟩ parts) := by
  obtain ⟨test, _, rfl, first, rfl | ⟨whenTrue, _, rfl, second, whenFalse, _, rfl, third, rfl⟩⟩ :=
    arranged.shape
  · exact first.spannedExpr (by decide)
  · refine Settles.bind (first.expr (by decide)) fun _ => ?_
    refine Settles.bind (second.expr (by decide)) fun _ => ?_
    exact Settles.bind (third.expr (by decide)) fun _ => trivial

theorem settles_binaryExpression (arranged : Arranged refused .binaryExpression parts) :
    Settles refused (assembleExpression ⟨.binaryExpression, place, stop⟩ parts) := by
  have sound := arranged.sound
  obtain ⟨first, chain, rfl, one, _⟩ := arranged.shape
  refine Settles.bind (one.spannedExpr (by decide)) fun _ => ?_
  refine Settles.bind (.mapM fun operand member => ?_) fun _ => trivial
  obtain ⟨inside, same⟩ := List.mem_filter.mp member
  have alone : operand.OneOf refused [.unaryExpression] :=
    ⟨List.mem_singleton.mpr (of_decide_eq_true same), sound operand (.tail _ inside)⟩
  exact alone.spannedExpr (by decide)

/-- What a prefix operator does settles. -/
theorem settles_applyPrefix {child : Child} (one : child.OneOf refused prefixRules)
    (operand : Expr) : Settles refused (applyPrefix child operand) := by
  have update (operator : UpdateOperator) : Settles refused
      (if operand.isWritable then .ok (Expr.update operator true operand)
        else .error ⟨.invalidPrefixUpdate, spanOf child.1⟩) := by
    cases operand.isWritable with
    | false => exact .early rfl
    | true => exact trivial
  have listed := one.rule
  obtain ⟨⟨rule, start, stop⟩, value⟩ := child
  change rule ∈ prefixRules at listed
  simp only [prefixRules, List.mem_cons, List.not_mem_nil, or_false] at listed
  rcases listed with rfl | rfl | rfl | rfl | rfl | rfl | rfl | rfl | rfl | rfl
  · exact update .increment
  · exact update .decrement
  all_goals exact trivial

theorem settles_unaryExpression (arranged : Arranged refused .unaryExpression parts) :
    Settles refused (assembleExpression ⟨.unaryExpression, place, stop⟩ parts) := by
  have head : (many (.call Rule.prefixOperator)).Makes (sounding refused)
      (sounding refused .postfixExpression (· = [])) parts := arranged.shape
  obtain ⟨prefixes, _, rfl, all, operand, _, rfl, one, rfl⟩ :=
    startsWith_of_makes prefixRules (by decide) head
  unfold assembleExpression
  dsimp only
  rw [List.reverse_append]
  refine Settles.bind (one.spannedExpr (by decide)) fun first => ?_
  refine Settles.foldlM first fun value child member => ?_
  have inside : child ∈ prefixes := List.mem_reverse.mp member
  exact Settles.bind (settles_applyPrefix (all child inside) value.1) fun _ => trivial

theorem settles_postfixExpression (arranged : Arranged refused .postfixExpression parts) :
    Settles refused (assembleExpression ⟨.postfixExpression, place, stop⟩ parts) := by
  obtain ⟨target, rest, rfl, first, none | ⟨operator, others, rfl, second, assertions⟩⟩ :=
    arranged.shape
  · obtain rfl := next_of_marks none (by decide)
    exact first.spannedExpr (by decide)
  · obtain rfl := next_of_marks assertions (by decide)
    refine Settles.bind (first.expr (by decide)) fun value => ?_
    cases value.isWritable with
    | false => exact .early rfl
    | true => exact trivial

/-- What an access or a call does settles. -/
theorem settles_applySuffix {child : Child} (one : child.OneOf refused Rule.suffixes)
    (base : Expr) : Settles refused (applySuffix base child) := by
  have sound := one.sound
  have listed := one.rule
  obtain ⟨⟨rule, start, stop⟩, value⟩ := child
  have alone : Child.OneOf refused [rule] (⟨rule, start, stop⟩, value) :=
    ⟨List.mem_singleton_self _, sound⟩
  change rule ∈ Rule.suffixes at listed
  simp only [Rule.suffixes, List.mem_cons, List.not_mem_nil, or_false] at listed
  rcases listed with rfl | rfl | rfl | rfl | rfl | rfl
  case inl | inr.inr.inl => exact Settles.bind (alone.elements (by decide)) fun _ => trivial
  case inr.inl | inr.inr.inr.inr.inl =>
    exact Settles.bind (alone.textValue (by decide)) fun _ => trivial
  all_goals exact Settles.bind (alone.expr (by decide)) fun _ => trivial

theorem settles_leftHandSideExpression (arranged : Arranged refused .leftHandSideExpression parts) :
    Settles refused (assembleExpression ⟨.leftHandSideExpression, place, stop⟩ parts) := by
  obtain ⟨first, suffixes, rfl, one, rest⟩ : ∃ first suffixes, parts = first :: suffixes ∧
      first.OneOf refused (.newExpression :: Rule.primaries) ∧
        (many (.call Rule.callSuffix)).Makes (sounding refused) (· = []) suffixes :=
    one_of_firstOf [.newExpression, .primaryExpression] (by decide) (by decide) arranged.shape
  have all := (startsWith_of_makes Rule.suffixes rfl rest).all
  refine Settles.bind (one.spannedExpr (by decide)) fun first => ?_
  refine Settles.foldlM first fun value child member => ?_
  exact Settles.bind (settles_applySuffix (all child member) value.1) fun _ => trivial

theorem settles_newExpression (arranged : Arranged refused .newExpression parts) :
    Settles refused (assembleExpression ⟨.newExpression, place, stop⟩ parts) := by
  obtain ⟨first, suffixes, rfl, one, rest⟩ := arranged.shape
  have later : (inOrder [many (firstOf [.call .memberDot, .call .memberBracket]),
      maybe (.call Rule.arguments)]).Makes (sounding refused) (· = []) suffixes := rest
  have all := (startsWith_of_makes [.memberDot, .memberBracket, .arguments] rfl later).all
  refine Settles.bind (one.expr (by decide)) fun callee => ?_
  refine Settles.bind (.foldlM callee fun value child member => ?_) fun _ => ?_
  · have inside := all child (List.mem_filter.mp member).1
    exact settles_applySuffix (inside.weaken (by decide)) value
  · have sound : ∀ child ∈ suffixes, child.Sound refused := fun child member =>
      (all child member).sound
    exact Settles.bind (.mapM_find sound fun child one => one.elements (by decide)) fun _ => trivial

/-- A template settles if each of its nodes is a piece or an expression. -/
theorem settles_assembleTemplate
    (all : ∀ child ∈ parts, child.OneOf refused [.templateChars, .templateSubstitution]) :
    Settles refused (assembleTemplate parts) := by
  induction parts with
  | nil => exact trivial
  | cons child others ih =>
    have one := all child List.mem_cons_self
    have rest := ih fun other member => all other (.tail _ member)
    rw [assembleTemplate]
    split
    case isTrue piece =>
      refine Settles.bind rest fun value => ?_
      obtain ⟨_ | _, _⟩ := value <;> exact trivial
    case isFalse other =>
      have alone : child.OneOf refused [.templateSubstitution] := by
        refine ⟨?_, one.sound⟩
        simpa [other] using one.rule
      exact Settles.bind (alone.expr (by decide)) fun _ => rest.bind fun _ => trivial

theorem settles_templateLiteral (arranged : Arranged refused .templateLiteral parts) :
    Settles refused (assembleExpression ⟨.templateLiteral, place, stop⟩ parts) := by
  have all := startsWith_of_makes [.templateChars, .templateSubstitution] rfl arranged.shape
  exact Settles.bind (settles_assembleTemplate all.all) fun _ => trivial

theorem settles_arrayLiteral (arranged : Arranged refused .arrayLiteral parts) :
    Settles refused (assembleExpression ⟨.arrayLiteral, place, stop⟩ parts) := by
  have all := (startsWith_of_makes Rule.elements rfl arranged.shape).all
  exact Settles.bind (.mapM fun child member => (all child member).elements (by decide))
    fun _ => trivial

theorem settles_objectLiteral (arranged : Arranged refused .objectLiteral parts) :
    Settles refused (assembleExpression ⟨.objectLiteral, place, stop⟩ parts) := by
  have all := (startsWith_of_makes Rule.properties rfl arranged.shape).all
  exact Settles.bind (.mapM fun child member => (all child member).property (by decide))
    fun _ => trivial

end

end PluginSandbox.Syntax
