import PluginSandbox.Proofs.Syntax.Endings

/-!
# What nodes denote

For every rule that a printed operation is read by, what a node of the rule denotes if the nodes
below it denote what they should.
-/
namespace PluginSandbox.Syntax

open Peg (Node)

/-- What a node of a rule for expressions is asked to denote. -/
def Denotes (rule : Rule) (e : Expr) : Asked :=
  fun child => child.rule = rule ∧ ∃ span, child.2 = .ok (.expression e span)

/-- What a node that stands for an expression in any way is asked to denote. -/
def Stands (e : Expr) : Asked :=
  fun child => child.rule.isNoise = false ∧ ∃ span, child.spannedExpr = .ok (e, span)

/-- What a node that stands for an item of a list is asked to denote. -/
def Lists (element : Element) : Asked :=
  fun child => child.rule.isNoise = false ∧ child.elements = .ok [element]

/-- What the node of a name, reserved or not, is asked to be. -/
def SpellsName (name : String) : Asked :=
  fun child => child.rule = .identifierName ∧ child.text = name ∧ child.2 = .ok .word

section

variable {node : Node Rule} {children : List Child} {e : Expr}

/-- A node that denotes an expression stands for it. -/
theorem Denotes.stands {rule : Rule} {child : Child} (shows : rule.isNoise = false)
    (denotes : Denotes rule e child) : Stands e child := by
  obtain ⟨same, span, value⟩ := denotes
  refine ⟨by rw [same, shows], span, ?_⟩
  rw [Child.spannedExpr, value]
  rfl

/-- The expression that a node stands for. -/
theorem Stands.expr {child : Child} (stands : Stands e child) : child.expr = .ok e := by
  obtain ⟨_, span, value⟩ := stands
  rw [Child.expr, value]
  rfl

/-- Whether a node that is as asked matters. -/
def Shown (ask : Asked) : Prop := ∀ child, ask child → child.rule.isNoise = false

/-- A node of a rule that matters matters. -/
theorem Denotes.shown {rule : Rule} (shows : rule.isNoise = false) : Shown (Denotes rule e) :=
  fun _ denotes => (denotes.stands shows).1

/-- A node of a rule that matters matters. -/
theorem Marks.shown {rule : Rule} (shows : rule.isNoise = false) : Shown (Marks rule) := by
  intro child marks
  rw [show child.rule = rule from marks, shows]

/-- Nodes that matter are all kept. -/
theorem filter_noise {asked : List Asked} (meets : Meets children asked)
    (shows : ∀ ask ∈ asked, Shown ask) :
    (children.filter fun child => !child.rule.isNoise) = children := by
  induction meets with
  | nil => rfl
  | @cons child ask _ asked first _ ih =>
    have shown := shows ask List.mem_cons_self child first
    rw [List.filter_cons_of_pos (by rw [shown]; rfl),
      ih fun ask member => shows ask (.tail _ member)]

/-- Nodes that matter are all kept. -/
theorem filter_noise_all {asked : List Asked} (meets : Meets children asked)
    (shows : asked.Forall Shown) :
    (children.filter fun child => !child.rule.isNoise) = children :=
  filter_noise meets (List.forall_iff_forall_mem.mp shows)

/-- The rules whose nodes denote what the one node below them denotes. -/
def Rule.passes : Rule → Bool
  | .assignmentExpression | .conditionalExpression | .postfixExpression | .expression
    | .parenthesizedExpression | .templateSubstitution | .memberBracket | .optionalBracket => true
  | _ => false

/-- A node of a rule that passes on an expression denotes it. -/
theorem denotes_passes {rule : Rule} {ask : Asked} (passes : rule.passes = true)
    (stands : ∀ child, ask child → Stands e child) (same : node.rule = rule)
    (meets : Meets children [ask]) : Denotes rule e (node, assemble node children) := by
  have parts := filter_noise_all meets (show Shown ask from fun child asks => (stands child asks).1)
  cases meets with
  | @cons inner _ _ _ first others =>
  cases others with
  | nil =>
    obtain ⟨_, span, value⟩ := stands inner first
    obtain ⟨kind, place, stop⟩ := node
    change kind = rule at same
    subst same
    refine ⟨rfl, span, ?_⟩
    unfold assemble
    rw [parts]
    cases kind with
    | assignmentExpression | conditionalExpression | postfixExpression | expression
      | parenthesizedExpression | templateSubstitution | memberBracket | optionalBracket =>
      change (do
        let found ← inner.spannedExpr
        return Part.expression found.1 found.2) = _
      rw [value]
      rfl
    | _ => cases passes

/-- A node of a choice between two expressions denotes it. -/
theorem denotes_conditional {test whenTrue whenFalse : Expr}
    (same : node.rule = .conditionalExpression)
    (meets : Meets children [Denotes .binaryExpression test,
      Denotes .assignmentExpression whenTrue, Denotes .assignmentExpression whenFalse]) :
    Denotes .conditionalExpression (.conditional test whenTrue whenFalse)
      (node, assemble node children) := by
  have parts := filter_noise_all meets
    ⟨Denotes.shown rfl, Denotes.shown rfl, Denotes.shown rfl⟩
  cases meets with
  | @cons first _ _ _ one more =>
  cases more with
  | @cons second _ _ _ two more =>
  cases more with
  | @cons third _ _ _ three more =>
  cases more with
  | nil =>
    obtain ⟨_, place, stop⟩ := node
    cases same
    refine ⟨rfl, spanOf ⟨.conditionalExpression, place, stop⟩, ?_⟩
    unfold assemble
    rw [parts]
    change (do
      let found ← (do
        let test ← first.expr
        let whenTrue ← second.expr
        return (Expr.conditional test whenTrue (← third.expr), spanOf _))
      return Part.expression found.1 found.2) = _
    rw [(one.stands rfl).expr, (two.stands rfl).expr, (three.stands rfl).expr]
    rfl

/-- What the node of an assignment operator is asked for. -/
def Spells (operator : AssignmentOperator) : Asked :=
  fun child => child.rule = .assignmentOperator ∧ child.text = operator.spelling

/-- An operator is found by its spelling. -/
theorem find_spelling (operator : AssignmentOperator) :
    (assignmentOperators.find? fun op => op.spelling = operator.spelling) = some operator := by
  cases operator <;> decide

/-- A node of an assignment denotes it. -/
theorem denotes_assign {operator : AssignmentOperator} {target value : Expr}
    (writable : target.isWritable = true) (same : node.rule = .assignmentExpression)
    (meets : Meets children [Denotes .conditionalExpression target, Spells operator,
      Denotes .assignmentExpression value]) :
    Denotes .assignmentExpression (.assign operator target value)
      (node, assemble node children) := by
  have shown : Shown (Spells operator) := fun child spells => by rw [spells.1]; rfl
  have parts := filter_noise_all meets ⟨Denotes.shown rfl, shown, Denotes.shown rfl⟩
  cases meets with
  | @cons first _ _ _ one more =>
  cases more with
  | @cons second _ _ _ two more =>
  cases more with
  | @cons third _ _ _ three more =>
  cases more with
  | nil =>
    obtain ⟨_, place, stop⟩ := node
    cases same
    refine ⟨rfl, spanOf ⟨.assignmentExpression, place, stop⟩, ?_⟩
    have found : (assignmentOperators.find? fun op => op.spelling = second.text) =
        some operator := by
      rw [two.2]
      exact find_spelling operator
    unfold assemble
    rw [parts]
    dsimp only
    unfold assembleExpression
    dsimp only
    rw [found, (one.stands rfl).expr, (three.stands rfl).expr]
    change (do
      let found ← (do
        if !target.isWritable then throw (⟨.invalidAssignment, spanOf first.1⟩ : Problem)
        return (Expr.assign operator target value, spanOf _))
      return Part.expression found.1 found.2) = _
    rw [writable]
    rfl

/-- What the node of a change by one after its target is asked for. -/
def postfixRule : UpdateOperator → Rule
  | .increment => .postIncrement
  | .decrement => .postDecrement

/-- A node of a change by one after its target denotes it. -/
theorem denotes_update {operator : UpdateOperator} {target : Expr}
    (writable : target.isWritable = true) (same : node.rule = .postfixExpression)
    (meets : Meets children [Denotes .leftHandSideExpression target,
      Marks (postfixRule operator)]) :
    Denotes .postfixExpression (.update operator false target) (node, assemble node children) := by
  have shown : Shown (Marks (postfixRule operator)) := Marks.shown (by cases operator <;> rfl)
  have parts := filter_noise_all meets ⟨Denotes.shown rfl, shown⟩
  cases meets with
  | @cons first _ _ _ one more =>
  cases more with
  | @cons second _ _ _ two more =>
  cases more with
  | nil =>
    obtain ⟨_, place, stop⟩ := node
    cases same
    refine ⟨rfl, spanOf ⟨.postfixExpression, place, stop⟩, ?_⟩
    have found : (if second.rule = Rule.postIncrement then UpdateOperator.increment else .decrement)
        = operator := by
      rw [show second.rule = _ from two]
      cases operator <;> rfl
    unfold assemble
    rw [parts]
    change (do
      let found ← (do
        let value ← first.expr
        if !value.isWritable then throw (⟨.invalidPostfixUpdate, spanOf second.1⟩ : Problem)
        return (Expr.update (if second.rule = Rule.postIncrement then UpdateOperator.increment
          else .decrement) false value, spanOf _))
      return Part.expression found.1 found.2) = _
    rw [found, (one.stands rfl).expr]
    change (do
      let found ← (do
        if !target.isWritable then throw (⟨.invalidPostfixUpdate, spanOf second.1⟩ : Problem)
        return (Expr.update operator false target, spanOf _))
      return Part.expression found.1 found.2) = _
    rw [writable]
    rfl

end

end PluginSandbox.Syntax
