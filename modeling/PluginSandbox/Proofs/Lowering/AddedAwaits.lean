import PluginSandbox.Proofs.Lowering.Gathering
import PluginSandbox.Proofs.Lowering.Pieces

/-!
# What awaiting adds

Awaiting the required modules of a tree adds `await`s right around calls of `require` and nothing
else, and it adds none where there is one: a tree without such `await`s is the same before and
after, and awaiting a second time changes nothing. What is written to in a tree can be written to
before and after.
-/
namespace PluginSandbox.Plugin

open Syntax

mutual

/-- An expression without the `await`s that are right around calls of `require`. -/
def bareExpr : Expr → Expr
  | .await (.call (.identifier name) arguments optional) =>
    if name = requireName then .call (.identifier name) (bareElements arguments) optional
    else .await (bareExpr (.call (.identifier name) arguments optional))
  | .await operand => .await (bareExpr operand)
  | .literal value => .literal value
  | .identifier name => .identifier name
  | .this => .this
  | .template quasis expressions => .template quasis (bareExprs expressions)
  | .array elements => .array (bareElements elements)
  | .object properties => .object (bareProperties properties)
  | .function definition => .function (bareFunction definition)
  | .arrow definition => .arrow (bareFunction definition)
  | .unary operator operand => .unary operator (bareExpr operand)
  | .update operator isPrefix target => .update operator isPrefix (bareExpr target)
  | .binary operator left right => .binary operator (bareExpr left) (bareExpr right)
  | .logical operator left right => .logical operator (bareExpr left) (bareExpr right)
  | .assign operator target value => .assign operator (bareExpr target) (bareExpr value)
  | .conditional test whenTrue whenFalse =>
    .conditional (bareExpr test) (bareExpr whenTrue) (bareExpr whenFalse)
  | .call callee arguments optional => .call (bareExpr callee) (bareElements arguments) optional
  | .new callee arguments => .new (bareExpr callee) (bareElements arguments)
  | .member base name optional => .member (bareExpr base) name optional
  | .index base key optional => .index (bareExpr base) (bareExpr key) optional

/-- Expressions without the `await`s that are right around calls of `require`. -/
def bareExprs : List Expr → List Expr
  | [] => []
  | e :: others => bareExpr e :: bareExprs others

/-- The items of a list without these `await`s. -/
def bareElements : List Element → List Element
  | [] => []
  | .item value :: others => .item (bareExpr value) :: bareElements others
  | .spread source :: others => .spread (bareExpr source) :: bareElements others

/-- A key without these `await`s. -/
def bareKey : PropertyKey → PropertyKey
  | .fixed name => .fixed name
  | .computed key => .computed (bareExpr key)

/-- The properties of an object without these `await`s. -/
def bareProperties : List Property → List Property
  | [] => []
  | .init key value shorthand :: others =>
    .init (bareKey key) (bareExpr value) shorthand :: bareProperties others
  | .method key definition :: others =>
    .method (bareKey key) (bareFunction definition) :: bareProperties others
  | .spread source :: others => .spread (bareExpr source) :: bareProperties others

/-- A pattern without these `await`s. -/
def barePattern : Pattern → Pattern
  | .identifier name => .identifier name
  | .object properties rest => .object (barePatternProperties properties) (bareRest rest)
  | .array elements rest => .array (barePatterns elements) (bareRest rest)
  | .withDefault target value => .withDefault (barePattern target) (bareExpr value)

/-- A pattern for what remains without these `await`s. -/
def bareRest : Option Pattern → Option Pattern
  | none => none
  | some pattern => some (barePattern pattern)

/-- Patterns without these `await`s. -/
def barePatterns : List Pattern → List Pattern
  | [] => []
  | pattern :: others => barePattern pattern :: barePatterns others

/-- The properties of a pattern without these `await`s. -/
def barePatternProperties : List PatternProperty → List PatternProperty
  | [] => []
  | .mk key value shorthand :: others =>
    .mk (bareKey key) (barePattern value) shorthand :: barePatternProperties others

/-- A function, asynchronous or not, without these `await`s. -/
def bareFunction : Function → Function
  | .mk name parameters rest body isAsync isArrow =>
    .mk name (barePatterns parameters) (bareRest rest) (bareBody body) isAsync isArrow

/-- The body of a function without these `await`s. -/
def bareBody : FunctionBody → FunctionBody
  | .block statements => .block (bareStatements statements)
  | .expression value => .expression (bareExpr value)

/-- An optional expression without these `await`s. -/
def bareOption : Option Expr → Option Expr
  | none => none
  | some e => some (bareExpr e)

/-- Variables without these `await`s. -/
def bareDeclarators : List Declarator → List Declarator
  | [] => []
  | .mk target initial :: others =>
    .mk (barePattern target) (bareOption initial) :: bareDeclarators others

/-- A declaration without these `await`s. -/
def bareDeclaration : VariableDeclaration → VariableDeclaration
  | .mk kind declarators => .mk kind (bareDeclarators declarators)

/-- The cases of a switch without these `await`s. -/
def bareCases : List SwitchCase → List SwitchCase
  | [] => []
  | .mk test body :: others => .mk (bareOption test) (bareStatements body) :: bareCases others

/-- A statement without these `await`s. -/
def bareStatement : Statement → Statement
  | .expression value => .expression (bareExpr value)
  | .block body => .block (bareStatements body)
  | .empty => .empty
  | .function definition => .function (bareFunction definition)
  | .variables declaration => .variables (bareDeclaration declaration)
  | .if test whenTrue whenFalse =>
    .if (bareExpr test) (bareStatement whenTrue)
      (match whenFalse with
        | none => none
        | some statement => some (bareStatement statement))
  | .while test body => .while (bareExpr test) (bareStatement body)
  | .for start test update body =>
    .for
      (match start with
        | none => none
        | some (.declaration declaration) => some (.declaration (bareDeclaration declaration))
        | some (.expression value) => some (.expression (bareExpr value)))
      (bareOption test) (bareOption update) (bareStatement body)
  | .forIn kind target source body =>
    .forIn kind (barePattern target) (bareExpr source) (bareStatement body)
  | .forOf kind target source body =>
    .forOf kind (barePattern target) (bareExpr source) (bareStatement body)
  | .switch subject cases => .switch (bareExpr subject) (bareCases cases)
  | .return value => .return (bareOption value)
  | .throw value => .throw (bareExpr value)
  | .try block handler finalizer =>
    .try (bareStatements block)
      (match handler with
        | none => none
        | some (.mk parameter body) => some (.mk (bareRest parameter) (bareStatements body)))
      (match finalizer with
        | none => none
        | some body => some (bareStatements body))
  | .break => .break
  | .continue => .continue

/-- Statements without these `await`s. -/
def bareStatements : List Statement → List Statement
  | [] => []
  | statement :: others => bareStatement statement :: bareStatements others

end

-- Only the `await`s of required modules are taken away.
example : bareExpr (.await (.await (requireCall "m"))) = .await (requireCall "m") := by
  cbv

/-- An `await` of anything but a call that loads a module is kept. -/
theorem bareExpr_await {operand : Expr} (other : isRequireCall operand = false) :
    bareExpr (.await operand) = .await (bareExpr operand) := by
  cases operand with
  | call callee arguments optional =>
    cases callee with
    | identifier name =>
      have unequal : name ≠ requireName := by simpa [isRequireCall] using other
      rw [bareExpr, if_neg unequal]
    | _ => rfl
  | _ => rfl

/-- An `await` of a call that loads a module is removed. -/
theorem bareExpr_await_require (arguments : List Element) (optional : Bool) :
    bareExpr (.await (.call (.identifier requireName) arguments optional)) =
      bareExpr (.call (.identifier requireName) arguments optional) := by
  rw [bareExpr, if_pos rfl]
  rfl

/-- The `await` that an expression gets is removed. -/
theorem bareExpr_awaited (e : Expr) : bareExpr (awaited e) = bareExpr e := by
  rw [awaited]
  split
  case isTrue requires =>
    obtain ⟨arguments, optional, rfl⟩ := eq_of_isRequireCall requires
    exact bareExpr_await_require arguments optional
  case isFalse => rfl

/-- What gets an `await` of its own does not get another. -/
theorem awaitInExpr_awaited (e : Expr) : awaitInExpr (awaited e) = awaitInExpr e := by
  rw [awaited]
  split
  case isTrue requires =>
    obtain ⟨arguments, optional, rfl⟩ := eq_of_isRequireCall requires
    exact awaitInExpr_await_require arguments optional
  case isFalse => rfl

/-- Rewriting a part of a tree adds only what can be taken away again, and adds it once. -/
structure AddsOnce {α : Type} (rewrite bare : α → α) (part : α) : Prop where
  /-- Without what is added, the part is as it was. -/
  bare_eq : bare (rewrite part) = bare part
  /-- Rewriting it again changes nothing. -/
  again : rewrite (rewrite part) = rewrite part

namespace AddsOnce

variable {α β γ δ ε : Type} {rewrite bare : ε → ε} {first firstBare : α → α}
  {second secondBare : β → β} {third thirdBare : γ → γ} {fourth fourthBare : δ → δ}

/-- A part that is not rewritten has nothing added to it. -/
theorem kept {part : ε} (same : rewrite part = part) : AddsOnce rewrite bare part :=
  ⟨by rw [same], by rw [same, same]⟩

/-- A part that is rewritten in one place. -/
theorem one (build : α → ε) {x : α} (adds : AddsOnce first firstBare x)
    (rewrites : ∀ x, rewrite (build x) = build (first x) := by exact fun _ => rfl)
    (bares : ∀ x, bare (build x) = build (firstBare x) := by exact fun _ => rfl) :
    AddsOnce rewrite bare (build x) :=
  ⟨by rw [rewrites, bares, bares, adds.bare_eq], by rw [rewrites, rewrites, adds.again]⟩

/-- A part that is rewritten in two places. -/
theorem two (build : α → β → ε) {x : α} {y : β} (adds : AddsOnce first firstBare x)
    (others : AddsOnce second secondBare y)
    (rewrites : ∀ x y, rewrite (build x y) = build (first x) (second y) := by
      exact fun _ _ => rfl)
    (bares : ∀ x y, bare (build x y) = build (firstBare x) (secondBare y) := by
      exact fun _ _ => rfl) :
    AddsOnce rewrite bare (build x y) :=
  ⟨by rw [rewrites, bares, bares, adds.bare_eq, others.bare_eq],
    by rw [rewrites, rewrites, adds.again, others.again]⟩

/-- A part that is rewritten in three places. -/
theorem three (build : α → β → γ → ε) {x : α} {y : β} {z : γ}
    (adds : AddsOnce first firstBare x) (others : AddsOnce second secondBare y)
    (last : AddsOnce third thirdBare z)
    (rewrites : ∀ x y z, rewrite (build x y z) = build (first x) (second y) (third z) := by
      exact fun _ _ _ => rfl)
    (bares : ∀ x y z, bare (build x y z) = build (firstBare x) (secondBare y) (thirdBare z) := by
      exact fun _ _ _ => rfl) :
    AddsOnce rewrite bare (build x y z) :=
  ⟨by rw [rewrites, bares, bares, adds.bare_eq, others.bare_eq, last.bare_eq],
    by rw [rewrites, rewrites, adds.again, others.again, last.again]⟩

/-- A part that is rewritten in four places. -/
theorem four (build : α → β → γ → δ → ε) {x : α} {y : β} {z : γ} {w : δ}
    (adds : AddsOnce first firstBare x) (others : AddsOnce second secondBare y)
    (more : AddsOnce third thirdBare z) (last : AddsOnce fourth fourthBare w)
    (rewrites : ∀ x y z w,
      rewrite (build x y z w) = build (first x) (second y) (third z) (fourth w) := by
      exact fun _ _ _ _ => rfl)
    (bares : ∀ x y z w,
      bare (build x y z w) = build (firstBare x) (secondBare y) (thirdBare z) (fourthBare w) := by
      exact fun _ _ _ _ => rfl) :
    AddsOnce rewrite bare (build x y z w) :=
  ⟨by rw [rewrites, bares, bares, adds.bare_eq, others.bare_eq, more.bare_eq, last.bare_eq],
    by rw [rewrites, rewrites, adds.again, others.again, more.again, last.again]⟩

/-- A call may get an `await` of its own. -/
theorem call {callee : Expr} {arguments : List Element} (optional : Bool)
    (inCallee : AddsOnce awaitInExpr bareExpr callee)
    (inArguments : AddsOnce awaitInElements bareElements arguments) :
    AddsOnce awaitInExpr bareExpr (.call callee arguments optional) := by
  have rewritten : awaitInExpr (.call callee arguments optional) =
    awaited (.call (awaitInExpr callee) (awaitInElements arguments) optional) := by rw [awaitInExpr]
  refine ⟨?_, ?_⟩
  · rw [rewritten, bareExpr_awaited, bareExpr, bareExpr, inCallee.bare_eq, inArguments.bare_eq]
  · rw [rewritten, awaitInExpr_awaited, awaitInExpr, inCallee.again, inArguments.again]

/-- An `await` of a call that loads a module is settled with the call; any other one is kept. -/
theorem await {operand : Expr} (inOperand : AddsOnce awaitInExpr bareExpr operand) :
    AddsOnce awaitInExpr bareExpr (.await operand) := by
  cases requires : isRequireCall operand with
  | true =>
    obtain ⟨arguments, optional, rfl⟩ := eq_of_isRequireCall requires
    refine ⟨?_, ?_⟩
    · rw [awaitInExpr_await_require, bareExpr_await_require, inOperand.bare_eq]
    · rw [awaitInExpr_await_require, inOperand.again]
  | false =>
    have settled := isRequireCall_awaitInExpr operand
    refine ⟨?_, ?_⟩
    · rw [awaitInExpr_await requires, bareExpr_await settled, bareExpr_await requires,
        inOperand.bare_eq]
    · rw [awaitInExpr_await requires, awaitInExpr_await settled, inOperand.again]

end AddsOnce

mutual

/-- Awaiting in an expression adds `await`s that can be taken away, once. -/
theorem addsOnce_expr (e : Expr) : AddsOnce awaitInExpr bareExpr e := by
  cases e with
  | literal value => exact .kept rfl
  | identifier name => exact .kept rfl
  | this => exact .kept rfl
  | template quasis expressions =>
    exact .one (Expr.template quasis) (addsOnce_exprs expressions)
  | array elements => exact .one Expr.array (addsOnce_elements elements)
  | object properties =>
    exact .one Expr.object (addsOnce_properties properties)
  | function definition =>
    exact .one Expr.function (addsOnce_function definition)
  | arrow definition =>
    exact .one Expr.arrow (addsOnce_function definition)
  | unary operator operand =>
    exact .one (Expr.unary operator) (addsOnce_expr operand)
  | update operator isPrefix target =>
    exact .one (Expr.update operator isPrefix) (addsOnce_expr target)
  | binary operator left right =>
    exact .two (Expr.binary operator) (addsOnce_expr left) (addsOnce_expr right)
  | logical operator left right =>
    exact .two (Expr.logical operator) (addsOnce_expr left) (addsOnce_expr right)
  | assign operator target value =>
    exact .two (Expr.assign operator) (addsOnce_expr target) (addsOnce_expr value)
  | conditional test whenTrue whenFalse =>
    exact .three Expr.conditional (addsOnce_expr test) (addsOnce_expr whenTrue)
      (addsOnce_expr whenFalse)
  | call callee arguments optional =>
    exact .call optional (addsOnce_expr callee) (addsOnce_elements arguments)
  | new callee arguments =>
    exact .two Expr.new (addsOnce_expr callee) (addsOnce_elements arguments)
  | member base name optional =>
    exact .one (Expr.member · name optional) (addsOnce_expr base)
  | index base key optional =>
    exact .two (Expr.index · · optional) (addsOnce_expr base) (addsOnce_expr key)
  | await operand => exact .await (addsOnce_expr operand)

theorem addsOnce_exprs (expressions : List Expr) :
    AddsOnce awaitInExprs bareExprs expressions := by
  cases expressions with
  | nil => exact .kept rfl
  | cons e others =>
    exact .two List.cons (addsOnce_expr e) (addsOnce_exprs others)

theorem addsOnce_elements (elements : List Element) :
    AddsOnce awaitInElements bareElements elements := by
  cases elements with
  | nil => exact .kept rfl
  | cons element others =>
    cases element with
    | item value =>
      exact .two (Element.item · :: ·) (addsOnce_expr value) (addsOnce_elements others)
    | spread source =>
      exact .two (Element.spread · :: ·) (addsOnce_expr source) (addsOnce_elements others)

theorem addsOnce_key (key : PropertyKey) : AddsOnce awaitInKey bareKey key := by
  cases key with
  | fixed name => exact .kept rfl
  | computed key => exact .one PropertyKey.computed (addsOnce_expr key)

theorem addsOnce_properties (properties : List Property) :
    AddsOnce awaitInProperties bareProperties properties := by
  cases properties with
  | nil => exact .kept rfl
  | cons property others =>
    cases property with
    | init key value shorthand =>
      exact .three (fun key value others => Property.init key value shorthand :: others)
        (addsOnce_key key) (addsOnce_expr value) (addsOnce_properties others)
    | method key definition =>
      exact .three (fun key definition others => Property.method key definition :: others)
        (addsOnce_key key) (addsOnce_function definition) (addsOnce_properties others)
    | spread source =>
      exact .two (Property.spread · :: ·) (addsOnce_expr source) (addsOnce_properties others)

theorem addsOnce_pattern (pattern : Pattern) : AddsOnce awaitInPattern barePattern pattern := by
  cases pattern with
  | identifier name => exact .kept rfl
  | object properties rest =>
    exact .two Pattern.object (addsOnce_patternProperties properties) (addsOnce_rest rest)
  | array elements rest =>
    exact .two Pattern.array (addsOnce_patterns elements) (addsOnce_rest rest)
  | withDefault target value =>
    exact .two Pattern.withDefault (addsOnce_pattern target) (addsOnce_expr value)

theorem addsOnce_rest (rest : Option Pattern) : AddsOnce awaitInRest bareRest rest := by
  cases rest with
  | none => exact .kept rfl
  | some pattern => exact .one some (addsOnce_pattern pattern)

theorem addsOnce_patterns (patterns : List Pattern) :
    AddsOnce awaitInPatterns barePatterns patterns := by
  cases patterns with
  | nil => exact .kept rfl
  | cons pattern others =>
    exact .two List.cons (addsOnce_pattern pattern) (addsOnce_patterns others)

theorem addsOnce_patternProperties (properties : List PatternProperty) :
    AddsOnce awaitInPatternProperties barePatternProperties properties := by
  cases properties with
  | nil => exact .kept rfl
  | cons property others =>
    obtain ⟨key, value, shorthand⟩ := property
    exact .three (fun key value others => PatternProperty.mk key value shorthand :: others)
      (addsOnce_key key) (addsOnce_pattern value) (addsOnce_patternProperties others)

theorem addsOnce_function (definition : Function) :
    AddsOnce awaitInFunction bareFunction definition := by
  obtain ⟨name, parameters, rest, body, isAsync, isArrow⟩ := definition
  cases isAsync with
  | true =>
    exact .three (fun parameters rest body => Function.mk name parameters rest body true isArrow)
      (addsOnce_patterns parameters) (addsOnce_rest rest) (addsOnce_body body)
  | false => exact .kept rfl

theorem addsOnce_body (body : FunctionBody) : AddsOnce awaitInBody bareBody body := by
  cases body with
  | block statements =>
    exact .one FunctionBody.block (addsOnce_statements statements)
  | expression value => exact .one FunctionBody.expression (addsOnce_expr value)

theorem addsOnce_option (value : Option Expr) : AddsOnce awaitInOption bareOption value := by
  cases value with
  | none => exact .kept rfl
  | some e => exact .one some (addsOnce_expr e)

theorem addsOnce_declarators (declarators : List Declarator) :
    AddsOnce awaitInDeclarators bareDeclarators declarators := by
  cases declarators with
  | nil => exact .kept rfl
  | cons declarator others =>
    obtain ⟨target, initial⟩ := declarator
    exact .three (fun target initial others => Declarator.mk target initial :: others)
      (addsOnce_pattern target) (addsOnce_option initial) (addsOnce_declarators others)

theorem addsOnce_declaration (declaration : VariableDeclaration) :
    AddsOnce awaitInDeclaration bareDeclaration declaration := by
  obtain ⟨kind, declarators⟩ := declaration
  exact .one (VariableDeclaration.mk kind) (addsOnce_declarators declarators)

theorem addsOnce_cases (branches : List SwitchCase) :
    AddsOnce awaitInCases bareCases branches := by
  cases branches with
  | nil => exact .kept rfl
  | cons branch others =>
    obtain ⟨test, body⟩ := branch
    exact .three (fun test body others => SwitchCase.mk test body :: others) (addsOnce_option test)
      (addsOnce_statements body) (addsOnce_cases others)

/-- Awaiting in a statement adds `await`s that can be taken away, once. -/
theorem addsOnce_statement (statement : Statement) :
    AddsOnce awaitInStatement bareStatement statement := by
  cases statement with
  | expression value => exact .one Statement.expression (addsOnce_expr value)
  | block body => exact .one Statement.block (addsOnce_statements body)
  | empty => exact .kept rfl
  | function definition =>
    exact .one Statement.function (addsOnce_function definition)
  | «variables» declaration =>
    exact .one Statement.variables (addsOnce_declaration declaration)
  | «if» test whenTrue whenFalse =>
    cases whenFalse with
    | none =>
      exact .two (Statement.if · · none) (addsOnce_expr test) (addsOnce_statement whenTrue)
    | some whenFalse =>
      exact .three (fun test whenTrue whenFalse => Statement.if test whenTrue (some whenFalse))
        (addsOnce_expr test) (addsOnce_statement whenTrue) (addsOnce_statement whenFalse)
  | «while» test body =>
    exact .two Statement.while (addsOnce_expr test) (addsOnce_statement body)
  | «for» start test update body =>
    match start with
    | none =>
      exact .three (Statement.for none) (addsOnce_option test) (addsOnce_option update)
        (addsOnce_statement body)
    | some (.declaration declaration) =>
      exact .four (fun declaration => Statement.for (some (.declaration declaration)))
        (addsOnce_declaration declaration) (addsOnce_option test) (addsOnce_option update)
        (addsOnce_statement body)
    | some (.expression value) =>
      exact .four (fun value => Statement.for (some (.expression value))) (addsOnce_expr value)
        (addsOnce_option test) (addsOnce_option update) (addsOnce_statement body)
  | forIn kind target source body =>
    exact .three (Statement.forIn kind) (addsOnce_pattern target) (addsOnce_expr source)
      (addsOnce_statement body)
  | forOf kind target source body =>
    exact .three (Statement.forOf kind) (addsOnce_pattern target) (addsOnce_expr source)
      (addsOnce_statement body)
  | switch subject branches =>
    exact .two Statement.switch (addsOnce_expr subject) (addsOnce_cases branches)
  | «return» value => exact .one Statement.return (addsOnce_option value)
  | throw value => exact .one Statement.throw (addsOnce_expr value)
  | «try» block handler finalizer =>
    match handler, finalizer with
    | none, none =>
      exact .one (Statement.try · none none) (addsOnce_statements block)
    | none, some last =>
      exact .two (fun block last => Statement.try block none (some last))
        (addsOnce_statements block) (addsOnce_statements last)
    | some (.mk parameter body), none =>
      exact .three
        (fun block parameter body => Statement.try block (some (.mk parameter body)) none)
        (addsOnce_statements block) (addsOnce_rest parameter) (addsOnce_statements body)
    | some (.mk parameter body), some last =>
      exact .four
        (fun block parameter body last =>
          Statement.try block (some (.mk parameter body)) (some last))
        (addsOnce_statements block) (addsOnce_rest parameter) (addsOnce_statements body)
        (addsOnce_statements last)
  | «break» => exact .kept rfl
  | «continue» => exact .kept rfl

theorem addsOnce_statements (statements : List Statement) :
    AddsOnce awaitInStatements bareStatements statements := by
  cases statements with
  | nil => exact .kept rfl
  | cons statement others =>
    exact .two List.cons (addsOnce_statement statement) (addsOnce_statements others)

end

/-- What becomes of an expression can be written to if the expression can. -/
theorem isWritable_awaitInExpr (e : Expr) : (awaitInExpr e).isWritable = e.isWritable := by
  cases e with
  | call callee arguments optional =>
    rw [awaitInExpr, awaited]
    split
    · rfl
    · rfl
  | await operand =>
    obtain ⟨rewritten, same⟩ := awaitInExpr_await_eq operand
    rw [same]
    rfl
  | member base name optional => cases optional <;> rfl
  | index base key optional => cases optional <;> rfl
  | _ => rfl

/-- Whether what an expression writes to can be written to, if it writes to anything. -/
def targetWritable : Expr → List Bool
  | .update _ _ target => [target.isWritable]
  | .assign _ target _ => [target.isWritable]
  | _ => []

/-- Awaiting does not change what can be written to. -/
theorem overlooks_targetWritable : Overlooks targetWritable where
  await _ := rfl
  call _ _ _ := rfl
  other e noCall := by
    cases e with
    | update operator isPrefix target => exact congrArg ([·]) (isWritable_awaitInExpr target)
    | assign operator target value => exact congrArg ([·]) (isWritable_awaitInExpr target)
    | call callee arguments optional => exact absurd rfl (noCall callee arguments optional)
    | await operand =>
      obtain ⟨rewritten, same⟩ := awaitInExpr_await_eq operand
      rw [same]
      rfl
    | _ => rfl

/-- The places of a tree where its script waits. -/
def waitsIn (statements : List Statement) : List Site :=
  (sitesInStatements statements).filter (·.kind = .wait)

/-- Settling keeps the places where a script waits. -/
theorem waits_sublist_settled (sites : List Site) :
    (sites.filter (·.kind = .wait)).Sublist
      ((sites.flatMap Site.settled).filter (·.kind = .wait)) := by
  induction sites with
  | nil => exact .slnil
  | cons site others ih =>
    have first : ([site].filter (·.kind = .wait)).Sublist
        (site.settled.filter (·.kind = .wait)) := by
      rw [Site.settled]
      split
      case isTrue owes =>
        have kind : site.kind = .require false := by
          simp only [Site.owesAwait, Bool.and_eq_true, decide_eq_true_eq] at owes
          exact owes.1
        simp [kind]
      case isFalse => exact .refl _
    rw [← List.singleton_append, List.filter_append, List.flatMap_append, List.filter_append,
      List.flatMap_singleton]
    exact first.append ih

/-- Awaiting the modules that statements require adds `await`s right around calls of `require` and
nothing else, and adds them once: a second time nothing changes, without such `await`s the
statements are as they were, every `await` of the author stays, a call that the author awaits gets
no other one, and what was written to can be written to. -/
theorem awaits_added_once (statements : List Statement) :
    let rewritten := statements.map awaitInStatement
    rewritten.map awaitInStatement = rewritten ∧
    rewritten.map bareStatement = statements.map bareStatement ∧
    (waitsIn statements).Sublist (waitsIn rewritten) ∧
    gatherStatements targetWritable rewritten = gatherStatements targetWritable statements ∧
    ∀ arguments optional,
      awaitInExpr (.await (.call (.identifier requireName) arguments optional)) =
        .await (.call (.identifier requireName) (awaitInElements arguments) optional) := by
  intro rewritten
  have whole : awaitInStatements statements = rewritten := awaitInStatements_eq_map statements
  refine ⟨?_, ?_, ?_, ?_, fun arguments optional => ?_⟩
  · rw [List.map_map]
    exact List.map_congr_left fun statement _ => (addsOnce_statement statement).again
  · rw [List.map_map]
    exact List.map_congr_left fun statement _ => (addsOnce_statement statement).bare_eq
  · have settled := sitesInStatements_awaitInStatements statements
    rw [waitsIn, waitsIn, ← whole, settled]
    exact waits_sublist_settled _
  · rw [← whole]
    exact overlooks_targetWritable.statements statements
  · rw [awaitInExpr, if_pos rfl]

/-- A required module that is called is awaited, and the call is not. -/
example :
    awaitInExpr (.call (.call (.identifier "require") [] false) [] false) =
      .call (.await (.call (.identifier "require") [] false)) [] false :=
  rfl

end PluginSandbox.Plugin
