import PluginSandbox.Proofs.Lowering.Awaits

/-!
# What is found in a tree

A view of single expressions is taken to whole trees: what it shows of every expression in them,
in the order of the text. Awaiting required modules leaves alone what is found in a tree if the
view shows nothing of an `await` and does not see what becomes of the parts of an expression.
-/
namespace PluginSandbox.Plugin

open Syntax

section

variable {α : Type} (view : Expr → List α)

mutual

/-- What a view shows of an expression and of those in it. -/
def gatherExpr : Expr → List α
  | .literal value => view (.literal value)
  | .identifier name => view (.identifier name)
  | .this => view .this
  | .template quasis expressions =>
    view (.template quasis expressions) ++ gatherExprs expressions
  | .array elements => view (.array elements) ++ gatherElements elements
  | .object properties => view (.object properties) ++ gatherProperties properties
  | .function definition => view (.function definition) ++ gatherFunction definition
  | .arrow definition => view (.arrow definition) ++ gatherFunction definition
  | .unary operator operand => view (.unary operator operand) ++ gatherExpr operand
  | .update operator isPrefix target =>
    view (.update operator isPrefix target) ++ gatherExpr target
  | .binary operator left right =>
    view (.binary operator left right) ++ gatherExpr left ++ gatherExpr right
  | .logical operator left right =>
    view (.logical operator left right) ++ gatherExpr left ++ gatherExpr right
  | .assign operator target value =>
    view (.assign operator target value) ++ gatherExpr target ++ gatherExpr value
  | .conditional test whenTrue whenFalse =>
    view (.conditional test whenTrue whenFalse) ++ gatherExpr test ++ gatherExpr whenTrue
      ++ gatherExpr whenFalse
  | .call callee arguments optional =>
    view (.call callee arguments optional) ++ gatherExpr callee ++ gatherElements arguments
  | .new callee arguments =>
    view (.new callee arguments) ++ gatherExpr callee ++ gatherElements arguments
  | .member base name optional => view (.member base name optional) ++ gatherExpr base
  | .index base key optional =>
    view (.index base key optional) ++ gatherExpr base ++ gatherExpr key
  | .await operand => view (.await operand) ++ gatherExpr operand

/-- What a view shows of expressions and of those in them. -/
def gatherExprs : List Expr → List α
  | [] => []
  | e :: others => gatherExpr e ++ gatherExprs others

/-- What a view shows of the items of a list. -/
def gatherElements : List Element → List α
  | [] => []
  | .item value :: others => gatherExpr value ++ gatherElements others
  | .spread source :: others => gatherExpr source ++ gatherElements others

/-- What a view shows of a key. -/
def gatherKey : PropertyKey → List α
  | .fixed _ => []
  | .computed key => gatherExpr key

/-- What a view shows of the properties of an object. -/
def gatherProperties : List Property → List α
  | [] => []
  | .init key value _ :: others => gatherKey key ++ gatherExpr value ++ gatherProperties others
  | .method key definition :: others =>
    gatherKey key ++ gatherFunction definition ++ gatherProperties others
  | .spread source :: others => gatherExpr source ++ gatherProperties others

/-- What a view shows of a pattern. -/
def gatherPattern : Pattern → List α
  | .identifier _ => []
  | .object properties rest => gatherPatternProperties properties ++ gatherRest rest
  | .array elements rest => gatherPatterns elements ++ gatherRest rest
  | .withDefault target value => gatherPattern target ++ gatherExpr value

/-- What a view shows of a pattern for what remains. -/
def gatherRest : Option Pattern → List α
  | none => []
  | some pattern => gatherPattern pattern

/-- What a view shows of patterns. -/
def gatherPatterns : List Pattern → List α
  | [] => []
  | pattern :: others => gatherPattern pattern ++ gatherPatterns others

/-- What a view shows of the properties of a pattern. -/
def gatherPatternProperties : List PatternProperty → List α
  | [] => []
  | .mk key value _ :: others =>
    gatherKey key ++ gatherPattern value ++ gatherPatternProperties others

/-- What a view shows of a function. -/
def gatherFunction : Function → List α
  | .mk _ parameters rest body _ _ =>
    gatherPatterns parameters ++ gatherRest rest ++ gatherBody body

/-- What a view shows of the body of a function. -/
def gatherBody : FunctionBody → List α
  | .block statements => gatherStatements statements
  | .expression value => gatherExpr value

/-- What a view shows of an optional expression. -/
def gatherOption : Option Expr → List α
  | none => []
  | some e => gatherExpr e

/-- What a view shows of variables. -/
def gatherDeclarators : List Declarator → List α
  | [] => []
  | .mk target initial :: others =>
    gatherPattern target ++ gatherOption initial ++ gatherDeclarators others

/-- What a view shows of a declaration. -/
def gatherDeclaration : VariableDeclaration → List α
  | .mk _ declarators => gatherDeclarators declarators

/-- What a view shows of the cases of a switch. -/
def gatherCases : List SwitchCase → List α
  | [] => []
  | .mk test body :: others => gatherOption test ++ gatherStatements body ++ gatherCases others

/-- What a view shows of a statement. -/
def gatherStatement : Statement → List α
  | .expression value => gatherExpr value
  | .block body => gatherStatements body
  | .empty => []
  | .function definition => gatherFunction definition
  | .variables declaration => gatherDeclaration declaration
  | .if test whenTrue whenFalse =>
    gatherExpr test ++ gatherStatement whenTrue ++
      (match whenFalse with
        | none => []
        | some statement => gatherStatement statement)
  | .while test body => gatherExpr test ++ gatherStatement body
  | .for start test update body =>
    (match start with
      | none => []
      | some (.declaration declaration) => gatherDeclaration declaration
      | some (.expression value) => gatherExpr value) ++
      gatherOption test ++ gatherOption update ++ gatherStatement body
  | .forIn _ target source body =>
    gatherPattern target ++ gatherExpr source ++ gatherStatement body
  | .forOf _ target source body =>
    gatherPattern target ++ gatherExpr source ++ gatherStatement body
  | .switch subject cases => gatherExpr subject ++ gatherCases cases
  | .return value => gatherOption value
  | .throw value => gatherExpr value
  | .try block handler finalizer =>
    gatherStatements block ++
      (match handler with
        | none => []
        | some (.mk parameter body) => gatherRest parameter ++ gatherStatements body) ++
      (match finalizer with
        | none => []
        | some body => gatherStatements body)
  | .break => []
  | .continue => []

/-- What a view shows of statements. -/
def gatherStatements : List Statement → List α
  | [] => []
  | statement :: others => gatherStatement statement ++ gatherStatements others

end

-- A view that shows every expression shows a call before its argument.
example : gatherExpr (fun e => [e.render 0]) (.await (.call (.identifier "f") [.item .this] false)) =
    ["await f(this)", "f(this)", "f", "this"] := by
  cbv

theorem gatherStatements_eq_flatMap (statements : List Statement) :
    gatherStatements view statements = statements.flatMap (gatherStatement view) := by
  induction statements with
  | nil => rfl
  | cons statement others ih => rw [gatherStatements, ih, List.flatMap_cons]

/-- A view shows nothing of an `await`, and of other expressions nothing that awaiting in their
parts changes. -/
structure Overlooks : Prop where
  /-- Nothing is shown of an `await`. -/
  await : ∀ operand, view (.await operand) = []
  /-- A call is seen as it was. -/
  call : ∀ callee arguments optional,
    view (.call (awaitInExpr callee) (awaitInElements arguments) optional) =
      view (.call callee arguments optional)
  /-- So is anything else. -/
  other : ∀ e, (∀ callee arguments optional, e ≠ .call callee arguments optional) →
    view (awaitInExpr e) = view e

variable {view}

/-- An `await` that is put around a call is overlooked. -/
theorem Overlooks.gather_awaited (overlooks : Overlooks view) (e : Expr) :
    gatherExpr view (awaited e) = gatherExpr view e := by
  rw [awaited]
  split
  · rw [gatherExpr, overlooks.await, List.nil_append]
  · rfl

/-- What is found in a call is found in it after awaiting. -/
theorem Overlooks.gather_call (overlooks : Overlooks view) {callee : Expr}
    {arguments : List Element} (optional : Bool)
    (inCallee : gatherExpr view (awaitInExpr callee) = gatherExpr view callee)
    (inArguments : gatherElements view (awaitInElements arguments) =
      gatherElements view arguments) :
    gatherExpr view (awaitInExpr (.call callee arguments optional)) =
      gatherExpr view (.call callee arguments optional) := by
  rw [awaitInExpr, overlooks.gather_awaited, gatherExpr, overlooks.call, inCallee, inArguments,
    gatherExpr]

/-- An `await` of a call that loads a module is what the call becomes. -/
theorem awaitInExpr_await_require (arguments : List Element) (optional : Bool) :
    awaitInExpr (.await (.call (.identifier requireName) arguments optional)) =
      awaitInExpr (.call (.identifier requireName) arguments optional) := by
  rw [awaitInExpr, if_pos rfl]
  rfl

/-- What is found in the operand of an `await` is found in it after awaiting. -/
theorem Overlooks.gather_await (overlooks : Overlooks view) {operand : Expr}
    (inOperand : gatherExpr view (awaitInExpr operand) = gatherExpr view operand) :
    gatherExpr view (awaitInExpr (.await operand)) = gatherExpr view (.await operand) := by
  rw [gatherExpr, overlooks.await, List.nil_append, ← inOperand]
  cases requires : isRequireCall operand with
  | true =>
    obtain ⟨arguments, optional, rfl⟩ := eq_of_isRequireCall requires
    rw [awaitInExpr_await_require]
  | false => rw [awaitInExpr_await requires, gatherExpr, overlooks.await, List.nil_append]

mutual

/-- What is found in an expression is found in it after awaiting. -/
theorem Overlooks.expr (overlooks : Overlooks view) (e : Expr) :
    gatherExpr view (awaitInExpr e) = gatherExpr view e := by
  cases e with
  | literal value => rfl
  | identifier name => rfl
  | this => rfl
  | template quasis expressions =>
    have seen := overlooks.other (.template quasis expressions) nofun
    simp only [awaitInExpr, gatherExpr] at seen ⊢
    rw [seen, overlooks.exprs expressions]
  | array elements =>
    have seen := overlooks.other (.array elements) nofun
    simp only [awaitInExpr, gatherExpr] at seen ⊢
    rw [seen, overlooks.elements elements]
  | object properties =>
    have seen := overlooks.other (.object properties) nofun
    simp only [awaitInExpr, gatherExpr] at seen ⊢
    rw [seen, overlooks.properties properties]
  | function definition =>
    have seen := overlooks.other (.function definition) nofun
    simp only [awaitInExpr, gatherExpr] at seen ⊢
    rw [seen, overlooks.function definition]
  | arrow definition =>
    have seen := overlooks.other (.arrow definition) nofun
    simp only [awaitInExpr, gatherExpr] at seen ⊢
    rw [seen, overlooks.function definition]
  | unary operator operand =>
    have seen := overlooks.other (.unary operator operand) nofun
    simp only [awaitInExpr, gatherExpr] at seen ⊢
    rw [seen, overlooks.expr operand]
  | update operator isPrefix target =>
    have seen := overlooks.other (.update operator isPrefix target) nofun
    simp only [awaitInExpr, gatherExpr] at seen ⊢
    rw [seen, overlooks.expr target]
  | binary operator left right =>
    have seen := overlooks.other (.binary operator left right) nofun
    simp only [awaitInExpr, gatherExpr] at seen ⊢
    rw [seen, overlooks.expr left, overlooks.expr right]
  | logical operator left right =>
    have seen := overlooks.other (.logical operator left right) nofun
    simp only [awaitInExpr, gatherExpr] at seen ⊢
    rw [seen, overlooks.expr left, overlooks.expr right]
  | assign operator target value =>
    have seen := overlooks.other (.assign operator target value) nofun
    simp only [awaitInExpr, gatherExpr] at seen ⊢
    rw [seen, overlooks.expr target, overlooks.expr value]
  | conditional test whenTrue whenFalse =>
    have seen := overlooks.other (.conditional test whenTrue whenFalse) nofun
    simp only [awaitInExpr, gatherExpr] at seen ⊢
    rw [seen, overlooks.expr test, overlooks.expr whenTrue,
      overlooks.expr whenFalse]
  | call callee arguments optional =>
    exact overlooks.gather_call optional (overlooks.expr callee)
      (overlooks.elements arguments)
  | new callee arguments =>
    have seen := overlooks.other (.new callee arguments) nofun
    simp only [awaitInExpr, gatherExpr] at seen ⊢
    rw [seen, overlooks.expr callee, overlooks.elements arguments]
  | member base name optional =>
    have seen := overlooks.other (.member base name optional) nofun
    simp only [awaitInExpr, gatherExpr] at seen ⊢
    rw [seen, overlooks.expr base]
  | index base key optional =>
    have seen := overlooks.other (.index base key optional) nofun
    simp only [awaitInExpr, gatherExpr] at seen ⊢
    rw [seen, overlooks.expr base, overlooks.expr key]
  | await operand => exact overlooks.gather_await (overlooks.expr operand)

theorem Overlooks.exprs (overlooks : Overlooks view) (expressions : List Expr) :
    gatherExprs view (awaitInExprs expressions) = gatherExprs view expressions := by
  cases expressions with
  | nil => rfl
  | cons e others =>
    simp only [awaitInExprs, gatherExprs, overlooks.expr e,
      overlooks.exprs others]

theorem Overlooks.elements (overlooks : Overlooks view) (elements : List Element) :
    gatherElements view (awaitInElements elements) = gatherElements view elements := by
  cases elements with
  | nil => rfl
  | cons element others =>
    cases element with
    | item value =>
      simp only [awaitInElements, gatherElements, overlooks.expr value,
        overlooks.elements others]
    | spread source =>
      simp only [awaitInElements, gatherElements, overlooks.expr source,
        overlooks.elements others]

theorem Overlooks.key (overlooks : Overlooks view) (key : PropertyKey) :
    gatherKey view (awaitInKey key) = gatherKey view key := by
  cases key with
  | fixed name => rfl
  | computed key => exact overlooks.expr key

theorem Overlooks.properties (overlooks : Overlooks view) (properties : List Property) :
    gatherProperties view (awaitInProperties properties) = gatherProperties view properties := by
  cases properties with
  | nil => rfl
  | cons property others =>
    cases property with
    | init key value shorthand =>
      simp only [awaitInProperties, gatherProperties, overlooks.key key,
        overlooks.expr value, overlooks.properties others]
    | method key definition =>
      simp only [awaitInProperties, gatherProperties, overlooks.key key,
        overlooks.function definition, overlooks.properties others]
    | spread source =>
      simp only [awaitInProperties, gatherProperties, overlooks.expr source,
        overlooks.properties others]

theorem Overlooks.pattern (overlooks : Overlooks view) (pattern : Pattern) :
    gatherPattern view (awaitInPattern pattern) = gatherPattern view pattern := by
  cases pattern with
  | identifier name => rfl
  | object properties rest =>
    simp only [awaitInPattern, gatherPattern,
      overlooks.patternProperties properties, overlooks.rest rest]
  | array elements rest =>
    simp only [awaitInPattern, gatherPattern, overlooks.patterns elements,
      overlooks.rest rest]
  | withDefault target value =>
    simp only [awaitInPattern, gatherPattern, overlooks.pattern target,
      overlooks.expr value]

theorem Overlooks.rest (overlooks : Overlooks view) (rest : Option Pattern) :
    gatherRest view (awaitInRest rest) = gatherRest view rest := by
  cases rest with
  | none => rfl
  | some pattern => exact overlooks.pattern pattern

theorem Overlooks.patterns (overlooks : Overlooks view) (patterns : List Pattern) :
    gatherPatterns view (awaitInPatterns patterns) = gatherPatterns view patterns := by
  cases patterns with
  | nil => rfl
  | cons pattern others =>
    simp only [awaitInPatterns, gatherPatterns, overlooks.pattern pattern,
      overlooks.patterns others]

theorem Overlooks.patternProperties (overlooks : Overlooks view)
    (properties : List PatternProperty) :
    gatherPatternProperties view (awaitInPatternProperties properties) =
      gatherPatternProperties view properties := by
  cases properties with
  | nil => rfl
  | cons property others =>
    obtain ⟨key, value, shorthand⟩ := property
    simp only [awaitInPatternProperties, gatherPatternProperties, overlooks.key key,
      overlooks.pattern value, overlooks.patternProperties others]

theorem Overlooks.function (overlooks : Overlooks view) (definition : Function) :
    gatherFunction view (awaitInFunction definition) = gatherFunction view definition := by
  obtain ⟨name, parameters, rest, body, isAsync, isArrow⟩ := definition
  cases isAsync with
  | true =>
    simp only [awaitInFunction, gatherFunction, overlooks.patterns parameters,
      overlooks.rest rest, overlooks.body body]
  | false => rfl

theorem Overlooks.body (overlooks : Overlooks view) (body : FunctionBody) :
    gatherBody view (awaitInBody body) = gatherBody view body := by
  cases body with
  | block statements => exact overlooks.statements statements
  | expression value => exact overlooks.expr value

theorem Overlooks.option (overlooks : Overlooks view) (value : Option Expr) :
    gatherOption view (awaitInOption value) = gatherOption view value := by
  cases value with
  | none => rfl
  | some e => exact overlooks.expr e

theorem Overlooks.declarators (overlooks : Overlooks view) (declarators : List Declarator) :
    gatherDeclarators view (awaitInDeclarators declarators) =
      gatherDeclarators view declarators := by
  cases declarators with
  | nil => rfl
  | cons declarator others =>
    obtain ⟨target, initial⟩ := declarator
    simp only [awaitInDeclarators, gatherDeclarators, overlooks.pattern target,
      overlooks.option initial, overlooks.declarators others]

theorem Overlooks.declaration (overlooks : Overlooks view) (declaration : VariableDeclaration) :
    gatherDeclaration view (awaitInDeclaration declaration) =
      gatherDeclaration view declaration := by
  obtain ⟨kind, declarators⟩ := declaration
  exact overlooks.declarators declarators

theorem Overlooks.cases (overlooks : Overlooks view) (branches : List SwitchCase) :
    gatherCases view (awaitInCases branches) = gatherCases view branches := by
  cases branches with
  | nil => rfl
  | cons branch others =>
    obtain ⟨test, body⟩ := branch
    simp only [awaitInCases, gatherCases, overlooks.option test,
      overlooks.statements body, overlooks.cases others]

/-- What is found in a statement is found in it after awaiting. -/
theorem Overlooks.statement (overlooks : Overlooks view) (statement : Statement) :
    gatherStatement view (awaitInStatement statement) = gatherStatement view statement := by
  cases statement with
  | expression value => exact overlooks.expr value
  | block body => exact overlooks.statements body
  | empty => rfl
  | function definition => exact overlooks.function definition
  | «variables» declaration => exact overlooks.declaration declaration
  | «if» test whenTrue whenFalse =>
    cases whenFalse with
    | none =>
      simp only [awaitInStatement, gatherStatement, overlooks.expr test,
        overlooks.statement whenTrue]
    | some whenFalse =>
      simp only [awaitInStatement, gatherStatement, overlooks.expr test,
        overlooks.statement whenTrue, overlooks.statement whenFalse]
  | «while» test body =>
    simp only [awaitInStatement, gatherStatement, overlooks.expr test,
      overlooks.statement body]
  | «for» start test update body =>
    match start with
    | none =>
      simp only [awaitInStatement, gatherStatement, overlooks.option test,
        overlooks.option update, overlooks.statement body]
    | some (.declaration declaration) =>
      simp only [awaitInStatement, gatherStatement, overlooks.declaration declaration,
        overlooks.option test, overlooks.option update,
        overlooks.statement body]
    | some (.expression value) =>
      simp only [awaitInStatement, gatherStatement, overlooks.expr value,
        overlooks.option test, overlooks.option update,
        overlooks.statement body]
  | forIn kind target source body =>
    simp only [awaitInStatement, gatherStatement, overlooks.pattern target,
      overlooks.expr source, overlooks.statement body]
  | forOf kind target source body =>
    simp only [awaitInStatement, gatherStatement, overlooks.pattern target,
      overlooks.expr source, overlooks.statement body]
  | switch subject branches =>
    simp only [awaitInStatement, gatherStatement, overlooks.expr subject,
      overlooks.cases branches]
  | «return» value => exact overlooks.option value
  | throw value => exact overlooks.expr value
  | «try» block handler finalizer =>
    match handler, finalizer with
    | none, none =>
      simp only [awaitInStatement, gatherStatement, overlooks.statements block]
    | none, some last =>
      simp only [awaitInStatement, gatherStatement, overlooks.statements block,
        overlooks.statements last]
    | some (.mk parameter body), none =>
      simp only [awaitInStatement, gatherStatement, overlooks.statements block,
        overlooks.rest parameter, overlooks.statements body]
    | some (.mk parameter body), some last =>
      simp only [awaitInStatement, gatherStatement, overlooks.statements block,
        overlooks.rest parameter, overlooks.statements body,
        overlooks.statements last]
  | «break» => rfl
  | «continue» => rfl

theorem Overlooks.statements (overlooks : Overlooks view) (statements : List Statement) :
    gatherStatements view (awaitInStatements statements) = gatherStatements view statements := by
  cases statements with
  | nil => rfl
  | cons statement others =>
    simp only [awaitInStatements, gatherStatements, overlooks.statement statement,
      overlooks.statements others]

end

end

end PluginSandbox.Plugin
