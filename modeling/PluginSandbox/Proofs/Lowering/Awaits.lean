import PluginSandbox.Plugin.Transpilation

/-!
# Where modules are awaited

A script waits at its `await`s, and it may do so outside functions and in asynchronous ones. The
places of a syntax tree that matter are its `await`s and its calls of `require`, each with the
functions around it. Lowering puts an `await` right before every call that has asynchronous
functions alone around it and is not awaited yet, and changes no other place. A call in an
asynchronous function stays as it is if a synchronous function is further out.
-/
namespace PluginSandbox.Plugin

open Syntax

/-- What is done at a place of a tree. -/
inductive SiteKind where
  /-- The script waits. -/
  | wait
  /-- A module is required, by the operand of an `await` or by another expression. -/
  | require (isAwaited : Bool)
  deriving DecidableEq, Repr

/-- A place where a script waits or requires a module. -/
structure Site where
  /-- What is done there. -/
  kind : SiteKind
  /-- Of the functions around it, from the innermost outwards, whether they are asynchronous. -/
  functions : List Bool := []
  deriving DecidableEq, Repr

namespace Site

/-- The place, seen from outside one more function. -/
def within (isAsync : Bool) (site : Site) : Site :=
  { site with functions := site.functions ++ [isAsync] }

/-- Whether all functions around a place are asynchronous. -/
def isOpen (site : Site) : Bool := site.functions.all id

/-- Whether a call is open and not awaited yet. -/
def owesAwait (site : Site) : Bool := site.kind = .require false && site.isOpen

/-- What becomes of a place: an open call that is not awaited gets an `await` of its own. -/
def settled (site : Site) : List Site :=
  if site.owesAwait then [{ site with kind := .wait }, { site with kind := .require true }]
  else [site]

theorem owesAwait_within (isAsync : Bool) (site : Site) :
    (site.within isAsync).owesAwait = (site.owesAwait && isAsync) := by
  have opens : (site.within isAsync).isOpen = (site.isOpen && isAsync) := by
    simp [within, isOpen]
  rw [owesAwait, opens]
  exact (Bool.and_assoc _ _ _).symm

theorem settled_within_true (site : Site) :
    (site.within true).settled = site.settled.map (within true) := by
  have same : (site.within true).owesAwait = site.owesAwait := by
    rw [owesAwait_within, Bool.and_true]
  rw [settled, settled, same]
  cases site.owesAwait with
  | true => rfl
  | false => rfl

theorem settled_within_false (site : Site) : (site.within false).settled = [site.within false] := by
  have nothing : (site.within false).owesAwait = false := by
    rw [owesAwait_within, Bool.and_false]
  rw [settled, nothing, if_neg Bool.false_ne_true]

/-- Places in an asynchronous function are settled like those outside it. -/
theorem flatMap_settled_within_true (sites : List Site) :
    (sites.map (within true)).flatMap settled = (sites.flatMap settled).map (within true) := by
  induction sites with
  | nil => rfl
  | cons site others ih =>
    rw [List.map_cons, List.flatMap_cons, settled_within_true, ih, List.flatMap_cons,
      List.map_append]

/-- Places in a synchronous function stay as they are. -/
theorem flatMap_settled_within_false (sites : List Site) :
    (sites.map (within false)).flatMap settled = sites.map (within false) := by
  induction sites with
  | nil => rfl
  | cons site others ih =>
    rw [List.map_cons, List.flatMap_cons, settled_within_false, ih, List.singleton_append]

end Site

mutual

/-- The places of an expression, which is the operand of an `await` or not. -/
def sitesInExpr (isAwaited : Bool) : Expr → List Site
  | .literal _ => []
  | .identifier _ => []
  | .this => []
  | .template _ expressions => sitesInExprs expressions
  | .array elements => sitesInElements elements
  | .object properties => sitesInProperties properties
  | .function definition => sitesInFunction definition
  | .arrow definition => sitesInFunction definition
  | .unary _ operand => sitesInExpr false operand
  | .update _ _ target => sitesInExpr false target
  | .binary _ left right => sitesInExpr false left ++ sitesInExpr false right
  | .logical _ left right => sitesInExpr false left ++ sitesInExpr false right
  | .assign _ target value => sitesInExpr false target ++ sitesInExpr false value
  | .conditional test whenTrue whenFalse =>
    sitesInExpr false test ++ sitesInExpr false whenTrue ++ sitesInExpr false whenFalse
  | .call callee arguments optional =>
    (if isRequireCall (.call callee arguments optional) then [{ kind := .require isAwaited }]
      else []) ++ sitesInExpr false callee ++ sitesInElements arguments
  | .new callee arguments => sitesInExpr false callee ++ sitesInElements arguments
  | .member base _ _ => sitesInExpr false base
  | .index base key _ => sitesInExpr false base ++ sitesInExpr false key
  | .await operand => { kind := .wait } :: sitesInExpr true operand

/-- The places of expressions. -/
def sitesInExprs : List Expr → List Site
  | [] => []
  | e :: others => sitesInExpr false e ++ sitesInExprs others

/-- The places of the items of a list. -/
def sitesInElements : List Element → List Site
  | [] => []
  | .item value :: others => sitesInExpr false value ++ sitesInElements others
  | .spread source :: others => sitesInExpr false source ++ sitesInElements others

/-- The places of a key. -/
def sitesInKey : PropertyKey → List Site
  | .fixed _ => []
  | .computed key => sitesInExpr false key

/-- The places of the properties of an object. -/
def sitesInProperties : List Property → List Site
  | [] => []
  | .init key value _ :: others =>
    sitesInKey key ++ sitesInExpr false value ++ sitesInProperties others
  | .method key definition :: others =>
    sitesInKey key ++ sitesInFunction definition ++ sitesInProperties others
  | .spread source :: others => sitesInExpr false source ++ sitesInProperties others

/-- The places of a pattern. -/
def sitesInPattern : Pattern → List Site
  | .identifier _ => []
  | .object properties rest => sitesInPatternProperties properties ++ sitesInRest rest
  | .array elements rest => sitesInPatterns elements ++ sitesInRest rest
  | .withDefault target value => sitesInPattern target ++ sitesInExpr false value

/-- The places of a pattern for what remains. -/
def sitesInRest : Option Pattern → List Site
  | none => []
  | some pattern => sitesInPattern pattern

/-- The places of patterns. -/
def sitesInPatterns : List Pattern → List Site
  | [] => []
  | pattern :: others => sitesInPattern pattern ++ sitesInPatterns others

/-- The places of the properties of a pattern. -/
def sitesInPatternProperties : List PatternProperty → List Site
  | [] => []
  | .mk key value _ :: others =>
    sitesInKey key ++ sitesInPattern value ++ sitesInPatternProperties others

/-- The places of a function: its parameters belong to it like its body. -/
def sitesInFunction : Function → List Site
  | .mk _ parameters rest body isAsync _ =>
    (sitesInPatterns parameters ++ sitesInRest rest ++ sitesInBody body).map (Site.within isAsync)

/-- The places of the body of a function. -/
def sitesInBody : FunctionBody → List Site
  | .block statements => sitesInStatements statements
  | .expression value => sitesInExpr false value

/-- The places of an optional expression. -/
def sitesInOption : Option Expr → List Site
  | none => []
  | some e => sitesInExpr false e

/-- The places of variables. -/
def sitesInDeclarators : List Declarator → List Site
  | [] => []
  | .mk target initial :: others =>
    sitesInPattern target ++ sitesInOption initial ++ sitesInDeclarators others

/-- The places of a declaration. -/
def sitesInDeclaration : VariableDeclaration → List Site
  | .mk _ declarators => sitesInDeclarators declarators

/-- The places of the cases of a switch. -/
def sitesInCases : List SwitchCase → List Site
  | [] => []
  | .mk test body :: others => sitesInOption test ++ sitesInStatements body ++ sitesInCases others

/-- The places of a statement. -/
def sitesInStatement : Statement → List Site
  | .expression value => sitesInExpr false value
  | .block body => sitesInStatements body
  | .empty => []
  | .function definition => sitesInFunction definition
  | .variables declaration => sitesInDeclaration declaration
  | .if test whenTrue whenFalse =>
    sitesInExpr false test ++ sitesInStatement whenTrue ++
      (match whenFalse with
        | none => []
        | some statement => sitesInStatement statement)
  | .while test body => sitesInExpr false test ++ sitesInStatement body
  | .for start test update body =>
    (match start with
      | none => []
      | some (.declaration declaration) => sitesInDeclaration declaration
      | some (.expression value) => sitesInExpr false value) ++
      sitesInOption test ++ sitesInOption update ++ sitesInStatement body
  | .forIn _ target source body =>
    sitesInPattern target ++ sitesInExpr false source ++ sitesInStatement body
  | .forOf _ target source body =>
    sitesInPattern target ++ sitesInExpr false source ++ sitesInStatement body
  | .switch subject cases => sitesInExpr false subject ++ sitesInCases cases
  | .return value => sitesInOption value
  | .throw value => sitesInExpr false value
  | .try block handler finalizer =>
    sitesInStatements block ++
      (match handler with
        | none => []
        | some (.mk parameter body) => sitesInRest parameter ++ sitesInStatements body) ++
      (match finalizer with
        | none => []
        | some body => sitesInStatements body)
  | .break => []
  | .continue => []

/-- The places of statements. -/
def sitesInStatements : List Statement → List Site
  | [] => []
  | statement :: others => sitesInStatement statement ++ sitesInStatements others

end

-- A required module is waited for.
example : sitesInExpr false (awaitInExpr (requireCall "m")) =
    [⟨.wait, []⟩, ⟨.require true, []⟩] := by
  cbv

/-- Only for a call that loads a module it matters whether it is awaited. -/
theorem sitesInExpr_of_other {e : Expr} (other : isRequireCall e = false) :
    sitesInExpr true e = sitesInExpr false e := by
  cases e with
  | call callee arguments optional =>
    simp only [sitesInExpr, other, Bool.false_eq_true, if_false]
  | _ => rfl

/-- An `await` of anything but a call that loads a module stays in its place. -/
theorem awaitInExpr_await {operand : Expr} (other : isRequireCall operand = false) :
    awaitInExpr (.await operand) = .await (awaitInExpr operand) := by
  cases operand with
  | call callee arguments optional =>
    cases callee with
    | identifier name =>
      have unequal : name ≠ requireName := by simpa [isRequireCall] using other
      rw [awaitInExpr, if_neg unequal]
    | _ => rfl
  | _ => rfl

/-- What an `await` becomes is an `await`. -/
theorem awaitInExpr_await_eq (operand : Expr) :
    ∃ rewritten, awaitInExpr (.await operand) = .await rewritten := by
  cases operand with
  | call callee arguments optional =>
    cases callee with
    | identifier name =>
      rw [awaitInExpr]
      split
      · exact ⟨_, rfl⟩
      · exact ⟨_, rfl⟩
    | _ => exact ⟨_, rfl⟩
  | _ => exact ⟨_, rfl⟩

/-- What was rewritten calls `require` only under an `await`. -/
theorem isRequireCall_awaitInExpr (e : Expr) : isRequireCall (awaitInExpr e) = false := by
  cases e with
  | call callee arguments optional =>
    rw [awaitInExpr, awaited]
    split
    · rfl
    · simp_all
  | await operand =>
    obtain ⟨rewritten, same⟩ := awaitInExpr_await_eq operand
    rw [same]
    rfl
  | _ => rfl

/-- A callee is the name `require` after rewriting if it was before. -/
theorem isRequireCall_rewritten (callee : Expr) (arguments others : List Element)
    (optional : Bool) :
    isRequireCall (.call (awaitInExpr callee) others optional) =
      isRequireCall (.call callee arguments optional) := by
  cases callee with
  | call callee arguments optional =>
    rw [awaitInExpr, awaited]
    split
    · rfl
    · rfl
  | await operand =>
    obtain ⟨rewritten, same⟩ := awaitInExpr_await_eq operand
    rw [same]
    rfl
  | _ => rfl

/-- A call that loads a module is written with the name `require`. -/
theorem eq_of_isRequireCall {e : Expr} (requires : isRequireCall e = true) :
    ∃ arguments optional, e = .call (.identifier requireName) arguments optional := by
  cases e with
  | call callee arguments optional =>
    cases callee with
    | identifier name =>
      have same : name = requireName := by simpa [isRequireCall] using requires
      rw [same]
      exact ⟨arguments, optional, rfl⟩
    | _ => cases requires
  | _ => cases requires

/-- The places of a call come with those of its callee and its arguments. -/
theorem sitesInExpr_call (callee : Expr) (arguments : List Element) (optional : Bool)
    (calleeSites : sitesInExpr false (awaitInExpr callee) =
      (sitesInExpr false callee).flatMap Site.settled)
    (argumentSites : sitesInElements (awaitInElements arguments) =
      (sitesInElements arguments).flatMap Site.settled) :
    sitesInExpr false (awaitInExpr (.call callee arguments optional)) =
      (sitesInExpr false (.call callee arguments optional)).flatMap Site.settled := by
  rw [awaitInExpr, awaited, isRequireCall_rewritten callee arguments]
  cases requires : isRequireCall (.call callee arguments optional) with
  | true =>
    simp only [sitesInExpr, isRequireCall_rewritten callee arguments, requires, if_true,
      List.flatMap_append, calleeSites, argumentSites]
    rfl
  | false =>
    simp only [sitesInExpr, isRequireCall_rewritten callee arguments, requires,
      Bool.false_eq_true, if_false, List.flatMap_append, calleeSites, argumentSites]
    rfl

/-- An `await` of a call that loads a module is where such a call is settled; any other one is
settled with its operand. -/
theorem sitesInExpr_await (operand : Expr)
    (operandSites : sitesInExpr false (awaitInExpr operand) =
      (sitesInExpr false operand).flatMap Site.settled) :
    sitesInExpr false (awaitInExpr (.await operand)) =
      (sitesInExpr false (.await operand)).flatMap Site.settled := by
  cases requires : isRequireCall operand with
  | true =>
    obtain ⟨arguments, optional, rfl⟩ := eq_of_isRequireCall requires
    have same : awaitInExpr (.await (.call (.identifier requireName) arguments optional)) =
        awaitInExpr (.call (.identifier requireName) arguments optional) := by
      rw [awaitInExpr, if_pos rfl]
      rfl
    rw [same, operandSites]
    rfl
  | false =>
    rw [awaitInExpr_await requires]
    simp only [sitesInExpr, List.flatMap_cons, sitesInExpr_of_other requires,
      sitesInExpr_of_other (isRequireCall_awaitInExpr operand), operandSites]
    rfl

mutual

/-- The places of a rewritten expression are its settled places. -/
theorem sitesInExpr_awaitInExpr (e : Expr) :
    sitesInExpr false (awaitInExpr e) = (sitesInExpr false e).flatMap Site.settled := by
  cases e with
  | literal value => rfl
  | identifier name => rfl
  | this => rfl
  | template quasis expressions => exact sitesInExprs_awaitInExprs expressions
  | array elements => exact sitesInElements_awaitInElements elements
  | object properties => exact sitesInProperties_awaitInProperties properties
  | function definition => exact sitesInFunction_awaitInFunction definition
  | arrow definition => exact sitesInFunction_awaitInFunction definition
  | unary operator operand => exact sitesInExpr_awaitInExpr operand
  | update operator isPrefix target => exact sitesInExpr_awaitInExpr target
  | binary operator left right =>
    simp only [awaitInExpr, sitesInExpr, List.flatMap_append, sitesInExpr_awaitInExpr left,
      sitesInExpr_awaitInExpr right]
  | logical operator left right =>
    simp only [awaitInExpr, sitesInExpr, List.flatMap_append, sitesInExpr_awaitInExpr left,
      sitesInExpr_awaitInExpr right]
  | assign operator target value =>
    simp only [awaitInExpr, sitesInExpr, List.flatMap_append, sitesInExpr_awaitInExpr target,
      sitesInExpr_awaitInExpr value]
  | conditional test whenTrue whenFalse =>
    simp only [awaitInExpr, sitesInExpr, List.flatMap_append, sitesInExpr_awaitInExpr test,
      sitesInExpr_awaitInExpr whenTrue, sitesInExpr_awaitInExpr whenFalse]
  | call callee arguments optional =>
    exact sitesInExpr_call callee arguments optional (sitesInExpr_awaitInExpr callee)
      (sitesInElements_awaitInElements arguments)
  | new callee arguments =>
    simp only [awaitInExpr, sitesInExpr, List.flatMap_append, sitesInExpr_awaitInExpr callee,
      sitesInElements_awaitInElements arguments]
  | member base name optional => exact sitesInExpr_awaitInExpr base
  | index base key optional =>
    simp only [awaitInExpr, sitesInExpr, List.flatMap_append, sitesInExpr_awaitInExpr base,
      sitesInExpr_awaitInExpr key]
  | await operand => exact sitesInExpr_await operand (sitesInExpr_awaitInExpr operand)

theorem sitesInExprs_awaitInExprs (expressions : List Expr) :
    sitesInExprs (awaitInExprs expressions) =
      (sitesInExprs expressions).flatMap Site.settled := by
  cases expressions with
  | nil => rfl
  | cons e others =>
    simp only [awaitInExprs, sitesInExprs, List.flatMap_append, sitesInExpr_awaitInExpr e,
      sitesInExprs_awaitInExprs others]

theorem sitesInElements_awaitInElements (elements : List Element) :
    sitesInElements (awaitInElements elements) =
      (sitesInElements elements).flatMap Site.settled := by
  cases elements with
  | nil => rfl
  | cons element others =>
    cases element with
    | item value =>
      simp only [awaitInElements, sitesInElements, List.flatMap_append,
        sitesInExpr_awaitInExpr value, sitesInElements_awaitInElements others]
    | spread source =>
      simp only [awaitInElements, sitesInElements, List.flatMap_append,
        sitesInExpr_awaitInExpr source, sitesInElements_awaitInElements others]

theorem sitesInKey_awaitInKey (key : PropertyKey) :
    sitesInKey (awaitInKey key) = (sitesInKey key).flatMap Site.settled := by
  cases key with
  | fixed name => rfl
  | computed key => exact sitesInExpr_awaitInExpr key

theorem sitesInProperties_awaitInProperties (properties : List Property) :
    sitesInProperties (awaitInProperties properties) =
      (sitesInProperties properties).flatMap Site.settled := by
  cases properties with
  | nil => rfl
  | cons property others =>
    cases property with
    | init key value shorthand =>
      simp only [awaitInProperties, sitesInProperties, List.flatMap_append,
        sitesInKey_awaitInKey key, sitesInExpr_awaitInExpr value,
        sitesInProperties_awaitInProperties others]
    | method key definition =>
      simp only [awaitInProperties, sitesInProperties, List.flatMap_append,
        sitesInKey_awaitInKey key, sitesInFunction_awaitInFunction definition,
        sitesInProperties_awaitInProperties others]
    | spread source =>
      simp only [awaitInProperties, sitesInProperties, List.flatMap_append,
        sitesInExpr_awaitInExpr source, sitesInProperties_awaitInProperties others]

theorem sitesInPattern_awaitInPattern (pattern : Pattern) :
    sitesInPattern (awaitInPattern pattern) =
      (sitesInPattern pattern).flatMap Site.settled := by
  cases pattern with
  | identifier name => rfl
  | object properties rest =>
    simp only [awaitInPattern, sitesInPattern, List.flatMap_append,
      sitesInPatternProperties_awaitInPatternProperties properties,
      sitesInRest_awaitInRest rest]
  | array elements rest =>
    simp only [awaitInPattern, sitesInPattern, List.flatMap_append,
      sitesInPatterns_awaitInPatterns elements, sitesInRest_awaitInRest rest]
  | withDefault target value =>
    simp only [awaitInPattern, sitesInPattern, List.flatMap_append,
      sitesInPattern_awaitInPattern target, sitesInExpr_awaitInExpr value]

theorem sitesInRest_awaitInRest (rest : Option Pattern) :
    sitesInRest (awaitInRest rest) = (sitesInRest rest).flatMap Site.settled := by
  cases rest with
  | none => rfl
  | some pattern => exact sitesInPattern_awaitInPattern pattern

theorem sitesInPatterns_awaitInPatterns (patterns : List Pattern) :
    sitesInPatterns (awaitInPatterns patterns) =
      (sitesInPatterns patterns).flatMap Site.settled := by
  cases patterns with
  | nil => rfl
  | cons pattern others =>
    simp only [awaitInPatterns, sitesInPatterns, List.flatMap_append,
      sitesInPattern_awaitInPattern pattern, sitesInPatterns_awaitInPatterns others]

theorem sitesInPatternProperties_awaitInPatternProperties (properties : List PatternProperty) :
    sitesInPatternProperties (awaitInPatternProperties properties) =
      (sitesInPatternProperties properties).flatMap Site.settled := by
  cases properties with
  | nil => rfl
  | cons property others =>
    obtain ⟨key, value, shorthand⟩ := property
    simp only [awaitInPatternProperties, sitesInPatternProperties, List.flatMap_append,
      sitesInKey_awaitInKey key, sitesInPattern_awaitInPattern value,
      sitesInPatternProperties_awaitInPatternProperties others]

theorem sitesInFunction_awaitInFunction (definition : Function) :
    sitesInFunction (awaitInFunction definition) =
      (sitesInFunction definition).flatMap Site.settled := by
  obtain ⟨name, parameters, rest, body, isAsync, isArrow⟩ := definition
  cases isAsync with
  | true =>
    simp only [awaitInFunction, sitesInFunction, Site.flatMap_settled_within_true,
      List.flatMap_append, sitesInPatterns_awaitInPatterns parameters,
      sitesInRest_awaitInRest rest, sitesInBody_awaitInBody body]
  | false => exact (Site.flatMap_settled_within_false _).symm

theorem sitesInBody_awaitInBody (body : FunctionBody) :
    sitesInBody (awaitInBody body) = (sitesInBody body).flatMap Site.settled := by
  cases body with
  | block statements => exact sitesInStatements_awaitInStatements statements
  | expression value => exact sitesInExpr_awaitInExpr value

theorem sitesInOption_awaitInOption (value : Option Expr) :
    sitesInOption (awaitInOption value) = (sitesInOption value).flatMap Site.settled := by
  cases value with
  | none => rfl
  | some e => exact sitesInExpr_awaitInExpr e

theorem sitesInDeclarators_awaitInDeclarators (declarators : List Declarator) :
    sitesInDeclarators (awaitInDeclarators declarators) =
      (sitesInDeclarators declarators).flatMap Site.settled := by
  cases declarators with
  | nil => rfl
  | cons declarator others =>
    obtain ⟨target, initial⟩ := declarator
    simp only [awaitInDeclarators, sitesInDeclarators, List.flatMap_append,
      sitesInPattern_awaitInPattern target, sitesInOption_awaitInOption initial,
      sitesInDeclarators_awaitInDeclarators others]

theorem sitesInDeclaration_awaitInDeclaration (declaration : VariableDeclaration) :
    sitesInDeclaration (awaitInDeclaration declaration) =
      (sitesInDeclaration declaration).flatMap Site.settled := by
  obtain ⟨kind, declarators⟩ := declaration
  exact sitesInDeclarators_awaitInDeclarators declarators

theorem sitesInCases_awaitInCases (cases_ : List SwitchCase) :
    sitesInCases (awaitInCases cases_) = (sitesInCases cases_).flatMap Site.settled := by
  cases cases_ with
  | nil => rfl
  | cons first others =>
    obtain ⟨test, body⟩ := first
    simp only [awaitInCases, sitesInCases, List.flatMap_append,
      sitesInOption_awaitInOption test, sitesInStatements_awaitInStatements body,
      sitesInCases_awaitInCases others]

/-- The places of a rewritten statement are its settled places. -/
theorem sitesInStatement_awaitInStatement (statement : Statement) :
    sitesInStatement (awaitInStatement statement) =
      (sitesInStatement statement).flatMap Site.settled := by
  cases statement with
  | expression value => exact sitesInExpr_awaitInExpr value
  | block body => exact sitesInStatements_awaitInStatements body
  | empty => rfl
  | function definition => exact sitesInFunction_awaitInFunction definition
  | «variables» declaration => exact sitesInDeclaration_awaitInDeclaration declaration
  | «if» test whenTrue whenFalse =>
    cases whenFalse with
    | none =>
      simp only [awaitInStatement, sitesInStatement, List.flatMap_append, List.flatMap_nil,
        sitesInExpr_awaitInExpr test, sitesInStatement_awaitInStatement whenTrue]
    | some whenFalse =>
      simp only [awaitInStatement, sitesInStatement, List.flatMap_append,
        sitesInExpr_awaitInExpr test, sitesInStatement_awaitInStatement whenTrue,
        sitesInStatement_awaitInStatement whenFalse]
  | «while» test body =>
    simp only [awaitInStatement, sitesInStatement, List.flatMap_append,
      sitesInExpr_awaitInExpr test, sitesInStatement_awaitInStatement body]
  | «for» start test update body =>
    match start with
    | none =>
      simp only [awaitInStatement, sitesInStatement, List.flatMap_append, List.flatMap_nil,
        sitesInOption_awaitInOption test, sitesInOption_awaitInOption update,
        sitesInStatement_awaitInStatement body]
    | some (.declaration declaration) =>
      simp only [awaitInStatement, sitesInStatement, List.flatMap_append,
        sitesInDeclaration_awaitInDeclaration declaration, sitesInOption_awaitInOption test,
        sitesInOption_awaitInOption update, sitesInStatement_awaitInStatement body]
    | some (.expression value) =>
      simp only [awaitInStatement, sitesInStatement, List.flatMap_append,
        sitesInExpr_awaitInExpr value, sitesInOption_awaitInOption test,
        sitesInOption_awaitInOption update, sitesInStatement_awaitInStatement body]
  | forIn kind target source body =>
    simp only [awaitInStatement, sitesInStatement, List.flatMap_append,
      sitesInPattern_awaitInPattern target, sitesInExpr_awaitInExpr source,
      sitesInStatement_awaitInStatement body]
  | forOf kind target source body =>
    simp only [awaitInStatement, sitesInStatement, List.flatMap_append,
      sitesInPattern_awaitInPattern target, sitesInExpr_awaitInExpr source,
      sitesInStatement_awaitInStatement body]
  | switch subject cases_ =>
    simp only [awaitInStatement, sitesInStatement, List.flatMap_append,
      sitesInExpr_awaitInExpr subject, sitesInCases_awaitInCases cases_]
  | «return» value => exact sitesInOption_awaitInOption value
  | throw value => exact sitesInExpr_awaitInExpr value
  | «try» block handler finalizer =>
    match handler, finalizer with
    | none, none =>
      simp only [awaitInStatement, sitesInStatement, List.flatMap_append, List.flatMap_nil,
        sitesInStatements_awaitInStatements block]
    | none, some last =>
      simp only [awaitInStatement, sitesInStatement, List.flatMap_append, List.flatMap_nil,
        sitesInStatements_awaitInStatements block, sitesInStatements_awaitInStatements last]
    | some (.mk parameter body), none =>
      simp only [awaitInStatement, sitesInStatement, List.flatMap_append, List.flatMap_nil,
        sitesInStatements_awaitInStatements block, sitesInRest_awaitInRest parameter,
        sitesInStatements_awaitInStatements body]
    | some (.mk parameter body), some last =>
      simp only [awaitInStatement, sitesInStatement, List.flatMap_append,
        sitesInStatements_awaitInStatements block, sitesInRest_awaitInRest parameter,
        sitesInStatements_awaitInStatements body, sitesInStatements_awaitInStatements last]
  | «break» => rfl
  | «continue» => rfl

theorem sitesInStatements_awaitInStatements (statements : List Statement) :
    sitesInStatements (awaitInStatements statements) =
      (sitesInStatements statements).flatMap Site.settled := by
  cases statements with
  | nil => rfl
  | cons statement others =>
    simp only [awaitInStatements, sitesInStatements, List.flatMap_append,
      sitesInStatement_awaitInStatement statement, sitesInStatements_awaitInStatements others]

end

namespace Site

/-- How many of the places are open calls, in the given functions, that are not awaited. -/
def owed (functions : List Bool) (sites : List Site) : Nat :=
  if functions.all id then sites.count ⟨.require false, functions⟩ else 0

theorem owed_cons (functions : List Bool) (site : Site) (others : List Site) :
    owed functions (site :: others) = owed functions [site] + owed functions others := by
  unfold owed
  split
  · rw [← List.singleton_append, List.count_append]
  · rfl

/-- Settling one place turns what is owed into an `await` and an awaited call. -/
theorem count_settled (functions : List Bool) (site : Site) :
    site.settled.count ⟨.wait, functions⟩ =
        [site].count ⟨.wait, functions⟩ + owed functions [site] ∧
      site.settled.count ⟨.require true, functions⟩ =
        [site].count ⟨.require true, functions⟩ + owed functions [site] ∧
      site.settled.count ⟨.require false, functions⟩ + owed functions [site] =
        [site].count ⟨.require false, functions⟩ := by
  obtain ⟨kind, around⟩ := site
  by_cases same : around = functions
  · subst same
    cases opens : around.all id with
    | true => rcases kind with _ | _ | _ <;> simp [settled, owesAwait, isOpen, owed, opens]
    | false => simp [settled, owesAwait, isOpen, owed, opens]
  · -- Settling leaves a place in its functions, so there is nothing to count in others.
    unfold settled owed
    split <;> simp [same]

/-- Settling turns what is owed into an `await` and an awaited call for each. -/
theorem count_flatMap_settled (functions : List Bool) (sites : List Site) :
    (sites.flatMap settled).count ⟨.wait, functions⟩ =
        sites.count ⟨.wait, functions⟩ + owed functions sites ∧
      (sites.flatMap settled).count ⟨.require true, functions⟩ =
        sites.count ⟨.require true, functions⟩ + owed functions sites ∧
      (sites.flatMap settled).count ⟨.require false, functions⟩ + owed functions sites =
        sites.count ⟨.require false, functions⟩ := by
  induction sites with
  | nil => simp [owed]
  | cons site others ih =>
    have first := count_settled functions site
    have split (other : Site) : (site :: others).count other =
        [site].count other + others.count other := by
      rw [← List.singleton_append, List.count_append]
    rw [List.flatMap_cons, List.count_append, List.count_append, List.count_append, split, split,
      split, owed_cons]
    omega

end Site

/-- Lowering awaits the calls of `require` that have asynchronous functions alone around them: each
of them gets an `await` of its own, and that is all that changes. In particular no `await` is
introduced in a synchronous function. -/
theorem open_requires_awaited (source : String) (items : List ModuleItem) :
    let lowered := lower source items
    let before := sitesInStatements (lowered.body ++ lowered.trailing)
    let after := sitesInStatements lowered.statements
    after = before.flatMap Site.settled ∧
    (∀ functions,
      after.count ⟨.wait, functions⟩ =
        before.count ⟨.wait, functions⟩ + Site.owed functions before ∧
      after.count ⟨.require true, functions⟩ =
        before.count ⟨.require true, functions⟩ + Site.owed functions before ∧
      after.count ⟨.require false, functions⟩ + Site.owed functions before =
        before.count ⟨.require false, functions⟩) ∧
    ∀ outer, after.count ⟨.wait, false :: outer⟩ = before.count ⟨.wait, false :: outer⟩ := by
  intro lowered before after
  have settles : after = before.flatMap Site.settled :=
    sitesInStatements_awaitInStatements (lowered.body ++ lowered.trailing)
  have counts (functions : List Bool) := Site.count_flatMap_settled functions before
  rw [← settles] at counts
  refine ⟨settles, counts, fun outer => ?_⟩
  have nothing : Site.owed (false :: outer) before = 0 := rfl
  rw [(counts (false :: outer)).1, nothing, Nat.add_zero]

/-- A module that requires another one in an asynchronous function within a synchronous one. -/
def nestedRequire : String := "function f() \x7b return async () => require('x'); \x7d"

/-- The call has an asynchronous function right around it and is not awaited. -/
theorem nested_require_not_awaited :
    (parseModule nestedRequire).toOption.map
        (fun items => sitesInStatements (lower nestedRequire items).statements) =
      some [⟨.require false, [true, false]⟩] := by
  decide +kernel

end PluginSandbox.Plugin
