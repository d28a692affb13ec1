import PluginSandbox.Script.Evaluation.Binding

/-!
# Statements

A block declares its names before its first statement runs: functions have their values from the
start, variables only when their declaration runs. Every round of a loop has variables of its
own; a counting loop copies them from one round to the next.
-/
namespace PluginSandbox.Script.Evaluation

open Code
open Syntax

/-- Whether the variables of a declaration may be assigned to. -/
def isMutableKind : DeclarationKind → Bool
  | .const => false
  | .var | .let => true

/-- Declares names in the innermost scope. -/
def declareNames (context : Context) (names : List String) (isMutable : Bool) : Eval Unit :=
  changeHeap fun heap =>
    names.foldl (fun heap name => heap.declareName context.environment name isMutable) heap

/-- Declares what a statement declares. -/
def hoist (context : Context) : Statement → Eval Unit
  | .function definition => do
    match definition.name with
    | some name => bindName context name (← createFunction definition context) true
    | none => return
  | .variables (.mk kind declarators) =>
    declareNames context (VariableDeclaration.mk kind declarators).boundNames
      (isMutableKind kind)
  | _ => return

/-- What the end of the body of a loop means for the loop: the next round follows, or the loop
ends in some way. -/
def loopEnd? : Completion → Option Completion
  | .normal | .continued => none
  | .broke => some .normal
  | .returned value => some (.returned value)

section Pieces

variable (self : Interpreter)

/-- Runs statements one after the other until one of them ends abruptly. -/
def runSequence (context : Context) : List Statement → Eval Completion
  | [] => return .normal
  | statement :: rest => do
    match ← self.statement statement context with
    | .normal => runSequence context rest
    | completion => return completion

/-- Declares what some statements declare in the innermost scope and runs them. -/
def runStatements (context : Context) (statements : List Statement) : Eval Completion := do
  statements.forM (hoist context)
  runSequence self context statements

/-- Runs statements in a scope of their own. -/
def runBlock (context : Context) (statements : List Statement) : Eval Completion := do
  runStatements self (← openScope context) statements

/-- Runs the declaration of a variable. -/
def runDeclarator (context : Context) (isMutable : Bool) : Declarator → Eval Unit
  | .mk target initial => do
    let value ←
      match initial with
      | some expression => self.expression expression context
      | none => pure .undefined
    self.bind target value isMutable context

/-- Runs a declaration of variables. -/
def runDeclaration (context : Context) : VariableDeclaration → Eval Unit
  | .mk kind declarators => declarators.forM (runDeclarator self context (isMutableKind kind))

/-- Runs the first part of the head of a counting loop and gives the names that every round
copies. -/
def startLoop (context : Context) : Option LoopStart → Eval (List String)
  | none => return []
  | some (.expression expression) => do
    let _ ← self.expression expression context
    return []
  | some (.declaration (.mk kind declarators)) => do
    let declaration := VariableDeclaration.mk kind declarators
    let names := declaration.boundNames
    declareNames context names (isMutableKind kind)
    runDeclaration self context declaration
    return names

/-- The context with a copy of its innermost scope. -/
def copyScope (context : Context) (names : List String) : Eval Context := do
  return context.within (← updateHeap fun heap => heap.copyScope context.environment names)

/-- Runs the rounds of a counting loop. -/
def runRounds (test update : Option Expr) (body : Statement) (names : List String)
    (context : Context) : Eval Completion := do
  let goesOn ←
    match test with
    | some test => do pure (← self.expression test context).isTrue
    | none => pure true
  if goesOn then
    match loopEnd? (← self.statement body context) with
    | some completion => return completion
    | none =>
      let next ← copyScope context names
      if let some update := update then
        let _ ← self.expression update next
      self.rounds test update body names next
  else return .normal

/-- Runs a loop over values, each in a scope of its own. -/
def runForEach (isMutable : Bool) (target : Pattern) (body : Statement) (context : Context) :
    List Value → Eval Completion
  | [] => return .normal
  | value :: rest => do
    let inner ← openScope context
    self.bind target value isMutable inner
    match loopEnd? (← self.statement body inner) with
    | some completion => return completion
    | none => runForEach isMutable target body context rest

/-- The cases from the first one on whose test equals a value. -/
def selectCase (context : Context) (subject : Value) :
    List SwitchCase → Eval (Option (List SwitchCase))
  | [] => return none
  | .mk none _ :: rest => selectCase context subject rest
  | .mk (some test) body :: rest => do
    let value ← self.expression test context
    if subject.strictEquals value then return some (.mk (some test) body :: rest)
    else selectCase context subject rest

/-- The cases from the default case on. -/
def defaultCase : List SwitchCase → List SwitchCase
  | [] => []
  | .mk none body :: rest => .mk none body :: rest
  | _ :: rest => defaultCase rest

/-- Runs a switch. All its cases share one scope. -/
def runSwitch (context : Context) (subject : Expr) (cases : List SwitchCase) :
    Eval Completion := do
  let value ← self.expression subject context
  let inner ← openScope context
  cases.forM fun | .mk _ body => body.forM (hoist inner)
  let selected ← selectCase self inner value cases
  let body := (selected.getD (defaultCase cases)).flatMap fun | .mk _ body => body
  match ← runSequence self inner body with
  | .broke => return .normal
  | completion => return completion

/-- Runs what a try statement does with an error. -/
def runCatch (context : Context) (error : RuntimeError) : CatchClause → Eval Completion
  | .mk parameter body => do
    let value ← updateHeap fun heap => heap.caught error
    let inner ← openScope context
    if let some pattern := parameter then self.bind pattern value true inner
    runStatements self inner body

/-- Runs a try statement. What runs in any case replaces the outcome if it ends abruptly. -/
def runTry (context : Context) (block : List Statement) (handler : Option CatchClause)
    (finalizer : Option (List Statement)) : Eval Completion := do
  let outcome ← attempt (runBlock self context block)
  let outcome ←
    match outcome, handler with
    | .error error, some handler => attempt (runCatch self context error handler)
    | outcome, _ => pure outcome
  match finalizer with
  | none => ofExcept outcome
  | some statements =>
    match ← runBlock self context statements with
    | .normal => ofExcept outcome
    | completion => return completion

/-- Runs a statement. -/
def runStatement (statement : Statement) (context : Context) : Eval Completion := do
  match statement with
  | .expression expression =>
    let _ ← self.expression expression context
    return .normal
  | .block body => runBlock self context body
  | .empty | .function _ => return .normal
  | .variables declaration =>
    runDeclaration self context declaration
    return .normal
  | .if test whenTrue whenFalse =>
    if (← self.expression test context).isTrue then self.statement whenTrue context
    else
      match whenFalse with
      | some statement => self.statement statement context
      | none => return .normal
  | .while test body =>
    if (← self.expression test context).isTrue then
      match loopEnd? (← self.statement body context) with
      | some completion => return completion
      | none => self.statement (.while test body) context
    else return .normal
  | .for start test update body =>
    let inner ← openScope context
    let names ← startLoop self inner start
    self.rounds test update body names (← copyScope inner names)
  | .forIn kind target source body =>
    let object ← self.expression source context
    let keys ← readHeap fun heap => heap.ownKeys object
    runForEach self (isMutableKind kind) target body context (keys.map .text)
  | .forOf kind target source body =>
    let value ← self.expression source context
    let items ← tryHeap fun heap => heap.itemsOf value
    runForEach self (isMutableKind kind) target body context items
  | .switch subject cases => runSwitch self context subject cases
  | .return none => return .returned .undefined
  | .return (some expression) => return .returned (← self.expression expression context)
  | .throw expression => fail (.thrown (← self.expression expression context))
  | .try block handler finalizer => runTry self context block handler finalizer
  | .break => return .broke
  | .continue => return .continued

end Pieces

end PluginSandbox.Script.Evaluation
