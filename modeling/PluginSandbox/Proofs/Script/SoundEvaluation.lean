import PluginSandbox.Proofs.Script.SoundLibrary
import PluginSandbox.Script.Evaluation

/-!
# The conduct of scripts

Every construct of the language keeps to a conduct if its parts do, so scripts keep to a conduct
if the loading of modules does. The induction is on the bound of the interpreter: the parts of a
construct are run within a smaller one.
-/
namespace PluginSandbox.Script

variable {conduct : Conduct} {self : Interpreter} {scopes : List ScopeRef}

namespace Evaluation

open Conduct (Sound)
open Syntax

section Functions

theorem createFunction_sound (definition : Function) (context : Context) :
    conduct.Sound context.environment.scopes (createFunction definition context) :=
  .create fun suits => suits.script _ _ _ fun _ member => member

section Scopes

variable {α : Type} {next : Context → Eval α} (context : Context)

/-- Code that goes on in a new scope may declare names in it, and still sees what it saw. -/
theorem newScope_bind {scope : Heap → Scope} {outer : List ScopeRef}
    (within : outer ⊆ context.environment.scopes)
    (after : ∀ inner, conduct.Owns inner →
      conduct.Sound (inner.environment.scopes ++ context.environment.scopes) (next inner)) :
    conduct.Sound context.environment.scopes (context.within <$>
      (Code.updateHeap fun heap => heap.newScope (scope heap) outer : Eval Environment) >>=
        next) := by
  rw [bind_map_left]
  apply Sound.bindScopeWithin within
  intro environment own
  exact after (context.within environment) own

variable (after : ∀ inner, conduct.Owns inner →
  conduct.Sound inner.environment.scopes (next inner))
include after

theorem openScope_bind : conduct.Sound context.environment.scopes (openScope context >>= next) :=
  newScope_bind context (fun _ member => member) fun inner own =>
    (after inner own).weaken (List.subset_append_left _ _)

theorem copyScope_bind (names : List String) :
    conduct.Sound context.environment.scopes (copyScope context names >>= next) :=
  newScope_bind context (fun _ member => List.mem_cons_of_mem _ member) fun inner own =>
    (after inner own).weaken (List.subset_append_left _ _)

end Scopes

theorem bindName_sound (context : Context) (own : conduct.Owns context) (name : String)
    (value : Value) (isMutable : Bool) :
    conduct.Sound context.environment.scopes (bindName context name value isMutable) :=
  .changeScopes fun _ => Heap.altersScopes_bindName _ _ _ _ own

theorem createFunctionExpression_sound (definition : Function) (context : Context) :
    conduct.Sound context.environment.scopes (createFunctionExpression definition context) := by
  unfold createFunctionExpression
  split
  · exact openScope_bind context fun inner own => (createFunction_sound definition _).bind fun _ =>
      (bindName_sound inner own _ _ _).bind fun _ => .pure _
  · exact createFunction_sound definition context

theorem construct_sound (sound : self.Sound conduct) (context : Context) (callee : Value)
    (arguments : List Value) :
    conduct.Sound context.environment.scopes (construct self context callee arguments) := by
  have refused : conduct.Sound context.environment.scopes (construct.refuse callee) :=
    .tryHeap fun _ => .error trivial
  refine Sound.readHeap.bind fun target => Sound.readHeap.bind fun object? => ?_
  cases object? with
  | none => exact refused
  | some object =>
    refine .ite refused (.ite (Sound.bind (.create fun _ => trivial) fun this => ?_)
      (sound.call _ _ _ _))
    refine (sound.call _ _ _ _).bind fun result => ?_
    split <;> exact .pure _

end Functions

section Expressions

variable (sound : self.Sound conduct) (context : Context)
include sound

theorem evaluateTemplate_sound (text : String) (quasis : List String)
    (expressions : List Expr) :
    conduct.Sound context.environment.scopes
      (evaluateTemplate self context text quasis expressions) := by
  induction quasis generalizing text expressions with
  | nil =>
    unfold evaluateTemplate
    exact .pure _
  | cons quasi quasis ih =>
    cases expressions with
    | nil => exact (Sound.ofExcept (joinTexts_faulty _ _)).bind fun _ => ih _ _
    | cons expression expressions =>
      exact (Sound.ofExcept (joinTexts_faulty _ _)).bind fun _ =>
        (sound.expression _ _).bind fun _ =>
          .bindTry (fun _ => joinTexts_faulty _ _) fun _ => ih _ _

theorem evaluateItems_sound (elements : List Element) :
    conduct.Sound context.environment.scopes (evaluateItems self context elements) := by
  induction elements with
  | nil => exact .pure _
  | cons element rest ih =>
    cases element with
    | item expression =>
      exact (sound.expression _ _).bind fun _ => ih.bind fun _ => .pure _
    | spread source =>
      exact (sound.expression _ _).bind fun _ =>
        .bindTry (fun heap => heap.itemsOf_faulty _) fun _ => ih.bind fun _ => .pure _

theorem evaluateKey_sound (key : PropertyKey) :
    conduct.Sound context.environment.scopes (evaluateKey self context key) := by
  cases key with
  | fixed name => exact .pure _
  | computed key =>
    refine (sound.expression _ _).bind fun _ => ?_
    exact .readHeap

omit sound in
theorem spreadInto_sound (object source : Value) :
    conduct.Sound context.environment.scopes (spreadInto context object source) := by
  unfold spreadInto
  exact .ite (.pure _) (Sound.readHeap.bind fun _ => .forM fun _ =>
    .bindTry (fun heap => heap.read_faulty _ _ _) fun _ => writeProperty_sound _ _ _)

theorem evaluateProperty_sound (object : Value) (property : Property) :
    conduct.Sound context.environment.scopes (evaluateProperty self context object property) := by
  cases property with
  | init key value isShorthand =>
    exact (evaluateKey_sound sound context _).bind fun _ => (sound.expression _ _).bind fun _ =>
      writeProperty_sound _ _ _
  | method key definition =>
    exact (evaluateKey_sound sound context _).bind fun _ =>
      (createFunction_sound _ _).bind fun _ => writeProperty_sound _ _ _
  | spread source => exact (sound.expression _ _).bind fun _ => spreadInto_sound context _ _

theorem evaluateObject_sound (properties : List Property) :
    conduct.Sound context.environment.scopes (evaluateObject self context properties) :=
  Sound.bind (.create fun _ => trivial) fun _ =>
    Sound.bind (.forM fun _ => evaluateProperty_sound sound context _ _) fun _ => .pure _

theorem evaluateTarget?_sound (target : Expr) (evaluate : Eval (Value × String))
    (evaluates : evaluateTarget? self context target = some evaluate) :
    conduct.Sound context.environment.scopes evaluate := by
  unfold evaluateTarget? at evaluates
  split at evaluates
  · cases evaluates
    exact (sound.expression _ _).bind fun _ => .pure _
  · cases evaluates
    exact (sound.expression _ _).bind fun _ => (sound.expression _ _).bind fun _ =>
      Sound.readHeap.bind fun _ => .pure _
  · cases evaluates

omit sound in
/-- A name is written in the scope that was found for it. -/
theorem assignName_sound (name : String) (value : Value) :
    conduct.Sound context.environment.scopes
      (Code.tryHeap (fun heap => heap.writableScope context.environment name) >>=
        fun ref => Code.changeHeap fun heap => heap.setVariable ref name value) :=
  .tryStep (fun heap => heap.writableScope_faulty context.environment name) fun _ _ _ found =>
    have alters := Heap.altersScopes_setVariable found value
    .heap _ (fun _ obeys => obeys.of_objects alters.objects) alters.realms alters.spares

theorem assignTo_sound (target : Expr) (value : Value) :
    conduct.Sound context.environment.scopes (assignTo self context target value) := by
  unfold assignTo
  split
  · exact assignName_sound context _ _
  · split
    · rename_i evaluates
      exact (evaluateTarget?_sound sound context _ _ evaluates).bind fun (_, _) =>
        writeProperty_sound _ _ _
    · exact .fault trivial

theorem evaluateTypeOf_sound (operand : Expr) :
    conduct.Sound context.environment.scopes (evaluateTypeOf self context operand) := by
  refine Sound.readHeap.bind fun _ => .ite ((sound.expression _ _).bind fun _ => ?_) (.pure _)
  exact .readHeap

theorem evaluateDelete_sound (operand : Expr) :
    conduct.Sound context.environment.scopes (evaluateDelete self context operand) := by
  unfold evaluateDelete
  split
  · rename_i evaluates
    exact (evaluateTarget?_sound sound context _ _ evaluates).bind fun (_, _) =>
      Sound.bind (.changeHeap (fun _ obeys => obeys.delete _ _)
        fun heap => heap.altersObjects_delete _ _) fun _ => .pure _
  · exact .pure _

theorem evaluateUnary_sound (operator : UnaryOperator) (operand : Expr) :
    conduct.Sound context.environment.scopes (evaluateUnary self context operator operand) := by
  unfold evaluateUnary
  split
  · exact evaluateTypeOf_sound sound context operand
  · exact evaluateDelete_sound sound context operand
  · refine (sound.expression _ _).bind fun _ => ?_
    exact .readHeap

theorem evaluateUpdate_sound (operator : UpdateOperator) (isPrefix : Bool) (target : Expr) :
    conduct.Sound context.environment.scopes
      (evaluateUpdate self context operator isPrefix target) :=
  (sound.expression _ _).bind fun _ => Sound.readHeap.bind fun _ =>
    (assignTo_sound sound context _ _).bind fun _ => .pure _

theorem evaluateLogical_sound (operator : LogicalOperator) (left right : Expr) :
    conduct.Sound context.environment.scopes (evaluateLogical self context operator left right) :=
  (sound.expression _ _).bind fun _ => .ite (.pure _) (sound.expression _ _)

theorem evaluateAssignment_sound (operator : AssignmentOperator) (target value : Expr) :
    conduct.Sound context.environment.scopes
      (evaluateAssignment self context operator target value) := by
  have stored (value : Value) :
      conduct.Sound context.environment.scopes
        (evaluateAssignment.store self context target value) :=
    (assignTo_sound sound context target value).bind fun _ => .pure _
  unfold evaluateAssignment
  split
  · exact (sound.expression _ _).bind fun _ =>
      .ite (.pure _) ((sound.expression _ _).bind fun _ => stored _)
  · exact (sound.expression _ _).bind fun _ => (sound.expression _ _).bind fun _ =>
      .bindTry (fun heap => heap.apply_faulty _ _ _ _) fun _ => stored _
  · exact (sound.expression _ _).bind fun _ => stored _

theorem followRead_sound (object : Expr) (optional : Bool) (key : Eval String)
    (evaluates : conduct.Sound context.environment.scopes key) :
    conduct.Sound context.environment.scopes (followRead self context object optional key) := by
  refine (sound.chain _ _).bind fun link => ?_
  cases link with
  | skipped => exact .pure _
  | reached receiver object =>
    exact .ite (.pure _) (evaluates.bind fun _ =>
      .bindTry (fun heap => heap.read_faulty _ _ _) fun _ => .pure _)

theorem followCall_sound (callee : Expr) (arguments : List Element) (optional : Bool) :
    conduct.Sound context.environment.scopes
      (followCall self context callee arguments optional) := by
  refine (sound.chain _ _).bind fun link => ?_
  cases link with
  | skipped => exact .pure _
  | reached receiver function =>
    refine .ite (.pure _) ((evaluateItems_sound sound context arguments).bind fun _ =>
      Sound.readHeap.bind fun _ => .ite ((sound.call _ _ _ _).bind fun _ => .pure _) ?_)
    exact .fault trivial

theorem evaluateChain_sound (expression : Expr) :
    conduct.Sound context.environment.scopes (evaluateChain self context expression) := by
  unfold evaluateChain
  split
  · exact followRead_sound sound context _ _ _ (.pure _)
  · refine followRead_sound sound context _ _ _ ((sound.expression _ _).bind fun _ => ?_)
    exact .readHeap
  · exact followCall_sound sound context _ _ _
  · exact (sound.expression _ _).bind fun _ => .pure _

/-- An expression keeps to a conduct if its parts do. -/
theorem evaluate_sound (expression : Expr) :
    conduct.Sound context.environment.scopes (evaluate self context expression) := by
  have evaluates := sound.expression
  have items := evaluateItems_sound sound context
  cases expression with
  | literal value => exact .pure _
  | identifier name => exact .tryHeap fun heap => heap.readName_faulty _ _
  | this => exact .pure _
  | template quasis expressions => exact evaluateTemplate_sound sound context _ _ _
  | array elements =>
    exact (items elements).bind fun _ => (Sound.ofExcept (checkedLength_faulty _)).bind fun _ =>
      .createArray _
  | object properties => exact evaluateObject_sound sound context properties
  | function definition => exact createFunctionExpression_sound definition context
  | arrow definition => exact createFunction_sound definition context
  | unary operator operand => exact evaluateUnary_sound sound context operator operand
  | update operator isPrefix target =>
    exact evaluateUpdate_sound sound context operator isPrefix target
  | binary operator left right =>
    exact (evaluates _ _).bind fun _ => (evaluates _ _).bind fun _ =>
      .tryHeap fun heap => heap.apply_faulty _ _ _ _
  | logical operator left right => exact evaluateLogical_sound sound context operator left right
  | assign operator target value =>
    exact evaluateAssignment_sound sound context operator target value
  | conditional test whenTrue whenFalse =>
    exact (evaluates _ _).bind fun _ => .ite (evaluates _ _) (evaluates _ _)
  | call callee arguments optional => exact (sound.chain _ _).bind fun _ => .pure _
  | member object name optional => exact (sound.chain _ _).bind fun _ => .pure _
  | index object key optional => exact (sound.chain _ _).bind fun _ => .pure _
  | new callee arguments =>
    exact (evaluates _ _).bind fun _ => (items arguments).bind fun _ =>
      construct_sound sound context _ _
  | await operand => exact evaluates _ _

end Expressions

section Patterns

variable (sound : self.Sound conduct) (context : Context) (own : conduct.Owns context)
  (isMutable : Bool)
include sound own

theorem bindProperties_sound (value : Value) (properties : List PatternProperty) :
    conduct.Sound context.environment.scopes
      (bindProperties self context isMutable value properties) := by
  induction properties with
  | nil => exact .pure _
  | cons property rest ih =>
    obtain ⟨key, pattern, isShorthand⟩ := property
    exact (evaluateKey_sound sound context _).bind fun _ =>
      .bindTry (fun heap => heap.read_faulty _ _ _) fun _ =>
        (sound.bind _ _ _ _ own).bind fun _ => ih.bind fun _ => .pure _

omit sound own in
theorem remainingEntries_sound (value : Value) (used : List String) :
    conduct.Sound context.environment.scopes (remainingEntries context value used) :=
  Sound.readHeap.bind fun _ => .mapM fun _ =>
    .bindTry (fun heap => heap.read_faulty _ _ _) fun _ => .pure _

theorem bindObject_sound (properties : List PatternProperty) (rest : Option Pattern)
    (value : Value) :
    conduct.Sound context.environment.scopes
      (bindObject self context isMutable properties rest value) := by
  refine .ite (.tryHeap fun _ => .error trivial)
    ((bindProperties_sound sound context own isMutable value properties).bind fun used => ?_)
  cases rest with
  | none => exact .pure _
  | some pattern =>
    exact (remainingEntries_sound context value used).bind fun _ =>
      Sound.bind (.updateHeap fun _ obeys => obeys.createObject _) fun _ => sound.bind _ _ _ _ own

theorem bindItems_sound (patterns : List Pattern) (items : List Value) :
    conduct.Sound context.environment.scopes (bindItems self context isMutable patterns items) := by
  induction patterns generalizing items with
  | nil => exact .pure _
  | cons pattern patterns ih => exact (sound.bind _ _ _ _ own).bind fun _ => ih _

/-- The part of a pattern that takes what is left over. -/
theorem bindRest_sound (rest : Option Pattern) (remaining : List Value) :
    conduct.Sound context.environment.scopes (match rest with
      | none => (pure () : Eval Unit)
      | some pattern => do
        let remaining ← Code.createArray remaining
        self.bind pattern remaining isMutable context) := by
  cases rest with
  | none => exact .pure _
  | some pattern => exact (Sound.createArray _).bind fun _ => sound.bind _ _ _ _ own

theorem bindArray_sound (elements : List Pattern) (rest : Option Pattern) (value : Value) :
    conduct.Sound context.environment.scopes
      (bindArray self context isMutable elements rest value) :=
  .bindTry (fun heap => heap.itemsOf_faulty value) fun _ =>
    (bindItems_sound sound context own isMutable elements _).bind fun _ =>
      bindRest_sound sound context own isMutable rest _

/-- A pattern keeps to a conduct if its parts do. -/
theorem bind_sound (pattern : Pattern) (value : Value) :
    conduct.Sound context.environment.scopes (bind self context isMutable pattern value) := by
  cases pattern with
  | identifier name => exact bindName_sound context own name value isMutable
  | withDefault target default =>
    unfold bind
    exact .ite ((sound.expression _ _).bind fun _ => sound.bind _ _ _ _ own)
      ((Sound.pure _).bind fun _ => sound.bind _ _ _ _ own)
  | object properties rest =>
    exact bindObject_sound sound context own isMutable properties rest value
  | array elements rest => exact bindArray_sound sound context own isMutable elements rest value

end Patterns

section Rounds

variable (self : Interpreter)

/-- Runs the test of a round. -/
def runTest (context : Context) : Option Expr → Eval Bool
  | some test => do return (← self.expression test context).isTrue
  | none => return true

/-- Runs a round, and gives how the loop ends unless another round follows. -/
def runRound (test : Option Expr) (body : Statement) (context : Context) :
    Eval (Option Completion) := do
  if ← runTest self context test then return loopEnd? (← self.statement body context)
  else return some .normal

/-- Runs the update between two rounds. -/
def runUpdate (context : Context) : Option Expr → Eval Unit
  | some update => do
    let _ ← self.expression update context
  | none => return

/-- What the next round begins with: the update runs in the copy that the round sees. -/
def beginRound (update : Option Expr) (names : List String) (context : Context) :
    Eval Context := do
  let next ← copyScope context names
  runUpdate self next update
  return next

/-- A counting loop, with the test of its head as an evaluation of its own. -/
theorem runRounds_tested (test update : Option Expr) (body : Statement) (names : List String)
    (context : Context) :
    runRounds self test update body names context = (do
      if ← runTest self context test then
        match loopEnd? (← self.statement body context) with
        | some completion => return completion
        | none =>
          let next ← copyScope context names
          if let some update := update then
            let _ ← self.expression update next
          self.rounds test update body names next
      else return .normal) := by
  cases test with
  | none => rfl
  | some test =>
    rw [runTest, bind_assoc]
    rfl

/-- A counting loop is a round, and what follows it. -/
theorem runRounds_eq (test update : Option Expr) (body : Statement) (names : List String)
    (context : Context) :
    runRounds self test update body names context = (do
      match ← runRound self test body context with
      | some completion => return completion
      | none =>
        let next ← beginRound self update names context
        self.rounds test update body names next) := by
  rw [runRounds_tested, runRound, bind_assoc]
  refine bind_congr fun goesOn => ?_
  cases goesOn with
  | false => simp
  | true => cases update <;> simp [beginRound, runUpdate]

end Rounds

section Statements

section Own

variable (context : Context) (own : conduct.Owns context)
include own

theorem declareNames_sound (names : List String) (isMutable : Bool) :
    conduct.Sound context.environment.scopes (declareNames context names isMutable) :=
  .changeScopes fun _ => Heap.altersScopes_declareNames _ _ _ own

theorem hoist_sound (statement : Statement) :
    conduct.Sound context.environment.scopes (hoist context statement) := by
  unfold hoist
  split
  · split
    · exact (createFunction_sound _ _).bind fun _ => bindName_sound context own _ _ _
    · exact .pure _
  · exact declareNames_sound context own _ _
  · exact .pure _

variable (sound : self.Sound conduct)
include sound

theorem runSequence_sound (statements : List Statement) :
    conduct.Sound context.environment.scopes (runSequence self context statements) := by
  induction statements with
  | nil => exact .pure _
  | cons statement rest ih =>
    refine (sound.statement _ _ own).bind fun completion => ?_
    cases completion with
    | normal => exact ih
    | _ => exact .pure _

theorem runStatements_sound (statements : List Statement) :
    conduct.Sound context.environment.scopes (runStatements self context statements) :=
  Sound.bind (.forM fun _ => hoist_sound context own _) fun _ =>
    runSequence_sound context own sound statements

theorem runDeclarator_sound (isMutable : Bool) (declarator : Declarator) :
    conduct.Sound context.environment.scopes (runDeclarator self context isMutable declarator) := by
  obtain ⟨target, initial⟩ := declarator
  cases initial with
  | some expression => exact (sound.expression _ _).bind fun _ => sound.bind _ _ _ _ own
  | none => exact (Sound.pure _).bind fun _ => sound.bind _ _ _ _ own

theorem runDeclaration_sound (declaration : VariableDeclaration) :
    conduct.Sound context.environment.scopes (runDeclaration self context declaration) := by
  obtain ⟨kind, declarators⟩ := declaration
  exact .forM fun _ => runDeclarator_sound context own sound _ _

theorem startLoop_sound (start : Option LoopStart) :
    conduct.Sound context.environment.scopes (startLoop self context start) := by
  unfold startLoop
  split
  · exact .pure _
  · exact (sound.expression _ _).bind fun _ => .pure _
  · exact (declareNames_sound context own _ _).bind fun _ =>
      (runDeclaration_sound context own sound _).bind fun _ => .pure _

end Own

variable (sound : self.Sound conduct)
include sound

theorem runBlock_sound (context : Context) (statements : List Statement) :
    conduct.Sound context.environment.scopes (runBlock self context statements) :=
  openScope_bind context fun inner own => runStatements_sound inner own sound statements

section Rounds

variable (context : Context)

/-- The test of a round keeps to a conduct. -/
theorem runTest_sound (test : Option Expr) :
    conduct.Sound context.environment.scopes (runTest self context test) := by
  cases test with
  | none => exact .pure true
  | some test => exact (sound.expression test context).bind fun _ => .pure _

/-- So does the update between two rounds. -/
theorem runUpdate_sound (update : Option Expr) :
    conduct.Sound context.environment.scopes (runUpdate self context update) := by
  cases update with
  | none => exact .pure ()
  | some update => exact (sound.expression update context).bind fun _ => .pure ()

variable (own : conduct.Owns context)
include own

theorem runRound_sound (test : Option Expr) (body : Statement) :
    conduct.Sound context.environment.scopes (runRound self test body context) := by
  refine (runTest_sound sound context test).bind fun goesOn => .ite ?_ (.pure _)
  exact (sound.statement body context own).bind fun _ => .pure _

theorem runRounds_sound (test update : Option Expr) (body : Statement) (names : List String) :
    conduct.Sound context.environment.scopes (runRounds self test update body names context) := by
  rw [runRounds_eq]
  refine (runRound_sound sound context own test body).bind fun completion? => ?_
  cases completion? with
  | some completion => exact .pure completion
  | none =>
    simp only [beginRound, bind_assoc, pure_bind]
    exact copyScope_bind context (fun next own => (runUpdate_sound sound next update).bind
      fun _ => sound.rounds test update body names next own) names

end Rounds

theorem runForEach_sound (isMutable : Bool) (target : Pattern) (body : Statement)
    (context : Context) (values : List Value) :
    conduct.Sound context.environment.scopes
      (runForEach self isMutable target body context values) := by
  induction values with
  | nil => exact .pure _
  | cons value rest ih =>
    refine newScope_bind context (fun _ member => member) fun inner own => ?_
    refine ((sound.bind _ _ _ _ own).weaken (List.subset_append_left _ _)).bind fun _ =>
      ((sound.statement _ _ own).weaken (List.subset_append_left _ _)).bind fun completion => ?_
    split
    · exact .pure _
    · exact ih.weaken (List.subset_append_right _ _)

theorem selectCase_sound (context : Context) (subject : Value) (cases : List SwitchCase) :
    conduct.Sound context.environment.scopes (selectCase self context subject cases) := by
  induction cases with
  | nil => exact .pure _
  | cons case rest ih =>
    obtain ⟨test, body⟩ := case
    cases test with
    | none => exact ih
    | some test => exact (sound.expression _ _).bind fun _ => .ite (.pure _) ih

theorem runSwitch_sound (context : Context) (subject : Expr) (cases : List SwitchCase) :
    conduct.Sound context.environment.scopes (runSwitch self context subject cases) := by
  refine (sound.expression _ _).bind fun value => openScope_bind context fun inner own =>
    Sound.bind (.forM fun (.mk _ body) => .forM fun _ => hoist_sound inner own _) fun _ =>
      (selectCase_sound sound inner value cases).bind fun selected =>
        (runSequence_sound inner own sound _).bind fun completion => ?_
  split <;> exact .pure _

theorem runCatch_sound (context : Context) (error : RuntimeError) (handler : CatchClause) :
    conduct.Sound context.environment.scopes (runCatch self context error handler) := by
  obtain ⟨parameter, body⟩ := handler
  refine Sound.bind (.updateHeap (fun _ obeys => obeys.caught error)
    fun heap => heap.altersObjects_caught error) fun value =>
      openScope_bind context fun inner own => ?_
  have runs := runStatements_sound inner own sound body
  cases parameter with
  | none => exact runs
  | some pattern => exact (sound.bind _ _ _ _ own).bind fun _ => runs

omit sound in
/-- What is known of the outcome of a part of a try statement until the statement ends: the
failure of an import that an import met. What is known of the scopes is still known as well. -/
theorem attempt_keeps {code : Eval Completion} {fails : RuntimeError → State → Prop}
    (sound : conduct.Sound scopes code) :
    conduct.Keeps (conduct.Knows scopes) (Code.attempt code)
      (fun outcome state => conduct.Known outcome state ∧ conduct.Knows scopes state) fails := by
  have known : conduct.Keeps (conduct.Knows scopes) (Code.attempt code) conduct.Known fails :=
    (Conduct.Keeps.attempt sound).mono (fun _ _ start => start)
      (fun outcome state _ now error failed => by
        subst failed
        exact now)
      (fun _ _ _ now => now)
  have framed : conduct.Keeps (fun state => conduct.Knows scopes state ∧ conduct.Knows scopes state)
      (Code.attempt code)
      (fun outcome state => conduct.Known outcome state ∧ conduct.Knows scopes state) fails :=
    known.frame Conduct.Knows.acts Conduct.Knows.others
  exact framed.given fun _ start => ⟨start, start⟩

omit sound in
/-- An outcome that is known may be had once more. -/
theorem ofExcept_keeps (outcome : Except RuntimeError Completion) :
    conduct.Keeps (conduct.Known outcome) (Code.ofExcept outcome) (fun _ _ => True)
      conduct.Raises := by
  cases outcome with
  | ok completion => exact Conduct.Keeps.pure fun _ _ _ => trivial
  | error error => exact Conduct.Keeps.fail fun _ _ known => known error rfl

/-- A block and what is done with its error, before the outcome is known. -/
theorem tried_sound (context : Context) (block : List Statement) (handler : Option CatchClause)
    (finish : Except RuntimeError Completion → Eval Completion)
    (finishes : ∀ outcome, conduct.Keeps
      (fun state => conduct.Known outcome state ∧ conduct.Knows context.environment.scopes state)
      (finish outcome) (fun _ _ => True) conduct.Raises) :
    conduct.Sound context.environment.scopes (do
      let outcome ← Code.attempt (runBlock self context block)
      match outcome, handler with
      | .error error, some handler => do
        let outcome ← Code.attempt (runCatch self context error handler)
        finish outcome
      | outcome, _ => finish outcome) := by
  refine Conduct.Keeps.bind (attempt_keeps (runBlock_sound sound context block))
    fun outcome => ?_
  split
  · exact Conduct.Keeps.bind
      ((attempt_keeps (runCatch_sound sound context _ _)).given fun _ now => now.2) finishes
  · exact finishes _

theorem runTry_sound (context : Context) (block : List Statement)
    (handler : Option CatchClause) (finalizer : Option (List Statement)) :
    conduct.Sound context.environment.scopes
      (runTry self context block handler finalizer) := by
  have around := tried_sound sound context block handler
  cases finalizer with
  | none => exact around _ fun outcome => (ofExcept_keeps outcome).given fun _ now => now.1
  | some statements =>
    refine around _ fun outcome => ?_
    -- What runs in any case may load modules itself, and the outcome is still known after it.
    have framed := (runBlock_sound sound context statements).frame
      (conduct.known_acts outcome) (conduct.known_others outcome)
    refine Conduct.Keeps.bind (framed.given fun _ now => now.symm) fun completion => ?_
    cases completion with
    | normal => exact (ofExcept_keeps outcome).given fun _ now => now.2
    | _ => exact Conduct.Keeps.pure fun _ _ _ => trivial

/-- A statement keeps to a conduct if its parts do. -/
theorem runStatement_sound (statement : Statement) (context : Context)
    (own : conduct.Owns context) :
    conduct.Sound context.environment.scopes (runStatement self statement context) := by
  have evaluates := sound.expression
  have runs (statement : Statement) := sound.statement statement context own
  cases statement with
  | expression expression => exact (evaluates _ _).bind fun _ => .pure _
  | block body => exact runBlock_sound sound context body
  | empty => exact .pure _
  | function definition => exact .pure _
  | «variables» declaration =>
    exact (runDeclaration_sound context own sound declaration).bind fun _ => .pure _
  | «if» test whenTrue whenFalse =>
    refine (evaluates _ _).bind fun _ => .ite (runs _) ?_
    cases whenFalse with
    | none => exact .pure _
    | some statement => exact runs _
  | «while» test body =>
    refine (evaluates _ _).bind fun _ => .ite ((runs _).bind fun completion => ?_) (.pure _)
    split
    · exact .pure _
    · exact runs _
  | «for» start test update body =>
    exact openScope_bind context fun inner own => (startLoop_sound inner own sound start).bind
      fun names => copyScope_bind inner (fun _ own => sound.rounds _ _ _ _ _ own) names
  | forIn kind target source body =>
    exact (evaluates _ _).bind fun _ => Sound.readHeap.bind fun _ =>
      runForEach_sound sound _ target body context _
  | forOf kind target source body =>
    exact (evaluates _ _).bind fun _ => .bindTry (fun heap => heap.itemsOf_faulty _)
      fun _ => runForEach_sound sound _ target body context _
  | switch subject cases => exact runSwitch_sound sound context subject cases
  | «return» argument =>
    cases argument with
    | none => exact .pure _
    | some expression => exact (evaluates _ _).bind fun _ => .pure _
  | throw expression => exact (evaluates _ _).bind fun _ => .fault trivial
  | «try» block handler finalizer => exact runTry_sound sound context block handler finalizer
  | «break» => exact .pure _
  | «continue» => exact .pure _

end Statements

section Calls

theorem callHost_sound (behaviour : HostBehaviour) (waits : Bool) (this : Value)
    (arguments : List Value) :
    conduct.Sound scopes (callHost behaviour waits this arguments) := by
  have paused {answer : Eval Value} (sound : conduct.Sound scopes answer) :
      conduct.Sound scopes
        (if waits = true then Code.request .pause >>= fun _ => answer else answer) :=
    .ite (Sound.pause.bind fun _ => sound) sound
  cases behaviour with
  | giveArguments => exact paused (.createArray _)
  | giveReceiver => exact paused (.pure _)
  | throwArgument => exact paused (.fault trivial)
  | raise kind message => exact paused (.fault trivial)

variable (sound : self.Sound conduct)
include sound

theorem bindParameters_sound (context : Context) (own : conduct.Owns context)
    (parameters : List Pattern) (rest : Option Pattern) (arguments : List Value) :
    conduct.Sound context.environment.scopes
      (bindParameters self context parameters rest arguments) :=
  (bindItems_sound sound context own true parameters arguments).bind fun _ =>
    bindRest_sound sound context own true rest _

theorem runBody_sound (context : Context) (own : conduct.Owns context) (definition : Function)
    (arguments : List Value) :
    conduct.Sound context.environment.scopes (runBody self context definition arguments) := by
  refine (bindParameters_sound sound context own _ _ arguments).bind fun _ => ?_
  split
  · exact sound.expression _ _
  · refine (runStatements_sound context own sound _).bind fun completion => ?_
    split <;> exact .pure _

/-- The code of a function of a script sees what the function sees. -/
theorem callScript_sound (realm : RealmRef) (definition : Function) (environment : Environment)
    (this : Value) (arguments : List Value) :
    conduct.Sound environment.scopes
      (callScript self realm definition environment this arguments) :=
  .call realm (.bindScopeWithin (fun _ member => member) fun inner own =>
    (runBody_sound sound ⟨realm, inner, this⟩ own definition arguments).weaken
      (List.subset_append_left _ _))

/-- A call keeps to a conduct if the loading of modules from allowed sources does. -/
theorem callValue_sound
    (loads : ∀ {scopes} source, conduct.source source → ∀ arguments,
      conduct.Sound scopes (callRequire self source arguments))
    (realm : RealmRef) (callee this : Value) (arguments : List Value) :
    conduct.Sound scopes (callValue self realm callee this arguments) := by
  refine .bindRead fun state holds => ?_
  split
  case h_1 callable _ found =>
    have allowed := (conduct.loads holds).obeys.objectOf found
    have sees := (conduct.functions holds).objectOf found
    cases callable with
    | script definition environment lexicalThis =>
      have called := callScript_sound sound realm definition environment
        (lexicalThis.getD this) arguments
      exact ⟨environment.scopes, sees, called.weaken (List.subset_append_left _ _)⟩
    | builtin function =>
      exact ⟨[], nofun, Library.run_sound sound realm function this arguments⟩
    | host behaviour waits => exact ⟨[], nofun, callHost_sound behaviour waits this arguments⟩
    | require source => exact ⟨[], nofun, loads source allowed arguments⟩
  case h_2 => exact ⟨[], nofun, .tryHeap fun _ => .error trivial⟩

end Calls

end Evaluation

/-- Scripts keep to a conduct within every bound, if the loading of modules from allowed sources
keeps to it whenever the scripts that are loaded do. -/
theorem Interpreter.within_sound
    (loads : ∀ self : Interpreter, self.Sound conduct → ∀ {scopes} source,
      conduct.source source → ∀ arguments,
        conduct.Sound scopes (Evaluation.callRequire self source arguments)) (bound : Nat) :
    (Interpreter.within bound).Sound conduct := by
  induction bound with
  | zero =>
    exact ⟨fun _ _ => .exhausted, fun _ _ => .exhausted, fun _ _ _ => .exhausted,
      fun _ _ _ _ _ _ => .exhausted, fun _ _ _ _ _ => .exhausted, fun _ _ _ _ => .exhausted⟩
  | succ bound ih =>
    constructor
    case expression =>
      exact fun expression context => Evaluation.evaluate_sound ih context expression
    case chain =>
      exact fun expression context => Evaluation.evaluateChain_sound ih context expression
    case statement =>
      exact fun statement context own => Evaluation.runStatement_sound ih statement context own
    case rounds => exact fun test update body names context own =>
        Evaluation.runRounds_sound ih context own test update body names
    case bind => exact fun pattern value isMutable context own =>
        Evaluation.bind_sound ih context own isMutable pattern value
    case call => exact fun realm callee this arguments =>
        Evaluation.callValue_sound ih (loads _ ih) realm callee this arguments

end PluginSandbox.Script
