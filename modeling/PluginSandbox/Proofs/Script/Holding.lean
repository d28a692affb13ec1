import PluginSandbox.Proofs.Resolution.Admission
import PluginSandbox.Proofs.Script.Constants

/-!
# What statements leave of their scope

A statement may declare names in the scope that it runs in, and its text shows which ones. Blocks,
loops and functions declare their names in scopes of their own, so all other constants of the scope
keep their values, however often the statement waits and whatever the calls in it do.
-/
namespace PluginSandbox.Syntax

mutual

/-- The names that a statement may declare in the scope that it runs in. -/
def Statement.ownNames : Statement → List String
  | .function definition => definition.name.toList
  | .variables declaration => declaration.boundNames
  | .if _ whenTrue whenFalse => whenTrue.ownNames ++ Statement.ownNamesOf whenFalse
  | .while _ body => body.ownNames
  | _ => []

/-- The names that a statement may declare, if there is one. -/
def Statement.ownNamesOf : Option Statement → List String
  | none => []
  | some statement => statement.ownNames

end

end PluginSandbox.Syntax

namespace PluginSandbox.Script

open Syntax

/-- What a scope promises of a name is what its binding promises. -/
theorem Scope.lookup_promises (scope : Scope) (name : String) :
    scope.promises.lookup name = (scope.get? name).map Binding.promise := by
  obtain ⟨bindings⟩ := scope
  simp only [promises, get?]
  induction bindings with
  | nil => rfl
  | cons entry rest ih =>
    obtain ⟨other, binding⟩ := entry
    by_cases same : name = other
    · subst same
      simp
    · simp only [List.map_cons, List.lookup_cons, beq_false_of_ne same, ih]

/-- A binding with the promise of a constant is that constant. -/
theorem Scope.get?_of_lookup {scope : Scope} {name : String} {value : Value}
    (promised : scope.promises.lookup name = some (false, some value)) :
    scope.get? name = some ⟨some value, false⟩ := by
  rw [lookup_promises, Option.map_eq_some_iff] at promised
  obtain ⟨⟨current, isMutable⟩, bound, same⟩ := promised
  cases isMutable with
  | true => cases same
  | false =>
    obtain rfl : current = some value := congrArg Prod.snd same
    exact bound

/-- Whether a scope is there and binds some constants to their values. -/
structure Holds (ref : ScopeRef) (constants : List (String × Value)) (state : State) : Prop where
  /-- The scope is there. -/
  present : ref.index < state.heap.scopes.size
  /-- The constants have their values. -/
  bound : ∀ name value, (name, value) ∈ constants →
    (state.heap.scope ref).get? name = some ⟨some value, false⟩

variable {ref : ScopeRef} {constants : List (String × Value)} {self : Interpreter}

namespace Holds

variable {before after : State}

/-- A scope in which nothing is declared keeps its constants. -/
theorem spared (holds : Holds ref constants before)
    (spares : before.heap.Spares (· ≠ ref) after.heap) : Holds ref constants after := by
  have promises := spares.promises ref holds.present fun other => other rfl
  refine ⟨Nat.lt_of_lt_of_le holds.present spares.grows, fun name value constant => ?_⟩
  apply Scope.get?_of_lookup
  rw [promises, Scope.lookup_promises, holds.bound name value constant]
  rfl

/-- Whatever does not touch the scopes leaves the constants alone. -/
theorem of_scopes (holds : Holds ref constants before)
    (scopes : after.heap.scopes = before.heap.scopes) : Holds ref constants after :=
  holds.spared (.of_scopes scopes)

/-- Another name of the scope does not change its constants. -/
theorem set (holds : Holds ref constants before) {name : String}
    (other : name ∉ constants.map Prod.fst) (binding : Binding) :
    Holds ref constants { before with
      heap := before.heap.changeScope ref fun scope => scope.set name binding } := by
  constructor
  case present => simpa [Heap.changeScope] using holds.present
  case bound =>
    intro same value constant
    have different : same ≠ name := by
      rintro rfl
      exact other (List.mem_map.mpr ⟨_, constant, rfl⟩)
    rw [Heap.scope_changeScope holds.present, Scope.get?_set, if_neg different]
    exact holds.bound same value constant

/-- A constant is read in the scope that binds it. -/
theorem reads {environment : Environment} {name : String} {value : Value}
    (holds : Holds environment.innermost constants before) (constant : (name, value) ∈ constants) :
    before.heap.readName environment name = .ok value :=
  Heap.readName_of_ownBinding? (holds.bound name value constant)

end Holds

variable (ref constants) in
/-- The conduct of code that declares no name in a scope. The constants of the scope are kept. -/
def holding : Conduct where
  source _ := True
  declares other := other ≠ ref
  holds := Holds ref constants
  acts _ _ := True
  others _ _ := True
  asks _ _ := True
  raises _ _ := True
  acts_refl _ := trivial
  acts_trans _ _ := trivial
  raises_acts _ _ _ := trivial
  raises_others _ _ _ := trivial
  loads {state} _ := state.heap.loadsFrom_anywhere
  fresh holds new := Nat.lt_irrefl _ (new ▸ holds.present)
  step holds step := by
    refine ⟨trivial, ?_, fun _ now => now⟩
    cases step with
    | heap heap loads realms spares => exact holds.spared spares
    | _ => exact holds.of_scopes rfl
  begins _ holds _ := ⟨trivial, holds.of_scopes rfl, fun _ now => now⟩
  leaves _ _ holds _ := ⟨trivial, holds.of_scopes rfl, trivial⟩
  pauses _ := trivial

/-- The loading of modules keeps the constants of a scope: local modules run in scopes of their
own. -/
theorem holding_admits : Plugin.AdmitsImports (holding ref constants) where
  note _ _ holds := ⟨trivial, holds.of_scopes rfl, fun _ now => now⟩
  turn _ holds := ⟨trivial, holds.of_scopes rfl, fun _ now => now⟩
  request _ holds := ⟨trivial, holds.of_scopes rfl, fun _ now => now⟩
  realm {state} holds :=
    ⟨trivial, holds.spared (Library.spares_createRealm _ state.heap), fun _ now => now⟩
  conclude {state resolver} resolution _ holds _ :=
    have same := congrArg Heap.scopes (Plugin.conclude_heap resolver resolution state)
    ⟨trivial, holds.of_scopes same, fun _ now => now⟩
  raise _ := trivial
  table _ _ _ := trivial
  nested _ _ _ := trivial
  free _ := trivial
  ask _ _ _ := trivial
  fetch _ _ _ := trivial

namespace Evaluation

open Conduct (Sound)

/-- Whether none of some names is one of the constants. -/
def Apart (names : List String) (constants : List (String × Value)) : Prop :=
  ∀ name ∈ names, name ∉ constants.map Prod.fst

theorem Apart.append {first second : List String} :
    Apart (first ++ second) constants ↔ Apart first constants ∧ Apart second constants :=
  List.forall_mem_append

/-- Whether what an interpreter runs in a scope leaves the constants of the scope alone, unless it
declares one of them. -/
structure Leaves (ref : ScopeRef) (constants : List (String × Value)) (inner : Interpreter) :
    Prop where
  statement : ∀ statement context, context.environment.innermost = ref →
    Apart statement.ownNames constants →
    (holding ref constants).Sound context.environment.scopes (inner.statement statement context)
  bind : ∀ pattern value isMutable context, context.environment.innermost = ref →
    Apart pattern.boundNames constants →
    (holding ref constants).Sound context.environment.scopes
      (inner.bind pattern value isMutable context)

section Own

variable (context : Context) (own : context.environment.innermost = ref) (isMutable : Bool)
include own

/-- A binding of another name. -/
theorem bindName_holding {name : String} (other : name ∉ constants.map Prod.fst) (value : Value) :
    (holding ref constants).Sound context.environment.scopes
      (bindName context name value isMutable) := by
  subst own
  exact Conduct.Keeps.change (fun state holds => ⟨trivial, holds.set other _, fun _ now => now⟩)
    fun _ _ _ => trivial

variable (sound : self.Sound (holding ref constants)) (leaves : Leaves ref constants self)
include sound leaves

theorem bindProperties_holding (value : Value) (properties : List PatternProperty)
    (apart : Apart (PatternProperty.boundNamesOf properties) constants) :
    (holding ref constants).Sound context.environment.scopes
      (bindProperties self context isMutable value properties) := by
  induction properties with
  | nil => exact .pure _
  | cons property rest ih =>
    obtain ⟨key, pattern, isShorthand⟩ := property
    obtain ⟨first, others⟩ := Apart.append.mp apart
    exact (evaluateKey_sound sound context _).bind fun _ =>
      .bindTry (fun heap => heap.read_faulty _ _ _) fun _ =>
        (leaves.bind _ _ _ _ own first).bind fun _ => (ih others).bind fun _ => .pure _

omit sound in
theorem bindItems_holding (patterns : List Pattern) (items : List Value)
    (apart : Apart (Pattern.boundNamesOf patterns) constants) :
    (holding ref constants).Sound context.environment.scopes
      (bindItems self context isMutable patterns items) := by
  induction patterns generalizing items with
  | nil => exact .pure _
  | cons pattern patterns ih =>
    obtain ⟨first, others⟩ := Apart.append.mp apart
    exact (leaves.bind _ _ _ _ own first).bind fun _ => ih _ others

/-- A pattern leaves the constants alone if its parts do. -/
theorem bind_holding (pattern : Pattern) (value : Value)
    (apart : Apart pattern.boundNames constants) :
    (holding ref constants).Sound context.environment.scopes
      (bind self context isMutable pattern value) := by
  cases pattern with
  | identifier name => exact bindName_holding context own isMutable (apart name (.head _)) value
  | withDefault target default =>
    unfold bind
    exact .ite ((sound.expression _ _).bind fun _ => leaves.bind _ _ _ _ own apart)
      ((Sound.pure _).bind fun _ => leaves.bind _ _ _ _ own apart)
  | object properties rest =>
    obtain ⟨inside, remaining⟩ := Apart.append.mp apart
    have binds := bindProperties_holding context own isMutable sound leaves value properties inside
    refine .ite (.tryHeap fun _ => .error trivial) (binds.bind fun used => ?_)
    cases rest with
    | none => exact .pure _
    | some pattern =>
      exact (remainingEntries_sound context value used).bind fun _ =>
        Sound.bind (.updateHeap fun _ obeys => obeys.createObject _) fun _ =>
          leaves.bind _ _ _ _ own remaining
  | array elements rest =>
    obtain ⟨inside, remaining⟩ := Apart.append.mp apart
    refine .bindTry (fun heap => heap.itemsOf_faulty value) fun items => ?_
    refine (bindItems_holding context own isMutable leaves elements items inside).bind
      fun _ => ?_
    cases rest with
    | none => exact .pure _
    | some pattern =>
      exact (Sound.createArray _).bind fun _ => leaves.bind _ _ _ _ own remaining

theorem runDeclaration_holding (declaration : VariableDeclaration)
    (apart : Apart declaration.boundNames constants) :
    (holding ref constants).Sound context.environment.scopes
      (runDeclaration self context declaration) := by
  obtain ⟨kind, declarators⟩ := declaration
  unfold runDeclaration
  induction declarators with
  | nil => exact .pure _
  | cons declarator rest ih =>
    obtain ⟨target, initial⟩ := declarator
    obtain ⟨first, others⟩ := Apart.append.mp apart
    refine Sound.bind ?_ fun _ => ih others
    cases initial with
    | some expression =>
      exact (sound.expression _ _).bind fun _ => leaves.bind _ _ _ _ own first
    | none => exact (Sound.pure _).bind fun _ => leaves.bind _ _ _ _ own first

/-- A statement leaves the constants alone if its parts do. -/
theorem runStatement_holding (statement : Statement) (apart : Apart statement.ownNames constants) :
    (holding ref constants).Sound context.environment.scopes
      (runStatement self statement context) := by
  have evaluates := sound.expression
  cases statement with
  | expression expression => exact (evaluates _ _).bind fun _ => .pure _
  | block body => exact runBlock_sound sound context body
  | empty => exact .pure _
  | function definition => exact .pure _
  | «variables» declaration =>
    exact (runDeclaration_holding context own sound leaves declaration apart).bind fun _ => .pure _
  | «if» test whenTrue whenFalse =>
    obtain ⟨yes, no⟩ := Apart.append.mp apart
    refine (evaluates _ _).bind fun _ => .ite (leaves.statement _ _ own yes) ?_
    cases whenFalse with
    | none => exact .pure _
    | some statement => exact leaves.statement _ _ own no
  | «while» test body =>
    refine (evaluates _ _).bind fun _ =>
      .ite ((leaves.statement body _ own apart).bind fun completion => ?_) (.pure _)
    split
    · exact .pure _
    · exact leaves.statement _ _ own apart
  | «for» start test update body =>
    exact openScope_bind context fun inner own => (startLoop_sound inner own sound start).bind
      fun names => copyScope_bind inner (fun _ own => sound.rounds _ _ _ _ _ own) names
  | forIn kind target source body =>
    exact (evaluates _ _).bind fun _ => Sound.readHeap.bind fun _ =>
      runForEach_sound sound _ target body context _
  | forOf kind target source body =>
    exact (evaluates _ _).bind fun _ => .bindTry (fun heap => heap.itemsOf_faulty _)
      fun _ => runForEach_sound sound _ target body context _
  | switch subject cases => exact runSwitch_sound sound context subject cases
  | «return» argument =>
    cases argument with
    | none => exact .pure _
    | some expression => exact (evaluates _ _).bind fun _ => .pure _
  | throw expression => exact (evaluates _ _).bind fun _ => .fault trivial
  | «try» block handler finalizer => exact runTry_sound sound context block handler finalizer
  | «break» => exact .pure _
  | «continue» => exact .pure _

end Own

/-- No statement of a program touches the constants of its scope that it does not declare. -/
theorem leaves_within (bound : Nat) : Leaves ref constants (Interpreter.within bound) := by
  induction bound with
  | zero => exact ⟨fun _ _ _ _ => .exhausted, fun _ _ _ _ _ _ => .exhausted⟩
  | succ bound ih =>
    have sound : (Interpreter.within bound).Sound (holding ref constants) :=
      Plugin.scripts_sound holding_admits bound
    exact ⟨fun statement context own apart =>
        runStatement_holding context own sound ih statement apart,
      fun pattern value isMutable context own apart =>
        bind_holding context own isMutable sound ih pattern value apart⟩

/-- Neither do several statements. -/
theorem runSequence_holding (bound : Nat) (context : Context)
    (own : context.environment.innermost = ref) (statements : List Statement)
    (apart : Apart (statements.flatMap Statement.ownNames) constants) :
    (holding ref constants).Sound context.environment.scopes
      (runSequence (Interpreter.within bound) context statements) := by
  induction statements with
  | nil => exact .pure _
  | cons statement rest ih =>
    obtain ⟨first, others⟩ := Apart.append.mp apart
    refine ((leaves_within bound).statement _ _ own first).bind fun completion => ?_
    cases completion with
    | normal => exact ih others
    | _ => exact .pure _

end Evaluation

/-- Whether others leave the constants of all scopes alone. -/
def SparesConstants (others : State → State → Prop) : Prop :=
  ∀ {before after : State}, others before after → ∀ ref constants,
    Holds ref constants before → Holds ref constants after

section Runs

variable {ε α : Type} {others : State → State → Prop} (spares : SparesConstants others)
  {before after : State}
include spares

/-- What code comes to that leaves the constants of a scope alone, while others do so as well. -/
theorem Holds.comesTo {code : Code ε α} {starts : State → Prop} {ends : α → State → Prop}
    {fails : ε → State → Prop} (keeps : (holding ref constants).Keeps starts code ends fails)
    (holds : Holds ref constants before) (start : starts before) {outcome : Except ε α}
    (comes : (code before).ComesTo others outcome after) : Holds ref constants after := by
  have keeps := keeps.run before holds start
  clear start
  generalize code before = run at keeps comes
  induction run generalizing before with
  | done value state =>
    obtain ⟨-, rfl⟩ := comes
    exact keeps.1.2
  | failed error state =>
    obtain ⟨-, rfl⟩ := comes
    exact keeps.1.2
  | exhausted => exact comes.elim
  | waiting request state resume ih =>
    obtain ⟨reply, next, changed, comes⟩ := comes
    have still := spares changed ref constants keeps.1.2
    exact ih reply next still (keeps.2.2 reply next trivial still trivial) comes

/-- The execution of any text leaves the constants of the scopes that are there alone. -/
theorem Holds.execute (bound : Nat) (realm : RealmRef) (source : ModuleSource) (body : String)
    (holds : Holds ref constants before) {outcome : Except Plugin.ExecutionError Value}
    (comes : (Plugin.execute (Interpreter.within bound) realm source body before).ComesTo others
      outcome after) : Holds ref constants after := by
  have keeps : (holding ref constants).Keeps (fun _ => True)
      (Plugin.execute (Interpreter.within bound) realm source body) (fun _ _ => True) _ :=
    Plugin.execute_keeps (Plugin.scripts_sound holding_admits bound) trivial realm body
  exact holds.comesTo spares keeps trivial comes

namespace Evaluation

/-- The declaration of a constant evaluates its value, which the constant then has. -/
theorem constant_comesTo {bound : Nat} {context : Context} {name : String} {expression : Expr}
    (present : context.environment.innermost.index < before.heap.scopes.size)
    (comes : ((Interpreter.within (bound + 1)).statement
      (.variables (.mk .const [.mk (.identifier name) (some expression)])) context before).ComesTo
        others (.ok .normal) after) :
    ∃ value evaluated,
      ((Interpreter.within bound).expression expression context before).ComesTo others (.ok value)
        evaluated ∧
      Holds context.environment.innermost [(name, value)] after := by
  change ((runDeclaration (Interpreter.within bound) context
    (.mk .const [.mk (.identifier name) (some expression)]) >>= fun _ => pure .normal :
      Eval Completion) before).ComesTo others (.ok .normal) after at comes
  obtain ⟨_, declared, comes, -, rfl⟩ := Code.comesTo_bind_ok.mp comes
  change ((runDeclarator (Interpreter.within bound) context false
    (.mk (.identifier name) (some expression)) >>= fun _ => pure () : Eval Unit) before).ComesTo
      others (.ok ()) after at comes
  obtain ⟨_, last, comes, -, rfl⟩ := Code.comesTo_bind_ok.mp comes
  obtain ⟨value, evaluated, comes, binds⟩ := Code.comesTo_bind_ok.mp comes
  refine ⟨value, evaluated, comes, ?_⟩
  let ref := context.environment.innermost
  have sound : (Interpreter.within bound).Sound (holding ref []) :=
    Plugin.scripts_sound holding_admits bound
  have holds : Holds ref [] evaluated :=
    .comesTo spares (sound.expression expression context) ⟨present, nofun⟩ (fun _ _ => trivial)
      comes
  cases bound with
  | zero => exact binds.elim
  | succ bound =>
    obtain ⟨-, rfl⟩ := binds
    constructor
    case present =>
      change ref.index < (evaluated.heap.bindName context.environment name value false).scopes.size
      rw [Heap.scopes_size_bindName]
      exact holds.present
    case bound =>
      intro same given member
      cases List.mem_singleton.mp member
      have bound := Heap.ownBinding?_bindName holds.present name name value false
      rwa [if_pos rfl] at bound

/-- A constant keeps its value while statements run that do not declare its name in their scope. -/
theorem constant_kept {bound : Nat} {context : Context} {name : String} {value : Value}
    {statements : List Statement} (other : name ∉ statements.flatMap Statement.ownNames)
    (holds : Holds context.environment.innermost [(name, value)] before)
    {outcome : Except RuntimeError Completion}
    (comes : (runSequence (Interpreter.within bound) context statements before).ComesTo others
      outcome after) :
    after.heap.readName context.environment name = .ok value := by
  have apart : Apart (statements.flatMap Statement.ownNames) [(name, value)] := by
    rintro declared own member
    cases List.mem_singleton.mp member
    exact other own
  have kept := Holds.comesTo spares (runSequence_holding bound context rfl statements apart) holds
    (fun _ _ => trivial) comes
  exact kept.reads (List.mem_singleton.mpr rfl)

end Evaluation

end Runs

end PluginSandbox.Script
