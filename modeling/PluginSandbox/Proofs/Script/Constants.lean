import PluginSandbox.Proofs.Script.Runs
import PluginSandbox.Proofs.Script.Scopes
import PluginSandbox.Script.Evaluation

/-!
# Constants

The declaration of a constant evaluates a value and gives the names of a pattern their parts of
it. What code reads from a value does not depend on what names stand for, so the parts may be read
before any of the names is bound.
-/
namespace PluginSandbox.Script

namespace Heap

section Reading

variable (heap : Heap) (realm : RealmRef)

theorem layersWithin_changeScope (ref : ScopeRef) (change : Scope → Scope) (bound : Nat)
    (value : Value) :
    (heap.changeScope ref change).layersWithin bound value = heap.layersWithin bound value := by
  induction bound generalizing value with
  | zero => rfl
  | succ bound ih =>
    cases value with
    | object target =>
      simp only [layersWithin, ih]
      rfl
    | _ => rfl

/-- What code reads from a value does not depend on what names stand for. -/
theorem read_changeScope (ref : ScopeRef) (change : Scope → Scope) (value : Value) (key : String) :
    (heap.changeScope ref change).read realm value key = heap.read realm value key := by
  have layers : (heap.changeScope ref change).layers value = heap.layers value :=
    heap.layersWithin_changeScope ref change _ value
  unfold read
  rw [layers]
  generalize heap.layers value = seen
  obtain ⟨views, shown⟩ := seen
  dsimp only
  cases tokenIn? views key with
  | some token => rfl
  | none => cases shown <;> simp only [readPlain, textOf, textWithin] <;> rfl

/-- Code reads the own properties of a value. -/
theorem read_of_getOwn? {value part : Value} {key : String}
    (own : heap.getOwn? value key = some part) : heap.read realm value key = .ok part := by
  unfold read
  unfold getOwn? at own
  generalize heap.layers value = seen at own ⊢
  obtain ⟨views, shown⟩ := seen
  dsimp only at own ⊢
  cases found : tokenIn? views key with
  | some token =>
    rw [found] at own
    exact congrArg Except.ok (Option.some.inj own)
  | none =>
    rw [found] at own
    cases shown with
    | object ref =>
      obtain ⟨object, present, own⟩ := Option.bind_eq_some_iff.mp own
      simp only [readPlain, present, own]
    | text text =>
      obtain ⟨index, isIndex, character⟩ := Option.bind_eq_some_iff.mp own
      have other : key ≠ "length" := by
        rintro rfl
        have noIndex : arrayIndex? "length" = none := by decide
        rw [noIndex] at isIndex
        cases isIndex
      simp only [readPlain, other, if_false, isIndex, character, Option.getD_some]
    | _ => cases own

/-- Code reads any property of a value that shows more than nothing. -/
theorem exists_read {value : Value} (visible : (heap.unwrap value).isNullish = false)
    (key : String) : ∃ part, heap.read realm value key = .ok part := by
  unfold read
  unfold unwrap at visible
  generalize heap.layers value = seen at visible ⊢
  obtain ⟨views, shown⟩ := seen
  dsimp only at visible ⊢
  cases tokenIn? views key with
  | some token => exact ⟨token, rfl⟩
  | none =>
    cases shown with
    | undefined => cases visible
    | null => cases visible
    | boolean value => exact ⟨_, rfl⟩
    | number value => exact ⟨_, rfl⟩
    | text text =>
      simp only [readPlain]
      split
      · exact ⟨_, rfl⟩
      · split <;> exact ⟨_, rfl⟩
    | object ref =>
      simp only [readPlain]
      split
      · split <;> exact ⟨_, rfl⟩
      · exact ⟨_, rfl⟩

end Reading

/-- What a name stands for in the innermost scope. -/
def ownBinding? (heap : Heap) (environment : Environment) (name : String) : Option Binding :=
  (heap.scope environment.innermost).get? name

/-- The heap with constants of the innermost scope, one after the other. -/
def bindConstants (heap : Heap) (environment : Environment) (constants : List (String × Value)) :
    Heap :=
  constants.foldl (fun heap constant => heap.bindName environment constant.1 constant.2 false) heap

variable {heap : Heap} {environment : Environment}

/-- The innermost scope comes first when a name is read. -/
theorem readName_of_ownBinding? {name : String} {value : Value} {isMutable : Bool}
    (own : heap.ownBinding? environment name = some ⟨some value, isMutable⟩) :
    heap.readName environment name = .ok value := by
  unfold ownBinding? at own
  rw [readName, Environment.scopes, findBinding, own]

theorem ownBinding?_bindName (present : environment.innermost.index < heap.scopes.size)
    (name other : String) (value : Value) (isMutable : Bool) :
    (heap.bindName environment name value isMutable).ownBinding? environment other =
      if other = name then some ⟨some value, isMutable⟩
      else heap.ownBinding? environment other := by
  rw [ownBinding?, bindName, scope_changeScope present, Scope.get?_set, ownBinding?]

theorem scopes_size_bindName (name : String) (value : Value) (isMutable : Bool) :
    (heap.bindName environment name value isMutable).scopes.size = heap.scopes.size :=
  Array.size_modify

theorem read_bindConstants (realm : RealmRef) (constants : List (String × Value)) (value : Value)
    (key : String) :
    (heap.bindConstants environment constants).read realm value key =
      heap.read realm value key := by
  induction constants generalizing heap with
  | nil => rfl
  | cons constant rest ih => exact ih.trans (heap.read_changeScope realm _ _ value key)

theorem ownBinding?_bindConstants_of_notMem
    (present : environment.innermost.index < heap.scopes.size) {constants : List (String × Value)}
    {name : String} (other : name ∉ constants.map (·.1)) :
    (heap.bindConstants environment constants).ownBinding? environment name =
      heap.ownBinding? environment name := by
  induction constants generalizing heap with
  | nil => rfl
  | cons constant rest ih =>
    rw [List.map_cons, List.mem_cons, not_or] at other
    refine (ih (by rwa [scopes_size_bindName]) other.2).trans ?_
    rw [ownBinding?_bindName present, if_neg other.1]

/-- Names that differ stand for their values once all of them are bound. -/
theorem ownBinding?_bindConstants (present : environment.innermost.index < heap.scopes.size)
    {constants : List (String × Value)} (distinct : (constants.map (·.1)).Nodup)
    {name : String} {value : Value} (member : (name, value) ∈ constants) :
    (heap.bindConstants environment constants).ownBinding? environment name =
      some ⟨some value, false⟩ := by
  induction constants generalizing heap with
  | nil => cases member
  | cons constant rest ih =>
    rw [List.map_cons, List.nodup_cons] at distinct
    have kept : environment.innermost.index <
        (heap.bindName environment constant.1 constant.2 false).scopes.size := by
      rwa [scopes_size_bindName]
    rcases List.mem_cons.mp member with rfl | later
    · refine (ownBinding?_bindConstants_of_notMem kept distinct.1).trans ?_
      rw [ownBinding?_bindName present, if_pos rfl]
    · exact ih kept distinct.2 later

end Heap

namespace Evaluation

open Syntax

variable {context : Context} {state : State}

/-- The state after constants of the innermost scope were bound. -/
def bindingConstants (context : Context) (constants : List (String × Value)) (state : State) :
    State :=
  { state with heap := state.heap.bindConstants context.environment constants }

/-- A pattern that gives each name its property of a value. Properties come before their names. -/
def propertyPattern (names : List (String × String)) : Pattern :=
  .object (names.map fun pair =>
    .mk (.fixed pair.1) (.identifier pair.2) (decide (pair.1 = pair.2))) none

/-- The names of a pattern with the properties of a value. -/
def partsOf (part : String → Value) (names : List (String × String)) : List (String × Value) :=
  names.map fun pair => (pair.2, part pair.1)

theorem bindProperties_propertyPattern (bound : Nat) {value : Value} {part : String → Value}
    (reads : ∀ key, state.heap.read context.realm value key = .ok (part key))
    (names : List (String × String)) :
    bindProperties (Interpreter.within (bound + 1)) context false value (names.map fun pair =>
        .mk (.fixed pair.1) (.identifier pair.2) (decide (pair.1 = pair.2))) state =
      .done (names.map (·.1)) (bindingConstants context (partsOf part names) state) := by
  induction names generalizing state with
  | nil => rfl
  | cons pair rest ih =>
    have first : (Code.tryHeap fun heap => heap.read context.realm value pair.1 : Eval Value)
        state = .done (part pair.1) state :=
      Code.tryHeap_of_ok (reads pair.1)
    have later (key : String) : (bindingConstants context [(pair.2, part pair.1)] state).heap.read
        context.realm value key = .ok (part key) :=
      (Heap.read_bindConstants context.realm _ value key).trans (reads key)
    exact (Code.bind_of_done first _).trans (Code.bind_of_done (ih later) _)

/-- A pattern of properties is bound if all of them can be read. -/
theorem bind_propertyPattern (bound : Nat) {value : Value} {part : String → Value}
    (shown : value.isNullish = false)
    (reads : ∀ key, state.heap.read context.realm value key = .ok (part key))
    (names : List (String × String)) :
    (Interpreter.within (bound + 2)).bind (propertyPattern names) value false context state =
      .done () (bindingConstants context (partsOf part names) state) := by
  change bindObject (Interpreter.within (bound + 1)) context false _ none value state = _
  unfold bindObject
  rw [shown]
  exact Code.bind_of_done (bindProperties_propertyPattern bound reads names) _

/-- The declaration of a constant evaluates its value and binds its pattern. -/
theorem constant_runs {bound : Nat} {target : Pattern} {expression : Expr} {value : Value}
    {middle after : State}
    (evaluates : (Interpreter.within bound).expression expression context state =
      .done value middle)
    (binds : (Interpreter.within bound).bind target value false context middle = .done () after) :
    (Interpreter.within (bound + 1)).statement
        (.variables (.mk .const [.mk target (some expression)])) context state =
      .done .normal after := by
  have declares : runDeclarator (Interpreter.within bound) context false
      (.mk target (some expression)) state = .done () after :=
    (Code.bind_of_done evaluates _).trans binds
  have declaration : runDeclaration (Interpreter.within bound) context
      (.mk .const [.mk target (some expression)]) state = .done () after :=
    Code.bind_of_done declares _
  exact Code.bind_of_done declaration _

/-- The rest of some statements runs after a statement that ends in the normal way. -/
theorem runSequence_cons {self : Interpreter} {statement : Statement} {after : State}
    (runs : self.statement statement context state = .done .normal after)
    (rest : List Statement) :
    runSequence self context (statement :: rest) state = runSequence self context rest after :=
  Code.bind_of_done runs _

section Sequences

variable {self : Interpreter} {context : Context} {others : State → State → Prop}
  {before after : State}

/-- Statements run to their end if the first one does and then the others. -/
theorem runSequence_cons_normal {statement : Statement} {rest : List Statement} :
    (runSequence self context (statement :: rest) before).ComesTo others (.ok .normal) after ↔
      ∃ middle, (self.statement statement context before).ComesTo others (.ok .normal) middle ∧
        (runSequence self context rest middle).ComesTo others (.ok .normal) after := by
  rw [runSequence, Code.comesTo_bind_ok]
  constructor
  · rintro ⟨completion, middle, first, goesOn⟩
    cases completion with
    | normal => exact ⟨middle, first, goesOn⟩
    | _ => cases goesOn.1
  · rintro ⟨middle, first, goesOn⟩
    exact ⟨.normal, middle, first, goesOn⟩

theorem runSequence_append {first second : List Statement} :
    (runSequence self context (first ++ second) before).ComesTo others (.ok .normal) after ↔
      ∃ middle, (runSequence self context first before).ComesTo others (.ok .normal) middle ∧
        (runSequence self context second middle).ComesTo others (.ok .normal) after := by
  induction first generalizing before with
  | nil =>
    refine ⟨fun comes => ⟨before, ⟨rfl, rfl⟩, comes⟩, ?_⟩
    rintro ⟨middle, ⟨-, rfl⟩, comes⟩
    exact comes
  | cons statement rest ih =>
    simp only [List.cons_append, runSequence_cons_normal, ih]
    constructor
    · rintro ⟨state, runs, middle, goesOn, ends⟩
      exact ⟨middle, ⟨state, runs, goesOn⟩, ends⟩
    · rintro ⟨middle, ⟨state, runs, goesOn⟩, ends⟩
      exact ⟨state, runs, middle, goesOn, ends⟩

end Sequences

end Evaluation

end PluginSandbox.Script
