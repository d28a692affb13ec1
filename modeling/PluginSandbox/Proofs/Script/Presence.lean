import PluginSandbox.Proofs.Resolution.Admission

/-!
# The presence of scopes

Scopes stay on the heap once they are there, and running code creates functions in scopes that it
sees, so every scope that a function or a realm refers to is there. A new scope therefore is one
that no function sees yet. That is a conduct: whatever scripts run and whatever modules they load,
they keep to it.
-/
namespace PluginSandbox.Script

/-- Whether all scopes that functions see are there, and those of the global names as well. -/
structure Heap.Closed (heap : Heap) : Prop where
  /-- Functions see scopes that are there. -/
  functions : heap.Obeys (.seeing fun ref => ref.index < heap.scopes.size)
  /-- The scopes of the global names are there. -/
  globals : ∀ realm ∈ heap.realms, realm.globals.index < heap.scopes.size

namespace Heap

variable {heap : Heap}

theorem closed_empty : Closed {} :=
  ⟨by simp [Obeys], by simp⟩

theorem scopes_size_newScope (heap : Heap) (scope : Scope) (outer : List ScopeRef) :
    (heap.newScope scope outer).2.scopes.size = heap.scopes.size + 1 :=
  Array.size_push _

/-- Functions see allowed scopes if more are allowed. -/
theorem Obeys.sees_more {allowed allowed' : ScopeRef → Prop} (obeys : heap.Obeys (.seeing allowed))
    (more : ∀ ref, allowed ref → allowed' ref) : heap.Obeys (.seeing allowed') := by
  intro object member
  have sees := obeys object member
  cases object with
  | function name callable properties =>
    cases callable with
    | script definition environment this =>
      intro ref inside
      exact more ref (sees ref inside)
    | _ => trivial
  | _ => trivial

namespace Closed

variable (closed : heap.Closed)
include closed

/-- The scopes of a function are there. -/
theorem scopes {name : String} {definition : Syntax.Function} {environment : Environment}
    {this : Option Value} {properties : Properties}
    (created : .function name (.script definition environment this) properties ∈ heap.objects) :
    ∀ ref ∈ environment.scopes, ref.index < heap.scopes.size :=
  closed.functions _ created

/-- The scope of the global names of a realm is there as soon as there is one scope more. -/
theorem globals_lt (realm : RealmRef) :
    (heap.realm realm).globals.index < heap.scopes.size + 1 := by
  cases found : heap.realms[realm.index]? with
  | none =>
    rw [Heap.realm, found]
    exact Nat.succ_pos _
  | some present =>
    rw [Heap.realm, found]
    exact Nat.lt_succ_of_lt (closed.globals present (Array.mem_of_getElem? found))

/-- A heap with more scopes is closed if the functions that it has more see scopes that are
there. -/
theorem of_grows {after : Heap} (grows : heap.scopes.size ≤ after.scopes.size)
    (realms : after.realms = heap.realms)
    (obeys : heap.Obeys (.seeing fun ref => ref.index < after.scopes.size) →
      after.Obeys (.seeing fun ref => ref.index < after.scopes.size)) : after.Closed := by
  have still (ref : ScopeRef) (present : ref.index < heap.scopes.size) :
      ref.index < after.scopes.size := Nat.lt_of_lt_of_le present grows
  constructor
  case functions => exact obeys (closed.functions.sees_more still)
  case globals =>
    intro realm member
    rw [realms] at member
    exact still _ (closed.globals realm member)

/-- A new scope leaves a heap closed: no function sees it yet. -/
theorem newScope (scope : Scope) (outer : List ScopeRef) :
    (heap.newScope scope outer).2.Closed :=
  closed.of_grows (heap.scopes_size_newScope scope outer ▸ Nat.le_succ _) rfl fun obeys =>
    obeys.newScope scope outer

/-- The count of calls does not concern scopes. -/
theorem countCalls (ref : RealmRef) (count : Nat → Nat) :
    (heap.changeRealm ref fun realm =>
      { realm with callDepth := count realm.callDepth }).Closed := by
  constructor
  case functions => exact closed.functions.changeRealm ref _
  case globals =>
    intro realm member
    rw [changeRealm] at member
    obtain ⟨place, present, rfl⟩ := Array.mem_iff_getElem.mp member
    rw [Array.getElem_modify]
    have old := closed.globals _ (Array.getElem_mem (Array.size_modify ▸ present))
    split
    · exact old
    · exact old

/-- A new realm has a scope of its own for its global names. -/
theorem createRealm : (Library.createRealm heap).2.Closed := by
  obtain ⟨new, _, own, realms⟩ := Library.realms_createRealm heap
  obtain ⟨scope, scopes, _⟩ := Library.scopes_createRealm heap
  have size : (Library.createRealm heap).2.scopes.size = heap.scopes.size + 1 := by
    rw [scopes, Array.size_push]
  have still (ref : ScopeRef) (present : ref.index < heap.scopes.size) :
      ref.index < (Library.createRealm heap).2.scopes.size := by omega
  constructor
  case functions => exact Library.obeys_createRealm (closed.functions.sees_more still)
  case globals =>
    intro realm member
    rw [realms] at member
    rcases Array.mem_push.mp member with old | rfl
    · exact still _ (closed.globals realm old)
    · rw [own, size]
      exact Nat.lt_succ_self _

end Closed

end Heap

/-- What a script does by itself leaves a heap closed, if it sees scopes that are there. -/
theorem ScriptStep.closed {allowed : ModuleSource → Prop} {declares : ScopeRef → Prop}
    {before after : State} (closed : before.heap.Closed)
    (step : ScriptStep allowed declares
      (fun environment => ∀ ref ∈ environment.scopes, ref.index < before.heap.scopes.size)
      before after) :
    before.heap.scopes.size ≤ after.heap.scopes.size ∧ after.heap.Closed := by
  cases step with
  | heap heap obeys realms spares =>
    have grows := spares.grows
    refine ⟨grows, closed.of_grows grows realms fun still => obeys ⟨?_, ?_⟩ still⟩
    · exact fun _ _ => trivial
    · exact fun _ environment _ sees ref member => Nat.lt_of_lt_of_le (sees ref member) grows
  | _ => exact ⟨Nat.le_refl _, closed⟩

/-- The conduct of code that leaves the heap closed: it sees scopes that are there. -/
def closing : Conduct where
  source _ := True
  knows ref state := ref.index < state.heap.scopes.size
  holds state := state.heap.Closed
  acts before after := before.heap.scopes.size ≤ after.heap.scopes.size
  others before after := before.heap.scopes.size ≤ after.heap.scopes.size
  asks _ _ := True
  raises _ _ := True
  acts_refl _ := Nat.le_refl _
  acts_trans := Nat.le_trans
  raises_acts _ _ _ := trivial
  raises_others _ _ _ := trivial
  knows_acts acts present := Nat.lt_of_lt_of_le present acts
  knows_others others present := Nat.lt_of_lt_of_le present others
  knows_new {state} scope outer _ :=
    state.heap.scopes_size_newScope scope outer ▸ Nat.lt_succ_self _
  knows_globals {state} realm scope outer closed :=
    state.heap.scopes_size_newScope scope outer ▸ closed.globals_lt realm
  functions closed := closed.functions
  loads {state} _ := state.heap.loadsFrom_anywhere
  step closed step :=
    have ⟨grows, closed⟩ := step.closed closed
    ⟨grows, closed, fun _ now => now⟩
  begins realm closed _ := ⟨Nat.le_refl _, closed.countCalls realm (· + 1), fun _ now => now⟩
  leaves realm _ closed _ := ⟨Nat.le_refl _, closed.countCalls realm (· - 1), trivial⟩
  pauses _ := trivial

/-- The loading of modules leaves the heap closed: local modules run in realms of their own. -/
theorem closing_admits : Plugin.AdmitsImports closing where
  note _ _ closed := ⟨Nat.le_refl _, closed, fun _ now => now⟩
  turn _ closed := ⟨Nat.le_refl _, closed, fun _ now => now⟩
  request _ closed := ⟨Nat.le_refl _, closed, fun _ now => now⟩
  realm {state} closed :=
    have grows := (Library.spares_createRealm closing.declares state.heap).grows
    ⟨grows, closed.createRealm, fun _ now => now⟩
  conclude {state resolver} resolution _ closed _ := by
    have same := Plugin.conclude_heap resolver resolution state
    have still : (Plugin.conclude resolver resolution state).heap.Closed := same ▸ closed
    exact ⟨Nat.le_of_eq (by rw [same]), still, fun _ now => now⟩
  raise _ := trivial
  table _ _ _ := trivial
  nested _ _ _ := trivial
  free _ := trivial
  ask _ _ _ := trivial
  fetch _ _ _ := trivial

/-- A scope that is opened inside scopes that are there leaves the heap closed, and is there. -/
theorem Heap.Closed.opens {state : State} (closed : state.heap.Closed) (scope : Scope)
    {outer : List ScopeRef} (present : closing.Knows outer state) :
    let opened := state.heap.newScope scope outer
    opened.2.Closed ∧ closing.acts state { state with heap := opened.2 } ∧
      closing.Knows opened.1.scopes { state with heap := opened.2 } := by
  intro opened
  have grows : closing.acts state { state with heap := opened.2 } := by
    change state.heap.scopes.size ≤ opened.2.scopes.size
    rw [Heap.scopes_size_newScope]
    exact Nat.le_succ _
  have new := closing.knows_new scope outer closed
  exact ⟨closed.newScope scope outer, grows, List.forall_mem_cons.mpr ⟨new, present.acts grows⟩⟩

/-- What code comes to that leaves the heap closed, while others do so as well. -/
theorem Heap.Closed.comesTo {ε α : Type} {code : Code ε α} {starts : State → Prop}
    {ends : α → State → Prop} {fails : ε → State → Prop} {before after : State}
    (keeps : closing.Keeps starts code ends fails) (closed : before.heap.Closed)
    (start : starts before) {outcome : Except ε α}
    (comes : (code before).ComesTo closing.Interferes outcome after) :
    after.heap.Closed ∧ closing.acts before after := by
  let grown (state : State) : Prop := before.heap.scopes.size ≤ state.heap.scopes.size
  have own {state after : State} (acts : closing.acts state after) (now : grown state) :
      grown after := Nat.le_trans now acts
  have framed := (keeps.run before closed start).frame own own (Nat.le_refl _)
  obtain ⟨closed, done, failed⟩ := framed.comesTo comes
  cases outcome with
  | ok value => exact ⟨closed, (done value rfl).2⟩
  | error error => exact ⟨closed, (failed error rfl).2⟩

/-- The execution of any text leaves the heap closed. -/
theorem Heap.Closed.execute {before after : State} (closed : before.heap.Closed) (bound : Nat)
    (realm : RealmRef) (source : ModuleSource) (body : String)
    {outcome : Except Plugin.ExecutionError Value}
    (comes : (Plugin.execute (Interpreter.within bound) realm source body before).ComesTo
      closing.Interferes outcome after) : after.heap.Closed := by
  have keeps : closing.Keeps (fun _ => True)
      (Plugin.execute (Interpreter.within bound) realm source body) (fun _ _ => True) _ :=
    Plugin.execute_keeps (Plugin.scripts_sound closing_admits bound) trivial realm body
  exact (closed.comesTo keeps trivial comes).1

end PluginSandbox.Script
