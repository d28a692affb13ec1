import PluginSandbox.Proofs.Resolution.Admission
import PluginSandbox.Proofs.Sharing

/-!
# The global names

Code that is executed in a realm gets a scope of its own inside that of the global names, and so
does every function, block, loop and handler in it. Names are declared in such scopes alone, so the
global names stay those of the library, whatever is executed: a variable among them may get another
value, but no name is added, and the constants keep their values. No execution sees what another
one has declared.
-/
namespace PluginSandbox.Script

open Interleaving

/-- The global names of the library, and whether each is a variable. -/
def Library.names : List (String × Bool) :=
  globals.map (fun global => (global.name, true)) ++
    numericFunctions.map (fun (name, _) => (name, true)) ++
    constants.map fun (name, _) => (name, false)

/-- What an execution begins with: a scope of its own inside that of the global names, in which
`require` is bound. -/
def opening (realm : RealmRef) (source : ModuleSource) (heap : Heap) : Environment × Heap :=
  let opened := heap.newChild ⟨(heap.realm realm).globals, []⟩
  let require := opened.2.allocateValue (.function "require" (.require source) {})
  (opened.1, require.2.bindName opened.1 "require" require.1 false)

/-- The execution of a text in a realm, with the modules that it may load. -/
def executing (bound : Nat) (realm : RealmRef) :
    ModuleSource × String → Code Plugin.ExecutionError Value
  | (source, body) => Plugin.execute (Interpreter.within bound) realm source body

/-- Whether a scope holds the global names of a realm and promises what the library does. -/
structure Sealed (realm : RealmRef) (globals : ScopeRef) (state : State) : Prop where
  /-- The realm is there. -/
  realm_lt : realm.index < state.heap.realms.size
  /-- The scope is there. -/
  scope_lt : globals.index < state.heap.scopes.size
  /-- The scope is that of the realm. -/
  belongs : (state.heap.realm realm).globals = globals
  /-- The names and constants are those of the library. -/
  promises : (state.heap.scope globals).promises = Library.promises

section Sealing

variable {realm : RealmRef} {globals : ScopeRef}

/-- The scope stays sealed as long as no name is declared in it. -/
theorem Sealed.spared {before after : State} (kept : Sealed realm globals before)
    (spares : before.heap.Spares (· ≠ globals) after.heap)
    (present : realm.index < after.heap.realms.size)
    (belongs : (after.heap.realm realm).globals = (before.heap.realm realm).globals) :
    Sealed realm globals after := by
  have still : globals.index < after.heap.scopes.size :=
    Nat.lt_of_lt_of_le kept.scope_lt spares.grows
  have promises := spares.promises globals kept.scope_lt fun other => other rfl
  exact ⟨present, still, belongs.trans kept.belongs, promises.trans kept.promises⟩

/-- Whatever does not touch the heap leaves the scope sealed. -/
theorem Sealed.of_heap {before after : State} (kept : Sealed realm globals before)
    (heap : after.heap = before.heap) : Sealed realm globals after :=
  kept.spared (.of_scopes (congrArg Heap.scopes heap)) (heap ▸ kept.realm_lt) (by rw [heap])

/-- The count of calls does not concern the global names. -/
theorem Sealed.countCalls {state : State} (kept : Sealed realm globals state) (other : RealmRef)
    (count : Nat → Nat) : Sealed realm globals (Evaluation.countCalls other count state) := by
  have found := Array.getElem?_eq_getElem kept.realm_lt
  have belongs : ((Evaluation.countCalls other count state).heap.realm realm).globals =
      (state.heap.realm realm).globals := by
    simp only [Evaluation.countCalls, Heap.changeRealm, Heap.realm, Array.getElem?_modify, found]
    split
    · rfl
    · rfl
  have present : realm.index < (Evaluation.countCalls other count state).heap.realms.size := by
    simpa [Evaluation.countCalls, Heap.changeRealm] using kept.realm_lt
  exact kept.spared (.of_scopes rfl) present belongs

/-- A new realm has a scope of its own. -/
theorem Sealed.createRealm {state : State} (kept : Sealed realm globals state) :
    Sealed realm globals { state with heap := (Library.createRealm state.heap).2 } := by
  obtain ⟨still, same⟩ := Library.realm_createRealm kept.realm_lt
  exact kept.spared (Library.spares_createRealm _ state.heap) still (congrArg Realm.globals same)

/-- A realm is sealed when it is created. -/
theorem sealed_createRealm (state : State) :
    Sealed (Library.createRealm state.heap).1 ⟨state.heap.scopes.size⟩
      { state with heap := (Library.createRealm state.heap).2 } := by
  obtain ⟨new, _, belongs, realms⟩ := Library.realms_createRealm state.heap
  obtain ⟨scope, scopes, promises⟩ := Library.scopes_createRealm state.heap
  rw [Library.fst_createRealm]
  constructor
  case realm_lt => simp [realms]
  case scope_lt => simp [scopes]
  case belongs => simpa [Heap.realm, realms] using belongs
  case promises => simpa [Heap.scope, scopes] using promises

variable (realm globals) in
/-- The conduct of code that declares no global name. -/
def sealing : Conduct where
  source _ := True
  declares ref := ref ≠ globals
  holds := Sealed realm globals
  acts _ _ := True
  others _ _ := True
  asks _ _ := True
  raises _ _ := True
  acts_refl _ := trivial
  acts_trans _ _ := trivial
  raises_acts _ _ _ := trivial
  raises_others _ _ _ := trivial
  loads {state} _ := state.heap.loadsFrom_anywhere
  fresh kept new := Nat.lt_irrefl _ (new ▸ kept.scope_lt)
  step kept step := by
    refine ⟨trivial, ?_, fun _ now => now⟩
    cases step with
    | heap heap loads realms spares =>
      exact kept.spared spares (realms ▸ kept.realm_lt) (by simp only [Heap.realm, realms])
    | draw random => exact kept.of_heap rfl
    | print level text => exact kept.of_heap rfl
    | pause => exact kept.of_heap rfl
    | refuse other full => exact kept.of_heap rfl
  begins other kept _ := ⟨trivial, (kept.countCalls other (· + 1)).of_heap rfl, fun _ now => now⟩
  leaves other _ kept _ := ⟨trivial, (kept.countCalls other (· - 1)).of_heap rfl, trivial⟩
  pauses _ := trivial

/-- The loading of modules declares no global name: local modules run in realms of their own. -/
theorem sealing_admits : Plugin.AdmitsImports (sealing realm globals) where
  note _ _ kept := ⟨trivial, kept.of_heap rfl, fun _ now => now⟩
  turn _ kept := ⟨trivial, kept.of_heap rfl, fun _ now => now⟩
  request _ kept := ⟨trivial, kept.of_heap rfl, fun _ now => now⟩
  realm kept := ⟨trivial, kept.createRealm, fun _ now => now⟩
  conclude {state resolver} resolution _ kept _ :=
    ⟨trivial, kept.of_heap (Plugin.conclude_heap resolver resolution state), fun _ now => now⟩
  raise _ := trivial
  table _ _ _ := trivial
  nested _ _ _ := trivial
  free _ := trivial
  ask _ _ _ := trivial
  fetch _ _ _ := trivial

/-- Any code may run while code waits that declares no global name. -/
theorem sealing_isShared : IsShared (sealing realm globals) where
  acts _ := trivial
  refl _ := trivial
  trans _ _ := trivial
  settle _ kept := ⟨kept.of_heap rfl, trivial⟩

variable (globals) in
/-- Executions declare no global name. -/
def sealingContract (bound : Nat) (realm : RealmRef) :
    Contract (sealing realm globals) (executing bound realm) where
  ends _ _ _ := True
  fails _ _ _ := True
  keeps := fun (_, body) =>
    (Plugin.execute_keeps (Plugin.scripts_sound sealing_admits bound) trivial realm body).mono
      (fun _ _ start => start) (fun _ _ _ _ => trivial) fun _ _ _ _ => trivial
  ends_later _ _ _ now := now
  fails_later _ _ _ now := now

end Sealing

section Opening

variable {realm : RealmRef} {globals : ScopeRef} {state : State}

/-- An execution runs its statements in what it begins with. -/
theorem executeStatements_apply (self : Interpreter) (realm : RealmRef) (source : ModuleSource)
    (statements : List Syntax.Statement) (state : State) :
    Plugin.executeStatements self realm source statements state =
      (do
        match ← Evaluation.runStatements self
          ⟨realm, (opening realm source state.heap).1, .undefined⟩ statements with
        | .returned value => return value
        | _ => return .undefined : Eval Value)
      { state with heap := (opening realm source state.heap).2 } :=
  rfl

/-- What an execution begins with declares `require` in a new scope. -/
theorem spares_opening {declares : ScopeRef → Prop} {heap : Heap} (realm : RealmRef)
    (source : ModuleSource) (fresh : declares ⟨heap.scopes.size⟩) :
    heap.Spares declares (opening realm source heap).2 := by
  have opened : heap.Spares declares (heap.newScope {} [(heap.realm realm).globals]).2 :=
    (Heap.altersScopes_newScope _ _).spares
  unfold opening
  dsimp only
  apply Heap.Spares.trans _ (Heap.altersScopes_bindName _ _ _ _ fresh).spares
  exact opened.trans (.of_scopes rfl)

/-- What an execution begins with binds `require` and the global names. -/
theorem Sealed.binds_opening (kept : Sealed realm globals state) (source : ModuleSource)
    (name : String) :
    (opening realm source state.heap).2.binds (opening realm source state.heap).1 name ↔
      name = "require" ∨ name ∈ Library.names.map Prod.fst := by
  have names : Library.names.map Prod.fst = Library.promises.map Prod.fst := by
    simp [Library.names, Library.promises, Function.comp_def]
  have opened : ((opening realm source state.heap).2.scope globals).promises =
      Library.promises := by
    have spares := spares_opening realm source ((sealing realm globals).fresh kept)
    rw [spares.promises globals kept.scope_lt (fun other => other rfl), kept.promises]
  have own : (opening realm source state.heap).2.bindsOwn ⟨state.heap.scopes.size⟩ name ↔
      name = "require" := by
    simp [opening, Heap.newChild, Heap.newScope, Heap.allocateValue, Heap.allocate,
      Heap.bindName, Heap.changeScope, Heap.bindsOwn, Heap.scope, Array.getElem_modify,
      Scope.set, Scope.get?, Scope.insertBinding]
  have outer : (opening realm source state.heap).2.bindsOwn globals name ↔
      name ∈ Library.names.map Prod.fst := by
    rw [names, ← opened]
    exact Scope.isSome_get?_iff _ name
  have scopes : (opening realm source state.heap).1.scopes =
      [⟨state.heap.scopes.size⟩, globals] := by
    rw [← kept.belongs]
    rfl
  simp [Heap.binds, scopes, own, outer]

/-- A name that no scope binds is not defined. -/
theorem Heap.readName_of_not_binds {heap : Heap} {environment : Environment} {name : String}
    (unbound : ¬heap.binds environment name) :
    heap.readName environment name = .error (notDefined name) := by
  have none : heap.findBinding name environment.scopes = none := by
    unfold binds at unbound
    generalize environment.scopes = scopes at unbound
    induction scopes with
    | nil => rfl
    | cons first outer ih =>
      simp only [List.any_cons, Bool.or_eq_true, not_or] at unbound
      have absent : (heap.scope first).get? name = .none :=
        Option.not_isSome_iff_eq_none.mp unbound.1
      rw [findBinding, absent]
      exact ih unbound.2
  rw [readName, none]

/-- The execution of a single name that no scope binds fails. -/
theorem executeStatements_unbound (bound : Nat) (realm : RealmRef) (source : ModuleSource)
    (name : String) (state : State)
    (unbound : ¬(opening realm source state.heap).2.binds (opening realm source state.heap).1
      name) :
    Plugin.executeStatements (Interpreter.within (bound + 2)) realm source
        [.expression (.identifier name)] state =
      .failed (Heap.notDefined name)
        { state with heap := (opening realm source state.heap).2 } := by
  rw [executeStatements_apply]
  generalize opening realm source state.heap = opened at unbound ⊢
  have reads : (Code.tryHeap fun heap => heap.readName opened.1 name : Eval Value)
      { state with heap := opened.2 } =
        .failed (Heap.notDefined name) { state with heap := opened.2 } :=
    Code.tryHeap_of_error (Heap.readName_of_not_binds unbound)
  exact Code.bind_of_failed (Code.bind_of_failed (Code.bind_of_failed reads _) _) _

end Opening

/-- Whatever is executed in a realm, and however executions are interleaved and end, the global
names are those of the library: the same names are bound, the same of them are variables, and the
constants keep their values. A further execution sees `require` and these names at first, and
nothing that an earlier one has declared: any other name is not defined. -/
theorem globals_sealed (bound : Nat) (state : State) (moves : List (Move (ModuleSource × String)))
    (world : World Plugin.ExecutionError Value)
    (run : (World.idle { state with heap := (Library.createRealm state.heap).2 }).run?
      (executing bound (Library.createRealm state.heap).1) moves = some world) :
    let realm := (Library.createRealm state.heap).1
    let globals := world.state.heap.scope (world.state.heap.realm realm).globals
    globals.bindings.map (fun (name, binding) => (name, binding.isMutable)) = Library.names ∧
    (∀ name value, (name, value) ∈ Library.constants →
      globals.get? name = some ⟨some value, false⟩) ∧
    ∀ source name,
      let opened := opening realm source world.state.heap
      (opened.2.binds opened.1 name ↔
        name = "require" ∨ name ∈ Library.names.map Prod.fst) ∧
      (name ≠ "require" → name ∉ Library.names.map Prod.fst →
        Plugin.executeStatements (Interpreter.within (bound + 2)) realm source
            [.expression (.identifier name)] world.state =
          .failed (Heap.notDefined name) { world.state with heap := opened.2 }) := by
  have begun := sealed_createRealm state
  -- The library is no longer needed, and would be evaluated.
  generalize Library.createRealm state.heap = created at begun run ⊢
  have idle := abiding_idle (sealingContract ⟨state.heap.scopes.size⟩ bound created.1)
    { state with heap := created.2 } (begun.of_heap rfl)
  have kept := (idle.run sealing_isShared moves run).holds
  intro realm globals
  have promises : globals.promises = Library.promises := by
    have promised := kept.promises
    rwa [← kept.belongs] at promised
  refine ⟨?_, ?_, fun source name => ⟨kept.binds_opening source name, ?_⟩⟩
  · have kinds : globals.promises.map (fun promise => (promise.1, promise.2.1)) =
        Library.names := by
      rw [promises]
      simp [Library.names, Library.promises, Function.comp_def]
    rw [← kinds]
    simp [Scope.promises, Binding.promise, Function.comp_def]
  · intro name value constant
    have promised : (name, false, some value) ∈ globals.promises := by
      rw [promises]
      exact List.mem_append_right _ (List.mem_map.mpr ⟨(name, value), constant, rfl⟩)
    exact Scope.get?_of_promised (promises ▸ Library.nodup_promises) promised
  · intro foreign unnamed
    apply executeStatements_unbound
    rw [kept.binds_opening source name]
    exact not_or.mpr ⟨foreign, unnamed⟩

/-- The text that the second of two tasks ends with. -/
def lastSaid? (world : World Plugin.ExecutionError Value) : Option String :=
  match world.tasks with
  | [_, .ended (some (.ok (.text text)))] => some text
  | _ => none

/-- An execution may write a global variable, but neither a constant nor a new name: the next one
sees the variable alone. -/
theorem globals_sealed_twice :
    ∃ world, (World.idle { ({} : State) with heap := (Library.createRealm {}).2 }).run?
        (executing 12 (Library.createRealm {}).1)
        [.call (.table [], "let hidden = 1; Object = 2; NaN = 3;"), .start 0,
          .call (.table [], "return typeof hidden + typeof Object;"), .start 1] = some world ∧
      lastSaid? world = some "undefinednumber" ∧
      let globals := world.state.heap.scope
        (world.state.heap.realm (Library.createRealm {}).1).globals
      globals.bindings.map (fun (name, binding) => (name, binding.isMutable)) = Library.names ∧
        globals.get? "NaN" = some ⟨some (.number Number.nan), false⟩ := by
  have computed : ((World.idle { ({} : State) with heap := (Library.createRealm {}).2 }).run?
      (executing 12 (Library.createRealm {}).1)
      [.call (.table [], "let hidden = 1; Object = 2; NaN = 3;"), .start 0,
        .call (.table [], "return typeof hidden + typeof Object;"), .start 1]).map lastSaid? =
      some (some "undefinednumber") := by
    decide +kernel
  obtain ⟨world, run, said⟩ := Option.map_eq_some_iff.mp computed
  obtain ⟨names, constants, _⟩ := globals_sealed 12 {} _ world run
  exact ⟨world, run, said, names, constants "NaN" _ List.mem_cons_self⟩

end PluginSandbox.Script
