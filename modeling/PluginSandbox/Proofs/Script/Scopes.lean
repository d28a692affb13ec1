import PluginSandbox.Proofs.Script.Realms

/-!
# What scopes promise

A scope promises its names, which of them are variables, and the values of all others. Code
declares names in scopes of its own, and a write replaces the value of a variable alone, so every
scope in which nothing is declared keeps what it promises.
-/
namespace PluginSandbox.Script

/-- What a binding promises: whether it is a variable, and its value if it is not. -/
def Binding.promise (binding : Binding) : Bool × Option Value :=
  (binding.isMutable, if binding.isMutable then none else binding.value)

namespace Scope

/-- What a scope promises of each of its names. -/
def promises (scope : Scope) : List (String × Bool × Option Value) :=
  scope.bindings.map fun (name, binding) => (name, binding.promise)

/-- Whether a name of a scope has a value. -/
def hasValue (scope : Scope) (name : String) : Bool :=
  ((scope.get? name).bind Binding.value).isSome

theorem get?_set (scope : Scope) (name other : String) (binding : Binding) :
    (scope.set name binding).get? other =
      if other = name then some binding else scope.get? other := by
  obtain ⟨bindings⟩ := scope
  change (insertBinding name binding bindings).lookup other =
    if other = name then some binding else bindings.lookup other
  induction bindings with
  | nil =>
    by_cases same : other = name
    · simp [insertBinding, same]
    · simp [insertBinding, List.lookup_cons, beq_false_of_ne same, same]
  | cons entry rest ih =>
    obtain ⟨first, old⟩ := entry
    unfold insertBinding
    by_cases found : first = name
    · subst found
      by_cases same : other = first
      · simp [same]
      · simp [List.lookup_cons, beq_false_of_ne same, same]
    · by_cases same : other = first
      · subst same
        simp [found]
      · simp only [found, if_false, List.lookup_cons, beq_false_of_ne same, ih]

theorem hasValue_set (scope : Scope) (name other : String) (binding : Binding) :
    (scope.set name binding).hasValue other =
      if other = name then binding.value.isSome else scope.hasValue other := by
  rw [hasValue, get?_set]
  split
  · rfl
  · rfl

/-- A variable keeps having a value when it gets another one. -/
theorem hasValue_set_variable {scope : Scope} {name : String} {old : Value}
    (bound : scope.get? name = some ⟨some old, true⟩) (value : Value) :
    (scope.set name ⟨some value, true⟩).hasValue = scope.hasValue := by
  funext other
  rw [hasValue_set]
  by_cases same : other = name
  · rw [if_pos same, same, hasValue, bound]
    rfl
  · rw [if_neg same]

/-- A variable stays a variable when it gets another value. -/
theorem promises_set_variable {scope : Scope} {name : String} {old : Value}
    (bound : scope.get? name = some ⟨some old, true⟩) (value : Value) :
    (scope.set name ⟨some value, true⟩).promises = scope.promises := by
  obtain ⟨bindings⟩ := scope
  simp only [get?, set, promises] at bound ⊢
  induction bindings with
  | nil => cases bound
  | cons entry rest ih =>
    obtain ⟨other, binding⟩ := entry
    by_cases same : other = name
    · subst same
      rw [List.lookup_cons_self, Option.some.injEq] at bound
      subst bound
      simp [insertBinding, Binding.promise]
    · have later : rest.lookup name = some ⟨some old, true⟩ := by
        rwa [List.lookup_cons, beq_false_of_ne (Ne.symm same)] at bound
      simp [insertBinding, same, ih later]

/-- A new name is promised after the others. -/
theorem promises_set_new {scope : Scope} {name : String}
    (new : name ∉ scope.promises.map Prod.fst) (binding : Binding) :
    (scope.set name binding).promises = scope.promises ++ [(name, binding.promise)] := by
  obtain ⟨bindings⟩ := scope
  simp only [set, promises, List.map_map] at new ⊢
  induction bindings with
  | nil => rfl
  | cons entry rest ih =>
    obtain ⟨other, bound⟩ := entry
    simp only [List.map_cons, List.mem_cons, not_or] at new
    have different : other ≠ name := fun same => new.1 same.symm
    simp [insertBinding, different, ih new.2]

/-- A scope binds the names that it promises. -/
theorem isSome_get?_iff (scope : Scope) (name : String) :
    (scope.get? name).isSome ↔ name ∈ scope.promises.map Prod.fst := by
  simp [get?, promises]

/-- A promised value is the value of its name. -/
theorem get?_of_promised {scope : Scope} {name : String} {value : Value}
    (distinct : (scope.promises.map Prod.fst).Nodup)
    (promised : (name, false, some value) ∈ scope.promises) :
    scope.get? name = some ⟨some value, false⟩ := by
  obtain ⟨bindings⟩ := scope
  simp only [get?, promises] at distinct promised ⊢
  induction bindings with
  | nil => cases promised
  | cons entry rest ih =>
    obtain ⟨other, binding⟩ := entry
    obtain ⟨absent, distinct⟩ := List.nodup_cons.mp distinct
    rcases List.mem_cons.mp promised with here | later
    · obtain ⟨current, isMutable⟩ := binding
      cases isMutable <;> simp_all [Binding.promise]
    · have different : name ≠ other := by
        intro same
        apply absent
        exact List.mem_map.mpr ⟨_, later, same⟩
      rw [List.lookup_cons, beq_false_of_ne different]
      exact ih distinct later

end Scope

namespace Heap

/-- Whether a change of the heap keeps what the present scopes promise, those aside in which names
may be declared. -/
structure Spares (declares : ScopeRef → Prop) (before after : Heap) : Prop where
  /-- Scopes stay on the heap. -/
  grows : before.scopes.size ≤ after.scopes.size
  /-- All other scopes keep what they promise. -/
  promises : ∀ ref, ref.index < before.scopes.size → ¬declares ref →
    (after.scope ref).promises = (before.scope ref).promises
  /-- The same names of them have values. -/
  valued : ∀ ref, ref.index < before.scopes.size → ¬declares ref →
    (after.scope ref).hasValue = (before.scope ref).hasValue

/-- Whether a change of the heap concerns scopes alone, and declares names only where it may. -/
structure AltersScopes (declares : ScopeRef → Prop) (before after : Heap) : Prop where
  /-- The objects stay. -/
  objects : after.objects = before.objects
  /-- The realms stay. -/
  realms : after.realms = before.realms
  /-- Names are declared where they may be. -/
  spares : before.Spares declares after

variable {declares : ScopeRef → Prop} {heap : Heap}

theorem scope_changeScope {ref : ScopeRef} (present : ref.index < heap.scopes.size)
    (change : Scope → Scope) :
    (heap.changeScope ref change).scope ref = change (heap.scope ref) := by
  simp [scope, changeScope, Array.getElem_modify, present]

theorem scope_changeScope_of_ne {ref other : ScopeRef} (different : other ≠ ref)
    (change : Scope → Scope) : (heap.changeScope ref change).scope other = heap.scope other := by
  have apart : ref.index ≠ other.index := fun same => different (congrArg ScopeRef.mk same.symm)
  simp [scope, changeScope, Array.getElem?_modify, apart]

theorem Spares.of_scopes {after : Heap} (scopes : after.scopes = heap.scopes) :
    heap.Spares declares after := by
  have size : heap.scopes.size ≤ after.scopes.size :=
    Nat.le_of_eq (congrArg Array.size scopes.symm)
  have same (ref : ScopeRef) : after.scope ref = heap.scope ref := by
    rw [scope, scope, scopes]
  exact ⟨size, fun ref _ _ => congrArg Scope.promises (same ref),
    fun ref _ _ => congrArg Scope.hasValue (same ref)⟩

/-- A new scope comes after the others. -/
theorem Spares.of_push {after : Heap} {last : Scope}
    (scopes : after.scopes = heap.scopes.push last) : heap.Spares declares after := by
  have size : heap.scopes.size ≤ after.scopes.size := by
    rw [scopes, Array.size_push]
    omega
  have same (ref : ScopeRef) (present : ref.index < heap.scopes.size) :
      after.scope ref = heap.scope ref := by
    simp only [scope, scopes, Array.getElem?_push_lt present, Array.getElem?_eq_getElem present]
  exact ⟨size, fun ref present _ => congrArg Scope.promises (same ref present),
    fun ref present _ => congrArg Scope.hasValue (same ref present)⟩

theorem Spares.trans {before after : Heap} (first : before.Spares declares heap)
    (second : heap.Spares declares after) : before.Spares declares after := by
  have still (ref : ScopeRef) (present : ref.index < before.scopes.size) :
      ref.index < heap.scopes.size := Nat.lt_of_lt_of_le present first.grows
  constructor
  case grows => exact Nat.le_trans first.grows second.grows
  case promises =>
    intro ref present other
    exact (second.promises ref (still ref present) other).trans (first.promises ref present other)
  case valued =>
    intro ref present other
    exact (second.valued ref (still ref present) other).trans (first.valued ref present other)

theorem AltersScopes.trans {before after : Heap} (first : before.AltersScopes declares heap)
    (second : heap.AltersScopes declares after) : before.AltersScopes declares after :=
  ⟨second.objects.trans first.objects, second.realms.trans first.realms,
    first.spares.trans second.spares⟩

/-- A scope may be changed if names may be declared in it, or if it keeps what it promises and the
same names have values in it. -/
theorem altersScopes_changeScope (ref : ScopeRef) (change : Scope → Scope)
    (keeps : ¬declares ref → (change (heap.scope ref)).promises = (heap.scope ref).promises ∧
      (change (heap.scope ref)).hasValue = (heap.scope ref).hasValue) :
    heap.AltersScopes declares (heap.changeScope ref change) := by
  have size : heap.scopes.size ≤ (heap.changeScope ref change).scopes.size := by
    simp [changeScope]
  have same (other : ScopeRef) (present : other.index < heap.scopes.size)
      (undeclared : ¬declares other) :
      ((heap.changeScope ref change).scope other).promises = (heap.scope other).promises ∧
        ((heap.changeScope ref change).scope other).hasValue = (heap.scope other).hasValue := by
    by_cases same : ref = other
    · subst same
      rw [scope_changeScope present]
      exact keeps undeclared
    · rw [scope_changeScope_of_ne (Ne.symm same)]
      exact ⟨rfl, rfl⟩
  exact ⟨rfl, rfl, size, fun other present undeclared => (same other present undeclared).1,
    fun other present undeclared => (same other present undeclared).2⟩

theorem altersScopes_bindName (environment : Environment) (name : String) (value : Value)
    (isMutable : Bool) (own : declares environment.innermost) :
    heap.AltersScopes declares (heap.bindName environment name value isMutable) :=
  altersScopes_changeScope _ _ fun foreign => absurd own foreign

theorem altersScopes_declareNames (environment : Environment) (names : List String)
    (isMutable : Bool) (own : declares environment.innermost) : heap.AltersScopes declares
      (names.foldl (fun heap name => heap.declareName environment name isMutable) heap) := by
  induction names generalizing heap with
  | nil => exact ⟨rfl, rfl, .of_scopes rfl⟩
  | cons name names ih =>
    have first : heap.AltersScopes declares (heap.declareName environment name isMutable) :=
      altersScopes_changeScope _ _ fun foreign => absurd own foreign
    exact first.trans ih

theorem altersScopes_newScope (scope : Scope) (outer : List ScopeRef) :
    heap.AltersScopes declares (heap.newScope scope outer).2 :=
  ⟨rfl, rfl, .of_push rfl⟩

theorem get?_of_findBinding {name : String} {scopes : List ScopeRef} {ref : ScopeRef}
    {binding : Binding} (found : heap.findBinding name scopes = some (ref, binding)) :
    (heap.scope ref).get? name = some binding := by
  induction scopes with
  | nil => cases found
  | cons first outer ih =>
    rw [findBinding] at found
    cases bound : (heap.scope first).get? name with
    | none =>
      rw [bound] at found
      exact ih found
    | some present =>
      rw [bound] at found
      cases found
      exact bound

/-- Only a variable that has a value is written. -/
theorem get?_of_writableScope {environment : Environment} {name : String} {ref : ScopeRef}
    (writable : heap.writableScope environment name = .ok ref) :
    ∃ old, (heap.scope ref).get? name = some ⟨some old, true⟩ := by
  unfold writableScope at writable
  split at writable
  · cases writable
  · cases writable
  · rename_i old found
    cases writable
    exact ⟨old, get?_of_findBinding found⟩
  · cases writable

/-- A write keeps what all scopes promise. -/
theorem altersScopes_setVariable {environment : Environment} {name : String} {ref : ScopeRef}
    (writable : heap.writableScope environment name = .ok ref) (value : Value) :
    heap.AltersScopes declares (heap.setVariable ref name value) := by
  obtain ⟨old, bound⟩ := get?_of_writableScope writable
  exact altersScopes_changeScope ref _ fun _ =>
    ⟨Scope.promises_set_variable bound value, Scope.hasValue_set_variable bound value⟩

end Heap

namespace Library

/-- What the scope of the global names promises: the globals are variables, apart from the
constants. -/
def promises : List (String × Bool × Option Value) :=
  globals.map (fun global => (global.name, true, none)) ++
    numericFunctions.map (fun (name, _) => (name, true, none)) ++
    constants.map fun (name, value) => (name, false, some value)

/-- No name is installed twice. -/
theorem nodup_promises : (promises.map Prod.fst).Nodup := by
  decide

/-- Whether a change of the heap binds a name in the innermost scope of an environment, beside
changes of objects. -/
def Binds (environment : Environment) (name : String) (value : Value) (isMutable : Bool)
    (before after : Heap) : Prop :=
  ∃ middle, before.AltersObjects middle ∧ after = middle.bindName environment name value isMutable

/-- A global of the library is a variable. -/
theorem binds_installGlobal (environment : Environment) (prototypes : Prototypes) (heap : Heap)
    (global : Global) :
    ∃ value, Binds environment global.name value true heap
      (installGlobal environment prototypes heap global) := by
  have members := altersObjects_createMembers heap global.members
  have both (shared : List (String × Member)) :=
    members.trans (altersObjects_createMembers (createMembers heap global.members).2 shared)
  unfold installGlobal
  cases global.kind? with
  | none =>
    refine ⟨_, _, ?_, rfl⟩
    exact ⟨(both _).scopes, (both _).realms⟩
  | some kind =>
    -- The shared properties are objects as well.
    refine ⟨_, _, ?_, rfl⟩
    exact ⟨(both _).scopes, (both _).realms⟩

theorem binds_installFunction (environment : Environment) (heap : Heap)
    (entry : String × NumberFunction) :
    ∃ value, Binds environment entry.1 value true heap
      (installFunction environment heap entry) := by
  refine ⟨_, _, ?_, rfl⟩
  exact ⟨rfl, rfl⟩

/-- Whether a heap has one more scope than another one, which promises something. -/
def Adds (promises : List (String × Bool × Option Value)) (before after : Heap) : Prop :=
  (∃ scope : Scope, after.scopes = before.scopes.push scope ∧ scope.promises = promises) ∧
    after.realms = before.realms

section Installing

variable {base heap after : Heap} {promised : List (String × Bool × Option Value)}

/-- A new name that is bound in the new scope is promised after the others. -/
theorem Adds.binds (adds : Adds promised base heap) {name : String} {value : Value}
    {isMutable : Bool} (new : name ∉ promised.map Prod.fst)
    (binds : Binds ⟨⟨base.scopes.size⟩, []⟩ name value isMutable heap after) :
    Adds (promised ++ [(name, Binding.promise ⟨some value, isMutable⟩)]) base after := by
  obtain ⟨⟨scope, scopes, promises⟩, realms⟩ := adds
  obtain ⟨middle, alters, rfl⟩ := binds
  refine ⟨⟨scope.set name ⟨some value, isMutable⟩, ?_, ?_⟩, alters.realms.trans realms⟩
  · simp only [Heap.bindName, Heap.changeScope, alters.scopes, scopes]
    apply Array.ext
    · simp
    · intro index _ bound
      rw [Array.size_push] at bound
      rw [Array.getElem_modify, Array.getElem_push, Array.getElem_push]
      split <;> split <;> first | omega | rfl
  · rw [Scope.promises_set_new (promises ▸ new), promises]

/-- New names that are bound one after the other are promised in this order. -/
theorem Adds.foldl {α : Type} {install : Heap → α → Heap}
    {promise : α → String × Bool × Option Value} (items : List α)
    (each : ∀ heap item, ∃ value isMutable,
      Binds ⟨⟨base.scopes.size⟩, []⟩ (promise item).1 value isMutable heap (install heap item) ∧
        (promise item).2 = Binding.promise ⟨some value, isMutable⟩)
    (distinct : ((promised ++ items.map promise).map Prod.fst).Nodup)
    (adds : Adds promised base heap) :
    Adds (promised ++ items.map promise) base (items.foldl install heap) := by
  induction items generalizing promised heap with
  | nil => simpa using adds
  | cons item items ih =>
    obtain ⟨value, isMutable, binds, same⟩ := each heap item
    rw [List.map_cons, List.append_cons] at distinct ⊢
    have new : (promise item).1 ∉ promised.map Prod.fst := by
      intro old
      rw [List.map_append, List.map_append] at distinct
      have apart := (List.nodup_append.mp (List.nodup_append.mp distinct).1).2.2
      exact apart _ old _ (by simp) rfl
    have next := adds.binds new binds
    rw [← same] at next
    exact ih distinct next

end Installing

/-- The globals of the library are promised in the order in which they are installed. -/
theorem adds_library {base : Heap} (prototypes : Prototypes) {heap : Heap}
    (adds : Adds [] base heap) :
    let environment : Environment := ⟨⟨base.scopes.size⟩, []⟩
    Adds promises base (constants.foldl
      (fun heap (name, value) => heap.bindName environment name value false)
      (numericFunctions.foldl (installFunction environment)
        (globals.foldl (installGlobal environment prototypes) heap))) := by
  have distinct := nodup_promises
  unfold promises at distinct ⊢
  -- The tables are no longer needed, and would be evaluated.
  generalize globals = library, numericFunctions = functions, constants = values at distinct ⊢
  have initial {first last : List (String × Bool × Option Value)}
      (distinct : ((first ++ last).map Prod.fst).Nodup) : (first.map Prod.fst).Nodup := by
    rw [List.map_append] at distinct
    exact (List.nodup_append.mp distinct).1
  have globalsAdded := adds.foldl library (fun heap global => by
    obtain ⟨value, binds⟩ := binds_installGlobal ⟨⟨base.scopes.size⟩, []⟩ prototypes heap global
    exact ⟨value, true, binds, rfl⟩) (initial (initial distinct))
  have functionsAdded := globalsAdded.foldl functions (fun heap entry => by
    obtain ⟨value, binds⟩ := binds_installFunction ⟨⟨base.scopes.size⟩, []⟩ heap entry
    exact ⟨value, true, binds, rfl⟩) (initial distinct)
  exact functionsAdded.foldl values
    (fun heap (_, value) => ⟨value, false, ⟨heap, .refl heap, rfl⟩, rfl⟩) distinct

/-- A new realm comes after the others, and nothing runs in it. Its scope comes after the others
and promises the names of the library. -/
theorem createRealm_adds (heap : Heap) :
    ∃ installed prototypes, Adds promises heap installed ∧
      createRealm heap = (⟨installed.realms.size⟩,
        { installed with
          realms := installed.realms.push ⟨⟨heap.scopes.size⟩, prototypes, 0⟩ }) := by
  have first : Adds [] heap (heap.newScope {} []).2 := ⟨⟨{}, rfl, rfl⟩, rfl⟩
  refine ⟨_, _, adds_library _ ?_, rfl⟩
  exact first

theorem realms_createRealm (heap : Heap) :
    ∃ realm, realm.callDepth = 0 ∧ realm.globals = ⟨heap.scopes.size⟩ ∧
      (createRealm heap).2.realms = heap.realms.push realm := by
  obtain ⟨installed, prototypes, ⟨_, realms⟩, created⟩ := createRealm_adds heap
  refine ⟨⟨⟨heap.scopes.size⟩, prototypes, 0⟩, rfl, rfl, ?_⟩
  rw [created, realms]

/-- A new realm does not touch the realms that are there. -/
theorem realm_createRealm {heap : Heap} {realm : RealmRef}
    (present : realm.index < heap.realms.size) :
    realm.index < (createRealm heap).2.realms.size ∧
      (createRealm heap).2.realm realm = heap.realm realm := by
  obtain ⟨new, _, _, realms⟩ := realms_createRealm heap
  constructor
  · rw [realms, Array.size_push]
    omega
  · simp only [Heap.realm, realms, Array.getElem?_push_lt present,
      Array.getElem?_eq_getElem present]

theorem fst_createRealm (heap : Heap) : (createRealm heap).1 = ⟨heap.realms.size⟩ := by
  obtain ⟨installed, prototypes, ⟨_, realms⟩, created⟩ := createRealm_adds heap
  rw [created, realms]

theorem scopes_createRealm (heap : Heap) :
    ∃ scope : Scope, (createRealm heap).2.scopes = heap.scopes.push scope ∧
      scope.promises = promises := by
  obtain ⟨installed, prototypes, ⟨added, _⟩, created⟩ := createRealm_adds heap
  rw [created]
  exact added

/-- A new realm does not touch the scopes that are there. -/
theorem spares_createRealm (declares : ScopeRef → Prop) (heap : Heap) :
    heap.Spares declares (createRealm heap).2 := by
  obtain ⟨scope, scopes, _⟩ := scopes_createRealm heap
  exact .of_push scopes

end Library

end PluginSandbox.Script
