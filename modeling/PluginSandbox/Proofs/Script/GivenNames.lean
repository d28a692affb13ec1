import PluginSandbox.Proofs.Script.Holding

/-!
# Names that are given values

Code that runs in a scope may give names of the scope values, one after the other, with other code
in between that declares no name there. Which names have values then is known, and what the scope
promises is what it would promise if only these names had been bound: the other code may replace
the value of a variable, but it neither takes a value away nor changes a constant.
-/
namespace PluginSandbox.Script

namespace Scope

/-- The scope with some names bound to their values, one after the other. -/
def give (isMutable : Bool) (scope : Scope) (given : List (String × Value)) : Scope :=
  given.foldl (fun scope entry => scope.set entry.1 ⟨some entry.2, isMutable⟩) scope

variable {scope other : Scope} {isMutable : Bool}

theorem give_append (given more : List (String × Value)) :
    scope.give isMutable (given ++ more) = (scope.give isMutable given).give isMutable more :=
  List.foldl_append

theorem get?_give_of_notMem {given : List (String × Value)} {name : String}
    (other : name ∉ given.map Prod.fst) :
    (scope.give isMutable given).get? name = scope.get? name := by
  induction given generalizing scope with
  | nil => rfl
  | cons entry rest ih =>
    rw [List.map_cons, List.mem_cons, not_or] at other
    change ((scope.set entry.1 ⟨some entry.2, isMutable⟩).give isMutable rest).get? name = _
    rw [ih other.2, get?_set, if_neg other.1]

/-- Names that differ stand for the values that they are given. -/
theorem get?_give {given : List (String × Value)} (distinct : (given.map Prod.fst).Nodup)
    {name : String} {value : Value} (member : (name, value) ∈ given) :
    (scope.give isMutable given).get? name = some ⟨some value, isMutable⟩ := by
  induction given generalizing scope with
  | nil => cases member
  | cons entry rest ih =>
    rw [List.map_cons, List.nodup_cons] at distinct
    rcases List.mem_cons.mp member with rfl | later
    · refine (get?_give_of_notMem distinct.1).trans ?_
      rw [get?_set, if_pos rfl]
    · exact ih distinct.2 later

/-- Scopes that promise the same of each name do so once names are bound in both. -/
theorem lookup_promises_give (same : ∀ name,
    scope.promises.lookup name = other.promises.lookup name) (given : List (String × Value))
    (name : String) :
    (scope.give isMutable given).promises.lookup name =
      (other.give isMutable given).promises.lookup name := by
  induction given generalizing scope other with
  | nil => exact same name
  | cons entry rest ih =>
    apply ih
    intro bound
    rw [lookup_promises, lookup_promises, get?_set, get?_set]
    by_cases first : bound = entry.1
    · rw [if_pos first, if_pos first]
    · rw [if_neg first, if_neg first, ← lookup_promises, ← lookup_promises, same]

/-- The scope with some names declared, one after the other. -/
def declare (isMutable : Bool) (scope : Scope) (names : List String) : Scope :=
  names.foldl (fun scope name => scope.set name ⟨none, isMutable⟩) scope

/-- The names that are declared are bound, beside those that were. -/
theorem isSome_get?_declare (names : List String) (name : String) :
    ((scope.declare isMutable names).get? name).isSome = true ↔
      (scope.get? name).isSome = true ∨ name ∈ names := by
  induction names generalizing scope with
  | nil => simp [declare]
  | cons first rest ih =>
    change (((scope.set first ⟨none, isMutable⟩).declare isMutable rest).get? name).isSome =
      true ↔ _
    rw [ih, get?_set, List.mem_cons]
    by_cases same : name = first
    · simp [same]
    · simp [same]

/-- The names that are declared have no values before their declaration runs. -/
theorem hasValue_declare (names : List String) (name : String) :
    (scope.declare isMutable names).hasValue name = true ↔
      scope.hasValue name = true ∧ name ∉ names := by
  induction names generalizing scope with
  | nil => simp [declare]
  | cons first rest ih =>
    change ((scope.set first ⟨none, isMutable⟩).declare isMutable rest).hasValue name = true ↔ _
    rw [ih, hasValue_set, List.mem_cons]
    by_cases same : name = first
    · simp [same]
    · simp [same]

end Scope

/-- Whether a change of the heap gives names of a scope their values, one after the other, and
keeps all else that the scope promises. -/
structure Heap.Gives (ref : ScopeRef) (isMutable : Bool) (given : List (String × Value))
    (before after : Heap) : Prop where
  /-- Scopes stay on the heap. -/
  grows : before.scopes.size ≤ after.scopes.size
  /-- Exactly the names that are given values have some, beside those that had some. -/
  valued : ∀ name, (after.scope ref).hasValue name = true ↔
    (before.scope ref).hasValue name = true ∨ name ∈ given.map Prod.fst
  /-- The scope promises what it would if only these names had been bound. -/
  promises : ∀ name, (after.scope ref).promises.lookup name =
    ((before.scope ref).give isMutable given).promises.lookup name

namespace Heap

variable {ref : ScopeRef} {isMutable : Bool} {before middle after : Heap}

/-- Code that declares no name in a scope gives none a value. -/
theorem Spares.gives (spares : before.Spares (· ≠ ref) after)
    (present : ref.index < before.scopes.size) : before.Gives ref isMutable [] after := by
  have valued := spares.valued ref present fun other => other rfl
  have promises := spares.promises ref present fun other => other rfl
  constructor
  case grows => exact spares.grows
  case valued =>
    intro name
    simp [valued]
  case promises =>
    intro name
    exact congrArg (List.lookup name) promises

theorem Gives.append {given more : List (String × Value)}
    (first : before.Gives ref isMutable given middle)
    (second : middle.Gives ref isMutable more after) :
    before.Gives ref isMutable (given ++ more) after := by
  constructor
  case grows => exact Nat.le_trans first.grows second.grows
  case valued =>
    intro name
    rw [second.valued, first.valued, List.map_append, List.mem_append, or_assoc]
  case promises =>
    intro name
    rw [second.promises, Scope.give_append]
    exact Scope.lookup_promises_give first.promises more name

theorem gives_bindName {environment : Environment}
    (present : environment.innermost.index < before.scopes.size) (name : String) (value : Value) :
    before.Gives environment.innermost isMutable [(name, value)]
      (before.bindName environment name value isMutable) := by
  constructor
  case grows => exact Nat.le_of_eq (scopes_size_bindName name value isMutable).symm
  case valued =>
    intro other
    rw [bindName, scope_changeScope present, Scope.hasValue_set]
    by_cases same : other = name
    · simp [same]
    · simp [same]
  case promises =>
    intro other
    rw [bindName, scope_changeScope present]
    rfl

/-- A constant has the value that it was given. -/
theorem Gives.get?_constant {given : List (String × Value)}
    (gives : before.Gives ref false given after) (distinct : (given.map Prod.fst).Nodup)
    {name : String} {value : Value} (member : (name, value) ∈ given) :
    (after.scope ref).get? name = some ⟨some value, false⟩ := by
  apply Scope.get?_of_lookup
  rw [gives.promises, Scope.lookup_promises, Scope.get?_give distinct member]
  rfl

theorem scope_declareNames {environment : Environment}
    (present : environment.innermost.index < before.scopes.size) (names : List String) :
    (names.foldl (fun heap name => heap.declareName environment name isMutable) before).scope
        environment.innermost =
      (before.scope environment.innermost).declare isMutable names := by
  induction names generalizing before with
  | nil => rfl
  | cons name names ih =>
    have still : environment.innermost.index <
        (before.declareName environment name isMutable).scopes.size := by
      rwa [declareName, changeScope, Array.size_modify]
    rw [List.foldl_cons, ih still, declareName, scope_changeScope present]
    rfl

end Heap

/-- Whether others declare no name in a scope. -/
def SparesScope (ref : ScopeRef) (others : State → State → Prop) : Prop :=
  ∀ before after : State, others before after → before.heap.Spares (· ≠ ref) after.heap

/-- The conduct of code that declares no name in a scope while others declare none there. -/
def sparing (ref : ScopeRef) : Conduct where
  source _ := True
  declares other := other ≠ ref
  holds state := ref.index < state.heap.scopes.size
  acts before after := before.heap.Spares (· ≠ ref) after.heap
  others before after := before.heap.Spares (· ≠ ref) after.heap
  asks _ _ := True
  raises _ _ := True
  acts_refl _ := .of_scopes rfl
  acts_trans := .trans
  raises_acts _ _ _ := trivial
  raises_others _ _ _ := trivial
  loads {state} _ := state.heap.loadsFrom_anywhere
  fresh present new := Nat.lt_irrefl _ (new ▸ present)
  step present step := by
    cases step with
    | heap heap loads realms spares =>
      exact ⟨spares, Nat.lt_of_lt_of_le present spares.grows, fun _ now => now⟩
    | _ => exact ⟨.of_scopes rfl, present, fun _ now => now⟩
  begins _ present _ := ⟨.of_scopes rfl, present, fun _ now => now⟩
  leaves _ _ present _ := ⟨.of_scopes rfl, present, trivial⟩
  pauses _ := trivial

/-- The loading of modules declares no name in a scope that is there. -/
theorem sparing_admits (ref : ScopeRef) : Plugin.AdmitsImports (sparing ref) where
  note _ _ present := ⟨.of_scopes rfl, present, fun _ now => now⟩
  turn _ present := ⟨.of_scopes rfl, present, fun _ now => now⟩
  request _ present := ⟨.of_scopes rfl, present, fun _ now => now⟩
  realm {state} present :=
    have spares := Library.spares_createRealm (· ≠ ref) state.heap
    ⟨spares, Nat.lt_of_lt_of_le present spares.grows, fun _ now => now⟩
  conclude {state resolver} resolution _ present _ := by
    have same := congrArg Heap.scopes (Plugin.conclude_heap resolver resolution state)
    have spares : (sparing ref).acts state (Plugin.conclude resolver resolution state) :=
      .of_scopes same
    exact ⟨spares, Nat.lt_of_lt_of_le present spares.grows, fun _ now => now⟩
  raise _ := trivial
  table _ _ _ := trivial
  nested _ _ _ := trivial
  free _ := trivial
  ask _ _ _ := trivial
  fetch _ _ _ := trivial

/-- A run that declares no name in a scope leaves it alone until its end. -/
theorem Run.Keeps.spares {ε α : Type} {ref : ScopeRef} {others : State → State → Prop}
    (spares : SparesScope ref others) {run : Run ε α} {ends : α → State → Prop}
    {fails : ε → State → Prop} {before after : State} {outcome : Except ε α}
    (keeps : run.Keeps (sparing ref) ends fails before)
    (comes : run.ComesTo others outcome after) : before.heap.Spares (· ≠ ref) after.heap := by
  induction run generalizing before with
  | done value state =>
    obtain ⟨-, rfl⟩ := comes
    exact keeps.1.1
  | failed error state =>
    obtain ⟨-, rfl⟩ := comes
    exact keeps.1.1
  | exhausted => exact comes.elim
  | waiting request state resume ih =>
    obtain ⟨reply, next, changed, comes⟩ := comes
    obtain ⟨⟨acts, present⟩, -, goesOn⟩ := keeps
    have foreign := spares state next changed
    have still : (sparing ref).holds next := Nat.lt_of_lt_of_le present foreign.grows
    exact (acts.trans foreign).trans (ih reply next (goesOn reply next trivial still foreign) comes)

end PluginSandbox.Script
