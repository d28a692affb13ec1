import Mathlib.Data.List.Infix
import Mathlib.Data.List.Nodup
import Mathlib.Logic.Relation
import PluginSandbox.Proofs.Script.Constants
import PluginSandbox.Proofs.Script.Scopes

/-!
# Copies of scopes

A copy of a scope lies inside the same outer scopes as its original. From then on code goes on on
two sides: inside the original and inside the copy, in scopes that it opens there. The sides share
the outer scopes and nothing else, so what one of them does in its own scopes is not seen on the
other one, and what is written in an outer scope is seen on both.
-/
namespace PluginSandbox.Script

/-- Whether the scopes of an environment are there, and none of them lies inside itself. -/
structure Environment.Formed (heap : Heap) (environment : Environment) : Prop where
  /-- All scopes are there. -/
  present : ∀ ref ∈ environment.scopes, ref.index < heap.scopes.size
  /-- No scope lies inside itself. -/
  distinct : environment.scopes.Nodup

namespace Heap

variable {heap : Heap}

theorem scope_newScope {ref : ScopeRef} (present : ref.index < heap.scopes.size) (scope : Scope)
    (outer : List ScopeRef) : (heap.newScope scope outer).2.scope ref = heap.scope ref := by
  simp only [Heap.scope, newScope, Array.getElem?_push_lt present,
    Array.getElem?_eq_getElem present]

/-- Only scopes that are there bind names. -/
theorem present_of_get? {ref : ScopeRef} {name : String} {binding : Binding}
    (bound : (heap.scope ref).get? name = some binding) : ref.index < heap.scopes.size := by
  by_contra absent
  rw [scope, Array.getElem?_eq_none (Nat.le_of_not_lt absent)] at bound
  cases bound

/-- The scopes of an environment are searched from the inside out. -/
theorem findBinding_append (name : String) (inner outer : List ScopeRef) :
    heap.findBinding name (inner ++ outer) =
      (heap.findBinding name inner).or (heap.findBinding name outer) := by
  induction inner with
  | nil => rfl
  | cons ref rest ih =>
    rw [List.cons_append, findBinding, findBinding, ih]
    cases (heap.scope ref).get? name <;> rfl

theorem findBinding_eq_none {name : String} {scopes : List ScopeRef} :
    heap.findBinding name scopes = none ↔ ∀ ref ∈ scopes, heap.bindsOwn ref name = false := by
  induction scopes with
  | nil => exact ⟨fun _ => nofun, fun _ => rfl⟩
  | cons ref rest ih =>
    rw [findBinding, List.forall_mem_cons, bindsOwn]
    cases (heap.scope ref).get? name with
    | none => simpa using ih
    | some binding => simp

theorem mem_of_findBinding {name : String} {scopes : List ScopeRef} {ref : ScopeRef}
    {binding : Binding} (found : heap.findBinding name scopes = some (ref, binding)) :
    ref ∈ scopes := by
  induction scopes with
  | nil => cases found
  | cons first rest ih =>
    rw [findBinding] at found
    cases bound : (heap.scope first).get? name with
    | none =>
      rw [bound] at found
      exact List.mem_cons_of_mem _ (ih found)
    | some present =>
      rw [bound] at found
      cases found
      exact List.mem_cons_self

/-- A search depends on the scopes that are searched. -/
theorem findBinding_congr {after : Heap} {name : String} {scopes : List ScopeRef}
    (same : ∀ ref ∈ scopes, after.scope ref = heap.scope ref) :
    after.findBinding name scopes = heap.findBinding name scopes := by
  induction scopes with
  | nil => rfl
  | cons ref rest ih =>
    obtain ⟨first, others⟩ := List.forall_mem_cons.mp same
    rw [findBinding, findBinding, first, ih others]

/-- Code reads the same as long as the scopes that it sees stay the same. -/
theorem readName_congr {after : Heap} {environment : Environment}
    (same : ∀ ref ∈ environment.scopes, after.scope ref = heap.scope ref) (name : String) :
    after.readName environment name = heap.readName environment name := by
  rw [readName, readName, findBinding_congr same]

/-- A search that ends in a scope ends there once the name is written in it. -/
theorem findBinding_setVariable {name : String} {scopes : List ScopeRef} {ref : ScopeRef}
    {old : Binding} (present : ref.index < heap.scopes.size)
    (found : heap.findBinding name scopes = some (ref, old)) (value : Value) :
    (heap.setVariable ref name value).findBinding name scopes =
      some (ref, ⟨some value, true⟩) := by
  induction scopes with
  | nil => cases found
  | cons first rest ih =>
    rw [findBinding] at found ⊢
    by_cases here : first = ref
    · rw [here, setVariable, scope_changeScope present, Scope.get?_set, if_pos rfl]
    · rw [setVariable, scope_changeScope_of_ne here]
      cases bound : (heap.scope first).get? name with
      | none =>
        rw [bound] at found
        exact ih found
      | some binding =>
        rw [bound] at found
        cases found
        exact absurd rfl here

/-- A name is written in the scope in which it is found. -/
theorem writeName_eq_ok {environment : Environment} {name : String} {value : Value}
    {after : Heap} (written : heap.writeName environment name value = .ok after) :
    ∃ ref old, heap.findBinding name environment.scopes = some (ref, ⟨some old, true⟩) ∧
      after = heap.setVariable ref name value := by
  rw [writeName, writableScope] at written
  split at written
  · cases written
  · cases written
  · rename_i ref old found
    cases written
    exact ⟨ref, old, found, rfl⟩
  · cases written

end Heap

/-- The two sides of a copy. -/
inductive Side where
  /-- Inside the original scope. -/
  | original
  /-- Inside its copy. -/
  | copy
  deriving DecidableEq

/-- The other side. -/
def Side.other : Side → Side
  | .original => .copy
  | .copy => .original

/-- A heap, and what code on the two sides of a copy sees of it. -/
structure Sides where
  /-- The heap that they share. -/
  heap : Heap
  /-- The environments on a side. -/
  sees : Side → Environment → Prop

namespace Sides

/-- The sides when a copy has been made of the innermost scope of an environment, for some names:
on the one side all that lies inside the environment, on the other one the copy alone. -/
def ofCopy (heap : Heap) (environment : Environment) (names : List String) : Sides where
  heap := (heap.copyScope environment names).2
  sees
    | .original, seen => environment.scopes <:+ seen.scopes ∧ seen.Formed heap
    | .copy, seen => seen = (heap.copyScope environment names).1

/-- The sides once a scope has been opened inside an environment on one of them. -/
def opening (sides : Sides) (side : Side) (environment : Environment) (scope : Scope) : Sides where
  heap := (sides.heap.newScope scope environment.scopes).2
  sees other seen := sides.sees other seen ∨
    other = side ∧ seen = (sides.heap.newScope scope environment.scopes).1

/-- What code on a side does to scopes: it assigns to names, of which some may be allowed alone, it
declares names and gives them their first values, and it opens scopes. -/
inductive Step (assigns : String → Prop) (side : Side) (before : Sides) : Sides → Prop where
  /-- It assigns to a name that it sees. -/
  | assign {environment : Environment} {name : String} {value : Value} {heap : Heap}
    (seen : before.sees side environment) (allowed : assigns name)
    (written : before.heap.writeName environment name value = .ok heap) :
    Step assigns side before { before with heap }
  /-- It binds a name in its innermost scope. -/
  | bind {environment : Environment} (seen : before.sees side environment) (name : String)
    (binding : Binding) :
    Step assigns side before
      { before with
        heap := before.heap.changeScope environment.innermost fun scope => scope.set name binding }
  /-- It opens a scope inside one that it sees. -/
  | opens {environment : Environment} (seen : before.sees side environment) (scope : Scope) :
    Step assigns side before (before.opening side environment scope)

/-- Whether code on the two sides may bring them about, whatever it assigns to. -/
def Leads : Sides → Sides → Prop :=
  Relation.ReflTransGen fun before after => ∃ side, Step (fun _ => True) side before after

/-- Whether code on one side alone may bring them about by assignments to some names. -/
def GoesOn (assigns : String → Prop) (side : Side) : Sides → Sides → Prop :=
  Relation.ReflTransGen (Step assigns side)

/-- The scopes that a side has for itself, and the outer ones that it shares. -/
structure Splits (root : ScopeRef) (outer own : List ScopeRef) (seen : Environment) : Prop where
  /-- Its own scopes come before the others. -/
  scopes : seen.scopes = own ++ outer
  /-- The scope that was copied, or the copy, is one of its own. -/
  root : root ∈ own

/-- What stays true of the sides of a copy whose originals, or copies, bind some names. -/
structure Parted (root : Side → ScopeRef) (outer : List ScopeRef) (copied : String → Prop)
    (sides : Sides) : Prop where
  /-- All that a side sees lies inside the scope that it has for itself. -/
  splits : ∀ {side seen}, sides.sees side seen → ∃ own, Splits (root side) outer own seen
  /-- What it sees is there. -/
  formed : ∀ {side seen}, sides.sees side seen → seen.Formed sides.heap
  /-- No scope belongs to both sides. -/
  apart : ∀ {side first second own others}, sides.sees side first →
    sides.sees side.other second → first.scopes = own ++ outer → second.scopes = others ++ outer →
    ∀ ref ∈ own, ref ∉ others
  /-- Each side binds the copied names. -/
  bound : ∀ side {name}, copied name → sides.heap.bindsOwn (root side) name = true

variable {root : Side → ScopeRef} {outer : List ScopeRef} {copied assigns : String → Prop}
  {side : Side} {sides before after : Sides}

/-- A side has the innermost scope of all that it sees for itself. -/
theorem Splits.innermost {own : List ScopeRef} {top : ScopeRef} {seen : Environment}
    (splits : Splits top outer own seen) : seen.innermost ∈ own := by
  obtain ⟨scopes, member⟩ := splits
  cases own with
  | nil => cases member
  | cons first rest =>
    obtain ⟨rfl, -⟩ := List.cons.inj scopes
    exact List.mem_cons_self

namespace Parted

variable (parted : Parted root outer copied before)
include parted

/-- What a side has for itself is not seen on the other one. -/
theorem unseen {environment seen : Environment} {own : List ScopeRef}
    (here : before.sees side environment) (there : before.sees side.other seen)
    (splits : Splits (root side) outer own environment) {ref : ScopeRef} (member : ref ∈ own) :
    ref ∉ seen.scopes := by
  obtain ⟨others, elsewhere⟩ := parted.splits there
  have apart := parted.apart here there splits.scopes elsewhere.scopes ref member
  have distinct := (parted.formed here).distinct
  rw [splits.scopes, List.nodup_append] at distinct
  rw [elsewhere.scopes, List.mem_append, not_or]
  exact ⟨apart, fun shared => distinct.2.2 ref member ref shared rfl⟩

/-- A copied name is found in a scope that the side has for itself. -/
theorem mem_of_copied {environment : Environment} {own : List ScopeRef}
    (splits : Splits (root side) outer own environment) {name : String} (isCopied : copied name)
    {ref : ScopeRef} {binding : Binding}
    (found : before.heap.findBinding name environment.scopes = some (ref, binding)) :
    ref ∈ own := by
  rw [splits.scopes, Heap.findBinding_append] at found
  cases inside : before.heap.findBinding name own with
  | none =>
    have unbound := Heap.findBinding_eq_none.mp inside (root side) splits.root
    rw [parted.bound side isCopied] at unbound
    cases unbound
  | some entry =>
    rw [inside] at found
    cases found
    exact Heap.mem_of_findBinding inside

/-- What a side does without assignments to other than copied names changes no scope that the other
one sees. -/
theorem scope_eq (step : Step copied side before after) {seen : Environment}
    (there : before.sees side.other seen) :
    ∀ ref ∈ seen.scopes, after.heap.scope ref = before.heap.scope ref := by
  intro ref member
  cases step with
  | assign here isCopied written =>
    obtain ⟨own, splits⟩ := parted.splits here
    obtain ⟨changed, _, found, rfl⟩ := Heap.writeName_eq_ok written
    have mine := parted.mem_of_copied splits isCopied found
    have unseen := parted.unseen here there splits mine
    have different : ref ≠ changed := by
      rintro rfl
      exact unseen member
    exact Heap.scope_changeScope_of_ne different _
  | @bind environment here name binding =>
    obtain ⟨own, splits⟩ := parted.splits here
    have unseen := parted.unseen here there splits splits.innermost
    have different : ref ≠ environment.innermost := by
      rintro rfl
      exact unseen member
    exact Heap.scope_changeScope_of_ne different _
  | @opens environment here scope =>
    have present := (parted.formed there).present ref member
    exact Heap.scope_newScope present scope environment.scopes

/-- A change of a scope in which a name is bound parts the sides as well. -/
theorem changeScope (ref : ScopeRef) (name : String) (binding : Binding) :
    Parted root outer copied
      { before with
        heap := before.heap.changeScope ref fun scope => scope.set name binding } := by
  have size : (before.heap.changeScope ref fun scope => scope.set name binding).scopes.size =
      before.heap.scopes.size := Array.size_modify
  constructor
  case splits => exact parted.splits
  case formed =>
    intro side seen sees
    obtain ⟨present, distinct⟩ := parted.formed sees
    exact ⟨size ▸ present, distinct⟩
  case apart => exact parted.apart
  case bound =>
    intro side other isCopied
    have bound := parted.bound side isCopied
    rw [Heap.bindsOwn] at bound ⊢
    by_cases same : root side = ref
    · obtain ⟨_, found⟩ := Option.isSome_iff_exists.mp bound
      rw [← same, Heap.scope_changeScope (Heap.present_of_get? found), Scope.get?_set]
      split
      · rfl
      · exact bound
    · rw [Heap.scope_changeScope_of_ne same]
      exact bound

/-- A new scope belongs to the side on which it is opened. -/
theorem opening {environment : Environment} (here : before.sees side environment) (scope : Scope) :
    Parted root outer copied (before.opening side environment scope) := by
  let fresh : ScopeRef := ⟨before.heap.scopes.size⟩
  have new {ref : ScopeRef} (present : ref.index < before.heap.scopes.size) : ref ≠ fresh :=
    fun same => Nat.lt_irrefl _ (same ▸ present)
  have size : (before.opening side environment scope).heap.scopes.size =
      before.heap.scopes.size + 1 := Array.size_push _
  obtain ⟨around, splits⟩ := parted.splits here
  have inside : Splits (root side) outer (fresh :: around) ⟨fresh, environment.scopes⟩ :=
    ⟨congrArg (List.cons fresh) splits.scopes, List.mem_cons_of_mem _ splits.root⟩
  -- An environment that is seen already has none but scopes that are there.
  have old {other : Side} {seen : Environment} (sees : before.sees other seen)
      {own : List ScopeRef} (scopes : seen.scopes = own ++ outer) : fresh ∉ own := by
    intro member
    have listed : fresh ∈ seen.scopes := scopes ▸ List.mem_append_left _ member
    exact new ((parted.formed sees).present fresh listed) rfl
  constructor
  case splits =>
    rintro other seen (sees | ⟨rfl, rfl⟩)
    · exact parted.splits sees
    · exact ⟨_, inside⟩
  case formed =>
    rintro other seen (sees | ⟨rfl, rfl⟩)
    · obtain ⟨present, distinct⟩ := parted.formed sees
      exact ⟨fun ref member => by have := present ref member; omega, distinct⟩
    · obtain ⟨present, distinct⟩ := parted.formed here
      constructor
      case present =>
        intro ref member
        rcases List.mem_cons.mp member with rfl | member
        · exact size ▸ Nat.lt_succ_self _
        · have := present ref member
          omega
      case distinct =>
        exact List.nodup_cons.mpr ⟨fun member => new (present fresh member) rfl, distinct⟩
  case apart =>
    rintro other first second own others (sees | ⟨rfl, rfl⟩) there scopes elsewhere ref member
    · rcases there with there | ⟨same, rfl⟩
      · exact parted.apart sees there scopes elsewhere ref member
      · obtain rfl := List.append_cancel_right (inside.scopes.symm.trans elsewhere)
        subst same
        have apart := parted.apart sees here scopes splits.scopes ref member
        rw [List.mem_cons, not_or]
        exact ⟨fun same => old sees scopes (same ▸ member), apart⟩
    · obtain rfl := List.append_cancel_right (inside.scopes.symm.trans scopes)
      rcases there with there | ⟨same, rfl⟩
      · rcases List.mem_cons.mp member with rfl | member
        · exact old there elsewhere
        · exact parted.apart here there splits.scopes elsewhere ref member
      · cases other <;> cases same
  case bound =>
    intro other name isCopied
    have bound := parted.bound other isCopied
    obtain ⟨_, found⟩ := Option.isSome_iff_exists.mp bound
    rw [Heap.bindsOwn] at bound ⊢
    have same := Heap.scope_newScope (Heap.present_of_get? found) scope environment.scopes
    exact same ▸ bound

/-- Whatever code does on a side, the sides stay parted. -/
theorem step (taken : Step assigns side before after) : Parted root outer copied after := by
  cases taken with
  | assign here _ written =>
    obtain ⟨ref, _, _, rfl⟩ := Heap.writeName_eq_ok written
    exact parted.changeScope ref _ _
  | bind here name binding => exact parted.changeScope _ name binding
  | opens here scope => exact parted.opening here scope

end Parted

/-- What is seen on a side stays seen there. -/
theorem Step.sees (taken : Step assigns side before after) {other : Side} {seen : Environment}
    (sees : before.sees other seen) : after.sees other seen := by
  cases taken with
  | assign => exact sees
  | bind => exact sees
  | opens => exact .inl sees

theorem Parted.leads (parted : Parted root outer copied before) (leads : before.Leads after) :
    Parted root outer copied after := by
  induction leads with
  | refl => exact parted
  | tail _ taken ih =>
    obtain ⟨side, taken⟩ := taken
    exact ih.step taken

/-- However long a side goes on by itself, the other one reads the same. -/
theorem Parted.readName_goesOn (parted : Parted root outer copied before)
    (goesOn : before.GoesOn copied side after) {seen : Environment}
    (there : before.sees side.other seen) (name : String) :
    after.heap.readName seen name = before.heap.readName seen name := by
  have later : Parted root outer copied after ∧ after.sees side.other seen ∧
      after.heap.readName seen name = before.heap.readName seen name := by
    induction goesOn with
    | refl => exact ⟨parted, there, rfl⟩
    | tail _ taken ih =>
      obtain ⟨parted, there, same⟩ := ih
      have kept := Heap.readName_congr (parted.scope_eq taken there) name
      exact ⟨parted.step taken, taken.sees there, kept.trans same⟩
  exact later.2.2

end Sides

/-- Copying bindings one after the other into a scope replaces those of the same names. -/
theorem Heap.get?_copyBindings (scope copy : Scope) (names : List String) (name : String) :
    (names.foldl (fun copy name =>
      match scope.get? name with
      | some binding => copy.set name binding
      | none => copy) copy).get? name =
    if name ∈ names then (scope.get? name).or (copy.get? name) else copy.get? name := by
  induction names generalizing copy with
  | nil => rfl
  | cons first rest ih =>
    rw [List.foldl_cons, ih]
    by_cases same : name = first
    · subst same
      cases bound : scope.get? name with
      | none => simp
      | some binding => simp [Scope.get?_set]
    · cases bound : scope.get? first with
      | none => simp [same]
      | some binding => simp [Scope.get?_set, same]

/-- A copied binding is that of the original. -/
theorem Heap.get?_copiedBindings (scope : Scope) (names : List String) (name : String) :
    (copiedBindings scope names).get? name =
      if name ∈ names then scope.get? name else none := by
  have copied := Heap.get?_copyBindings scope {} names name
  have empty : ({} : Scope).get? name = none := rfl
  rwa [empty, Option.or_none] at copied

/-- Whether a name is one that a copy of the innermost scope of an environment gets. -/
def Heap.Copies (heap : Heap) (environment : Environment) (names : List String) (name : String) :
    Prop :=
  name ∈ names ∧ heap.bindsOwn environment.innermost name = true

/-- Whether code looks for a name in outer scopes: no scope around it before them binds it. -/
def Heap.LooksOut (heap : Heap) (outer : List ScopeRef) (seen : Environment) (name : String) :
    Prop :=
  ∃ own, seen.scopes = own ++ outer ∧ ∀ ref ∈ own, heap.bindsOwn ref name = false

namespace Sides

variable {heap : Heap} {environment : Environment} {names : List String}

/-- What the sides have for themselves once a copy has been made. -/
def roots (heap : Heap) (environment : Environment) : Side → ScopeRef
  | .original => environment.innermost
  | .copy => ⟨heap.scopes.size⟩

/-- The sides are parted when the copy is made. -/
theorem parted_ofCopy (formed : environment.Formed heap) :
    Parted (roots heap environment) environment.outer (heap.Copies environment names)
      (ofCopy heap environment names) := by
  let fresh : ScopeRef := ⟨heap.scopes.size⟩
  have size : (ofCopy heap environment names).heap.scopes.size = heap.scopes.size + 1 :=
    Array.size_push _
  have absent : fresh ∉ environment.outer := by
    intro member
    exact Nat.lt_irrefl _ (formed.present fresh (List.mem_cons_of_mem _ member))
  -- The copy is new, so that nothing around the original is the copy.
  have apart {seen : Environment} (there : seen.Formed heap) {own : List ScopeRef}
      (scopes : seen.scopes = own ++ environment.outer) : fresh ∉ own := by
    intro member
    have listed : fresh ∈ seen.scopes := scopes ▸ List.mem_append_left _ member
    exact Nat.lt_irrefl _ (there.present fresh listed)
  have alone {own : List ScopeRef}
      (scopes : [fresh] ++ environment.outer = own ++ environment.outer) : own = [fresh] :=
    (List.append_cancel_right scopes).symm
  constructor
  case splits =>
    intro side seen sees
    cases side with
    | original =>
      obtain ⟨⟨inner, scopes⟩, _⟩ := sees
      refine ⟨inner ++ [environment.innermost], ?_, List.mem_append_right _ List.mem_cons_self⟩
      rw [← scopes, List.append_assoc]
      rfl
    | copy =>
      subst sees
      exact ⟨[fresh], rfl, List.mem_cons_self⟩
  case formed =>
    intro side seen sees
    cases side with
    | original =>
      obtain ⟨_, present, distinct⟩ := sees
      exact ⟨fun ref member => by have := present ref member; omega, distinct⟩
    | copy =>
      subst sees
      have distinct := List.nodup_cons.mpr ⟨absent, (List.nodup_cons.mp formed.distinct).2⟩
      refine ⟨fun ref member => ?_, distinct⟩
      rcases List.mem_cons.mp member with rfl | member
      · exact size ▸ Nat.lt_succ_self _
      · have := formed.present ref (List.mem_cons_of_mem _ member)
        omega
  case apart =>
    intro side first second own others here there scopes elsewhere ref member other
    cases side with
    | original =>
      obtain rfl : second = ⟨fresh, environment.outer⟩ := there
      obtain rfl := alone elsewhere
      obtain rfl := List.mem_singleton.mp other
      exact apart here.2 scopes member
    | copy =>
      obtain rfl : first = ⟨fresh, environment.outer⟩ := here
      obtain rfl := alone scopes
      obtain rfl := List.mem_singleton.mp member
      exact apart there.2 elsewhere other
  case bound =>
    intro side name copied
    obtain ⟨member, bound⟩ := copied
    obtain ⟨binding, found⟩ := Option.isSome_iff_exists.mp bound
    cases side with
    | original =>
      have same := Heap.scope_newScope (Heap.present_of_get? found)
        (Heap.copiedBindings (heap.scope environment.innermost) names) environment.outer
      rw [Heap.bindsOwn] at bound ⊢
      exact same ▸ bound
    | copy =>
      have copy : (ofCopy heap environment names).heap.scope fresh =
          Heap.copiedBindings (heap.scope environment.innermost) names := by
        simp [ofCopy, Heap.copyScope, Heap.newScope, Heap.scope, fresh]
      change (((ofCopy heap environment names).heap.scope fresh).get? name).isSome = true
      rw [copy, Heap.get?_copiedBindings, if_pos member]
      exact bound

end Sides

/-- What is written in an outer scope is read by all code that looks for the name there. -/
theorem Heap.readName_of_looksOut {heap after : Heap} {outer : List ScopeRef}
    {environment seen : Environment} {name : String} {value : Value}
    (written : heap.writeName environment name value = .ok after)
    (writes : heap.LooksOut outer environment name) (reads : heap.LooksOut outer seen name) :
    after.readName seen name = .ok value := by
  obtain ⟨ref, old, found, rfl⟩ := writeName_eq_ok written
  obtain ⟨inner, scopes, unbound⟩ := writes
  obtain ⟨own, around, absent⟩ := reads
  rw [scopes, findBinding_append, findBinding_eq_none.mpr unbound, Option.none_or] at found
  have bound := get?_of_findBinding found
  have present := present_of_get? bound
  have before : heap.findBinding name seen.scopes = some (ref, ⟨some old, true⟩) := by
    rw [around, findBinding_append, findBinding_eq_none.mpr absent, Option.none_or, found]
  have now := findBinding_setVariable present before value
  rw [readName, now]

end PluginSandbox.Script
