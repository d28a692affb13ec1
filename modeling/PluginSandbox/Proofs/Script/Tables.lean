import PluginSandbox.Proofs.Script.Data
import PluginSandbox.Proofs.Script.Views

/-!
# Property tables

A table of properties lists its keys in the order in which they were added. Whatever is written to
it and deleted from it, it has no key twice, and it is what a list of keys beside a map from keys to
values would be.
-/
namespace PluginSandbox.Script

/-- A change to one own property of an object. -/
inductive Edit where
  /-- A property is written; the length is the value as a length of an array. -/
  | write (key : String) (length : Float) (value : Value)
  /-- A property is deleted. -/
  | delete (key : String)

/-- The key of the property that is changed. -/
def Edit.key : Edit → String
  | .write key _ _ => key
  | .delete key => key

/-- When a key was added to those that were there first, if it is still there: at the first write
since it was last deleted. The edits are given latest first. -/
def addedAt (first : List String) (key : String) : List Edit → Option Nat
  | [] => first.idxOf? key
  | .write other _ _ :: earlier =>
    if other = key then (addedAt first key earlier).or (some (first.length + earlier.length))
    else addedAt first key earlier
  | .delete other :: earlier => if other = key then none else addedAt first key earlier

/-- Whether a key was added before another one, when both are there. -/
def AddedBefore (first : List String) (edits : List Edit) (key other : String) : Prop :=
  ∃ time later, addedAt first key edits = some time ∧ addedAt first other edits = some later ∧
    time < later

/-- Properties that are kept in two parts, the keys in order and the values by key. -/
structure Storage where
  /-- The keys, oldest first. -/
  keys : List String
  /-- The value of each key that has one. -/
  values : String → Option Value

namespace Storage

/-- A key that has no value yet is added at the end. -/
def set (storage : Storage) (key : String) (value : Value) : Storage where
  keys := if (storage.values key).isSome then storage.keys else storage.keys ++ [key]
  values := Function.update storage.values key (some value)

/-- A key that has a value is taken out. -/
def delete (storage : Storage) (key : String) : Storage where
  keys := if (storage.values key).isSome then storage.keys.filter (· ≠ key) else storage.keys
  values := Function.update storage.values key none

/-- The storage after an edit. -/
def edit (storage : Storage) : Edit → Storage
  | .write key _ value => storage.set key value
  | .delete key => storage.delete key

/-- The storage after some edits, the latest first. -/
def after (storage : Storage) : List Edit → Storage
  | [] => storage
  | edit :: earlier => (storage.after earlier).edit edit

/-- Whether the keys are listed once each, and are exactly those that have a value. -/
structure IsCoherent (storage : Storage) : Prop where
  distinct : storage.keys.Nodup
  listed : ∀ key, key ∈ storage.keys ↔ (storage.values key).isSome

end Storage

namespace Properties

variable {properties : Properties}

theorem mem_keys_iff {key : String} : key ∈ properties.keys ↔ (properties.get? key).isSome := by
  refine ⟨isSome_get?_of_mem_keys, fun present => ?_⟩
  obtain ⟨entry, member, same⟩ := List.lookup_isSome_iff.mp present
  rw [eq_of_beq same]
  exact List.mem_map_of_mem member

/-- A key that is written again stays in its place. -/
theorem insertEntry_of_mem {key : String} {value : Value} {entries : List (String × Value)}
    (old : key ∈ entries.map (·.1)) :
    (insertEntry key value entries).map (·.1) = entries.map (·.1) := by
  induction entries with
  | nil => cases old
  | cons entry rest ih =>
    obtain ⟨other, before⟩ := entry
    rw [insertEntry]
    by_cases same : other = key
    · rw [if_pos same, same]
      rfl
    · rw [if_neg same, List.map_cons, List.map_cons]
      rcases List.mem_cons.mp old with here | later
      · exact absurd here.symm same
      · rw [ih later]

theorem keys_set (properties : Properties) (key : String) (value : Value) :
    (properties.set key value).keys =
      if (properties.get? key).isSome then properties.keys else properties.keys ++ [key] := by
  rw [keys, set]
  split
  case isTrue old => exact insertEntry_of_mem (mem_keys_iff.mpr old)
  case isFalse new =>
    have absent : key ∉ properties.entries.map (·.1) := fun old => new (mem_keys_iff.mp old)
    rw [insertEntry_of_notMem absent, List.map_append]
    rfl

theorem keys_erase (properties : Properties) (key : String) :
    (properties.erase key).keys = properties.keys.filter (· ≠ key) := by
  rw [keys, erase, keys, List.filter_map]
  rfl

theorem erase_of_notMem {key : String} (absent : key ∉ properties.keys) :
    properties.erase key = properties := by
  refine congrArg Properties.mk (List.filter_eq_self.mpr fun entry member => ?_)
  exact decide_eq_true fun same => absent (same ▸ List.mem_map_of_mem member)

theorem get?_erase (properties : Properties) (key other : String) :
    (properties.erase key).get? other = if other = key then none else properties.get? other := by
  obtain ⟨entries⟩ := properties
  change (entries.filter fun entry => entry.1 ≠ key).lookup other = _
  induction entries with
  | nil => exact (ite_self _).symm
  | cons entry rest ih =>
    obtain ⟨first, value⟩ := entry
    by_cases gone : first = key
    · rw [List.filter_cons_of_neg (by simpa using gone), ih]
      by_cases same : other = key
      · rw [if_pos same, if_pos same]
      · have apart : other ≠ first := fun equal => same (equal.trans gone)
        rw [if_neg same, if_neg same]
        change rest.lookup other = ((first, value) :: rest).lookup other
        rw [List.lookup_cons, beq_false_of_ne apart]
    · rw [List.filter_cons_of_pos (by simpa using gone), List.lookup_cons, ih]
      by_cases here : other = first
      · subst here
        simp [get?, gone]
      · change _ = if other = key then none else ((first, value) :: rest).lookup other
        rw [List.lookup_cons, beq_false_of_ne here]
        rfl

/-- The table after an edit. -/
def edit (properties : Properties) : Edit → Properties
  | .write key _ value => properties.set key value
  | .delete key => properties.erase key

/-- The table after some edits, the latest first. -/
def after (properties : Properties) : List Edit → Properties
  | [] => properties
  | edit :: earlier => (properties.after earlier).edit edit

theorem mem_keys_edit {edit : Edit} {key : String} (member : key ∈ (properties.edit edit).keys) :
    key ∈ properties.keys ∨ key = edit.key := by
  cases edit with
  | write other length value =>
    have listed : key ∈ (properties.set other value).keys := member
    rw [keys_set] at listed
    split at listed
    case isTrue => exact .inl listed
    case isFalse =>
      rcases List.mem_append.mp listed with old | new
      · exact .inl old
      · exact .inr (List.mem_singleton.mp new)
  | delete other =>
    have listed : key ∈ (properties.erase other).keys := member
    rw [keys_erase] at listed
    exact .inl (List.mem_of_mem_filter listed)

theorem nodup_edit (distinct : properties.keys.Nodup) (edit : Edit) :
    (properties.edit edit).keys.Nodup := by
  cases edit with
  | write key length value =>
    change (properties.set key value).keys.Nodup
    rw [keys_set]
    split
    case isTrue => exact distinct
    case isFalse new =>
      have absent : key ∉ properties.keys := fun old => new (mem_keys_iff.mp old)
      exact List.nodup_append.mpr ⟨distinct, List.nodup_singleton key, by
        rintro old member _ single rfl
        exact absent (List.mem_singleton.mp single ▸ member)⟩
  | delete key =>
    change (properties.erase key).keys.Nodup
    rw [keys_erase]
    exact distinct.filter _

/-- The table in two parts. -/
def stored (properties : Properties) : Storage := ⟨properties.keys, properties.get?⟩

theorem stored_edit (properties : Properties) (edit : Edit) :
    (properties.edit edit).stored = properties.stored.edit edit := by
  cases edit with
  | write key length value =>
    refine congr (congrArg Storage.mk (keys_set properties key value)) (funext fun other => ?_)
    exact (get?_set properties key other value).trans (Function.update_apply ..).symm
  | delete key =>
    refine congr (congrArg Storage.mk ?_) (funext fun other => ?_)
    · refine (keys_erase properties key).trans ?_
      change _ = if (properties.get? key).isSome then _ else _
      split
      case isTrue => rfl
      case isFalse new =>
        refine List.filter_eq_self.mpr fun other member => decide_eq_true fun same => new ?_
        exact mem_keys_iff.mp (same ▸ member)
    · exact (get?_erase properties key other).trans (Function.update_apply ..).symm

/-- A table is a storage in two parts, edit by edit. -/
theorem stored_after (properties : Properties) (edits : List Edit) :
    (properties.after edits).stored = properties.stored.after edits := by
  induction edits with
  | nil => rfl
  | cons edit earlier ih =>
    change ((properties.after earlier).edit edit).stored =
      (properties.stored.after earlier).edit edit
    rw [stored_edit, ih]

/-- A table whose keys are different is coherent. -/
theorem isCoherent_stored (distinct : properties.keys.Nodup) : properties.stored.IsCoherent :=
  ⟨distinct, fun _ => mem_keys_iff⟩

end Properties

section Order

variable {properties : Properties}

/-- The keys of a table are those that were added and not deleted since. -/
theorem mem_keys_after_iff (properties : Properties) (key : String) (edits : List Edit) :
    key ∈ (properties.after edits).keys ↔ (addedAt properties.keys key edits).isSome := by
  induction edits with
  | nil =>
    change key ∈ properties.keys ↔ (properties.keys.idxOf? key).isSome
    rw [List.isSome_idxOf?]
  | cons edit earlier ih =>
    cases edit with
    | write other length value =>
      change key ∈ ((properties.after earlier).set other value).keys ↔ _
      rw [Properties.mem_keys_iff, Properties.get?_set, addedAt]
      by_cases same : other = key
      · rw [if_pos same, if_pos same.symm]
        simp
      · rw [if_neg same, if_neg (Ne.symm same), ← Properties.mem_keys_iff, ih]
    | delete other =>
      change key ∈ ((properties.after earlier).erase other).keys ↔ _
      rw [Properties.mem_keys_iff, Properties.get?_erase, addedAt]
      by_cases same : other = key
      · rw [if_pos same, if_pos same.symm]
        rfl
      · rw [if_neg same, if_neg (Ne.symm same), ← Properties.mem_keys_iff, ih]

theorem addedAt_lt {first : List String} {key : String} {edits : List Edit} {time : Nat}
    (added : addedAt first key edits = some time) : time < first.length + edits.length := by
  induction edits with
  | nil =>
    obtain ⟨inside, _⟩ := List.idxOf?_eq_some_iff.mp added
    exact inside
  | cons edit earlier ih =>
    have before (old : addedAt first key earlier = some time) :
        time < first.length + (edit :: earlier).length := (ih old).trans (by simp)
    cases edit with
    | write other length value =>
      unfold addedAt at added
      split at added
      · rcases Option.or_eq_some_iff.mp added with old | ⟨_, now⟩
        · exact before old
        · cases now
          simp
      · exact before added
    | delete other =>
      unfold addedAt at added
      split at added
      · cases added
      · exact before added

/-- A key that is there stays as old as it is when keys are written. -/
theorem addedAt_write {first : List String} {key : String} {earlier : List Edit} {time : Nat}
    (old : addedAt first key earlier = some time) (other : String) (length : Float)
    (value : Value) : addedAt first key (.write other length value :: earlier) = some time := by
  rw [addedAt, old]
  exact ite_self _

/-- Keys are in the order in which they were added. -/
theorem pairwise_keys_after (distinct : properties.keys.Nodup) (edits : List Edit) :
    (properties.after edits).keys.Pairwise (AddedBefore properties.keys edits) := by
  induction edits with
  | nil =>
    have place (i : Nat) (inside : i < properties.keys.length) :
        properties.keys.idxOf? properties.keys[i] = some i := by
      refine List.idxOf?_eq_some_iff.mpr ⟨inside, rfl, fun j before same => ?_⟩
      exact absurd (distinct.getElem_inj_iff.mp same) (Nat.ne_of_lt before)
    exact List.pairwise_iff_getElem.mpr fun i j inside within before =>
      ⟨i, j, place i inside, place j within, before⟩
  | cons edit earlier ih =>
    cases edit with
    | write key length value =>
      have kept : (properties.after earlier).keys.Pairwise
          (AddedBefore properties.keys (.write key length value :: earlier)) :=
        ih.imp fun ⟨time, later, one, two, before⟩ =>
          ⟨time, later, addedAt_write one .., addedAt_write two .., before⟩
      change ((properties.after earlier).set key value).keys.Pairwise _
      rw [Properties.keys_set]
      split
      case isTrue => exact kept
      case isFalse new =>
        refine List.pairwise_append.mpr ⟨kept, List.pairwise_singleton _ _, ?_⟩
        intro old member last single
        cases List.mem_singleton.mp single
        rw [← Properties.mem_keys_iff, mem_keys_after_iff, Option.not_isSome_iff_eq_none] at new
        obtain ⟨time, added⟩ :=
          Option.isSome_iff_exists.mp ((mem_keys_after_iff properties old earlier).mp member)
        refine ⟨time, _, addedAt_write added .., ?_, addedAt_lt added⟩
        rw [addedAt, if_pos rfl, new]
        rfl
    | delete key =>
      change ((properties.after earlier).erase key).keys.Pairwise _
      rw [Properties.keys_erase]
      refine (ih.filter _).imp_of_mem fun {one two} oneStays twoStays before => ?_
      obtain ⟨time, later, oneAdded, twoAdded, order⟩ := before
      have apart {stays : String}
          (member : stays ∈ (properties.after earlier).keys.filter (· ≠ key)) : key ≠ stays :=
        Ne.symm (of_decide_eq_true (List.mem_filter.mp member).2)
      refine ⟨time, later, ?_, ?_, order⟩
      · rw [addedAt, if_neg (apart oneStays), oneAdded]
      · rw [addedAt, if_neg (apart twoStays), twoAdded]

end Order

end PluginSandbox.Script
