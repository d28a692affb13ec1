import PluginSandbox.Proofs.Script.ArrayLengths
import PluginSandbox.Proofs.Script.Tables

/-!
# How objects keep their own properties

The own properties of an object are in its table, in the elements of an array, or computed from the
rest of the object: the length of an array, the name of a function. A key says by itself which of
them it belongs to. Writes and deletions keep an object orderly whatever keys they are given, and a
write changes nothing but its own property and what a new length adds or cuts off.
-/
namespace PluginSandbox.Script

/-- The key of an index is the one key that addresses it. -/
theorem eq_indexKey {key : String} {index : Nat} (addresses : arrayIndex? key = some index) :
    key = indexKey index := by
  unfold arrayIndex? at addresses
  dsimp only at addresses
  split at addresses
  · cases addresses
  · rename_i digits
    split at addresses
    · cases addresses
    · rename_i shortest
      split at addresses
      · cases addresses
        rw [Bool.or_eq_true, not_or, List.isEmpty_iff] at digits
        rw [Bool.and_eq_true, decide_eq_true_eq, beq_iff_eq, not_and] at shortest
        have decimal : ∀ c ∈ key.toList, Number.isDigit c = true := by simpa using digits.2
        rw [indexKey, (Number.digitsOf_ofDigits digits.1 decimal shortest).1, String.ofList_toList]
      · cases addresses

theorem arrayIndex?_lt {key : String} {index : Nat} (addresses : arrayIndex? key = some index) :
    index < indexBound := by
  unfold arrayIndex? at addresses
  dsimp only at addresses
  split at addresses
  · cases addresses
  · split at addresses
    · cases addresses
    · split at addresses
      · rename_i within
        cases addresses
        exact within
      · cases addresses

theorem getElem?_resize (length : Nat) (elements : List Value) (index : Nat) :
    (resize length elements)[index]? =
      if index < length then some ((elements[index]?).getD .undefined) else none := by
  unfold resize
  by_cases kept : index < elements.length
  · rw [List.getElem?_eq_getElem kept]
    by_cases inside : index < length
    · have within : index < (elements.take length).length := by
        rw [List.length_take]
        omega
      rw [List.getElem?_append_left within, List.getElem?_eq_getElem within, List.getElem_take,
        if_pos inside]
      rfl
    · rw [if_neg inside, List.getElem?_eq_none_iff, List.length_append, List.length_take,
        List.length_replicate]
      omega
  · have past : (elements.take length).length ≤ index := by
      rw [List.length_take]
      omega
    rw [List.getElem?_append_right past, List.getElem?_replicate,
      List.getElem?_eq_none (Nat.le_of_not_lt kept), List.length_take]
    refine if_congr ?_ rfl rfl
    omega

namespace Object

/-- The elements of an array; other objects have none. -/
def elements : Object → List Value
  | .array elements _ => elements
  | _ => []

/-- Whether the property of a key belongs to the table of an object. -/
def tables : Object → String → Bool
  | .array .., key => key ≠ "length" && (arrayIndex? key).isNone
  | .view _, _ => false
  | _, _ => true

/-- The object after an edit; a write that fails leaves it as it is. -/
def edit (object : Object) : Edit → Object
  | .write key length value =>
    match object.setOwn key length value with
    | .ok written => written
    | .error _ => object
  | .delete key => object.deleteOwn key

/-- The object after some edits, the latest first. -/
def after (object : Object) : List Edit → Object
  | [] => object
  | edit :: earlier => (object.after earlier).edit edit

/-- Whether the table of an object has no key twice and no key of another place. -/
structure IsOrderly (object : Object) : Prop where
  distinct : object.properties.keys.Nodup
  tabled : ∀ key ∈ object.properties.keys, object.tables key = true
  short : object.elements.length ≤ indexBound

/-- An object without properties, whose elements have indices, is orderly. -/
theorem isOrderly_of_empty {object : Object} (empty : object.properties.keys = [])
    (short : object.elements.length ≤ indexBound) : object.IsOrderly where
  distinct := by
    rw [empty]
    exact List.nodup_nil
  tabled := by
    rw [empty]
    intro key member
    cases member
  short := short

/-- The object with another table. -/
def withProperties : Object → Properties → Object
  | .ordinary _, properties => .ordinary properties
  | .array elements _, properties => .array elements properties
  | .function name callable _, properties => .function name callable properties
  | .error _, properties => .error properties
  | .view shown, _ => .view shown

/-- The property that a function has when its table does not say otherwise. -/
def computed? : Object → String → Option Value
  | .function name _ _, key => if key = "name" then some (.text name) else none
  | _, _ => none

section Places

variable {object : Object} {key : String} {elements : List Value} {properties : Properties}

@[simp] theorem tables_withProperties (object : Object) (properties : Properties) (key : String) :
    (object.withProperties properties).tables key = object.tables key := by
  cases object <;> rfl

@[simp] theorem elements_withProperties (object : Object) (properties : Properties) :
    (object.withProperties properties).elements = object.elements := by
  cases object <;> rfl

@[simp] theorem computed?_withProperties (object : Object) (properties : Properties)
    (key : String) : (object.withProperties properties).computed? key = object.computed? key := by
  cases object <;> rfl

theorem properties_withProperties (tabled : object.tables key = true) (properties : Properties) :
    (object.withProperties properties).properties = properties := by
  cases object with
  | view shown => cases tabled
  | _ => rfl

theorem getOwn?_length (elements : List Value) (properties : Properties) :
    (Object.array elements properties).getOwn? "length" = some (.ofNat elements.length) := rfl

theorem ne_length_of_arrayIndex? {index : Nat} (addresses : arrayIndex? key = some index) :
    key ≠ "length" := by
  rw [eq_indexKey addresses]
  exact indexKey_ne_length (arrayIndex?_lt addresses)

theorem getOwn?_index {index : Nat} (addresses : arrayIndex? key = some index)
    (elements : List Value) (properties : Properties) :
    (Object.array elements properties).getOwn? key = elements[index]? := by
  simp only [getOwn?, if_neg (ne_length_of_arrayIndex? addresses), addresses]

/-- A key of the table is read from the table, or computed if it is not there. -/
theorem getOwn?_of_tables (tabled : object.tables key = true) :
    object.getOwn? key = (object.properties.get? key).or (object.computed? key) := by
  cases object with
  | array elements properties =>
    obtain ⟨named, other⟩ : key ≠ "length" ∧ arrayIndex? key = none := by
      simpa [tables] using tabled
    simp only [getOwn?, if_neg named, other]
    exact (Option.or_none).symm
  | function name callable properties =>
    rcases Option.eq_none_or_eq_some (properties.get? key) with missing | ⟨own, found⟩
    · simp [getOwn?, computed?, Object.properties, Properties.contains, missing]
    · simp [getOwn?, Object.properties, Properties.contains, found]
  | view shown => cases tabled
  | _ => exact (Option.or_none).symm

/-- A key of an array is the length, addresses an element or belongs to the table. -/
theorem array_places (elements : List Value) (properties : Properties) (key : String) :
    key = "length" ∨ (∃ index, arrayIndex? key = some index) ∨
      (Object.array elements properties).tables key = true := by
  by_cases named : key = "length"
  · exact .inl named
  · cases address : arrayIndex? key with
    | some index => exact .inr (.inl ⟨index, rfl⟩)
    | none => exact .inr (.inr (by simp [tables, named, address]))

end Places

/-- What a successful write does: it writes to the table, or gives an array another length, or
writes an element of an array that is made long enough. -/
inductive Writes (key : String) (length : Float) (value : Value) : Object → Object → Prop where
  /-- The key belongs to the table. -/
  | table {object : Object} (tabled : object.tables key = true) :
    Writes key length value object (object.withProperties (object.properties.set key value))
  /-- The length of an array is written. -/
  | count {elements : List Value} {properties : Properties} {count : Nat} (named : key = "length")
    (denotes : lengthOfNumber length = .ok count) :
    Writes key length value (.array elements properties) (.array (resize count elements) properties)
  /-- An element is written. -/
  | element {elements : List Value} {properties : Properties} {index : Nat}
    (addresses : arrayIndex? key = some index) :
    Writes key length value (.array elements properties)
      (.array ((resize (max elements.length (index + 1)) elements).set index value) properties)

theorem resize_self (elements : List Value) : resize elements.length elements = elements := by
  simp [resize]

theorem writes_of_setOwn {object written : Object} {key : String} {length : Float} {value : Value}
    (sets : object.setOwn key length value = .ok written) :
    Writes key length value object written := by
  cases object with
  | array elements properties =>
    simp only [setOwn, setElement] at sets
    by_cases named : key = "length"
    · rw [if_pos named] at sets
      cases denotes : lengthOfNumber length with
      | error error =>
        rw [denotes] at sets
        cases sets
      | ok count =>
        rw [denotes] at sets
        cases sets
        exact .count named denotes
    · rw [if_neg named] at sets
      cases address : arrayIndex? key with
      | none =>
        rw [address] at sets
        cases sets
        have tabled : (Object.array elements properties).tables key = true := by
          simp [tables, named, address]
        exact .table tabled
      | some index =>
        have writes : Writes key length value (.array elements properties) _ := .element address
        rw [address] at sets
        dsimp only at sets
        split at sets
        · rename_i inside
          rw [Nat.max_eq_left inside, resize_self] at writes
          cases sets
          exact writes
        · rename_i outside
          rw [Nat.max_eq_right (by omega)] at writes
          rcases checkedLength_cases (index + 1) with fails | ⟨checks, _⟩
          · rw [fails] at sets
            cases sets
          · rw [checks] at sets
            cases sets
            exact writes
  | view shown => cases sets
  | _ =>
    cases sets
    exact .table rfl

/-- Whether a key names the length of an array. -/
def IsCount (object : Object) (key : String) : Prop := object.isArray = true ∧ key = "length"

/-- What a write to an own property does to another one: nothing, or the elements that are added
are undefined and counted, or the elements that are cut off are gone. -/
inductive Leaves (object written : Object) (key other : String) : Prop where
  /-- The property is as it was. -/
  | unchanged (same : written.getOwn? other = object.getOwn? other)
  /-- The length of an array counts the element that was written past its end. -/
  | counted {index : Nat} (addresses : arrayIndex? key = some index)
    (past : object.elements.length ≤ index) (named : other = "length")
    (counts : written.getOwn? other = some (.ofNat (index + 1)))
  /-- An element between the old end of an array and its new one is added as undefined. -/
  | added {index : Nat} (addresses : arrayIndex? other = some index)
    (missing : object.getOwn? other = none) (inside : index < written.elements.length)
    (undefined : written.getOwn? other = some .undefined)
  /-- An element past the new length of an array is gone. -/
  | removed {index : Nat} (named : key = "length") (addresses : arrayIndex? other = some index)
    (outside : written.elements.length ≤ index) (gone : written.getOwn? other = none)

section Effects

variable {object written : Object} {key other : String} {length : Float} {value : Value}

/-- A property that was written has its value, and the length of an array the count that the value
denotes. -/
theorem Writes.getOwn?_key (writes : Writes key length value object written) :
    (¬object.IsCount key → written.getOwn? key = some value) ∧
      (object.IsCount key → ∃ count, lengthOfNumber length = .ok count ∧
        written.getOwn? key = some (.ofNat count)) := by
  cases writes with
  | table tabled =>
    have apart : ¬object.IsCount key := by
      rintro ⟨array, rfl⟩
      cases object with
      | array elements properties => simp [tables] at tabled
      | _ => cases array
    refine ⟨fun _ => ?_, fun named => absurd named apart⟩
    rw [getOwn?_of_tables (by simpa using tabled), properties_withProperties tabled,
      Properties.get?_set, if_pos rfl]
    rfl
  | @count elements properties count named denotes =>
    refine ⟨fun other => absurd ⟨rfl, named⟩ other, fun _ => ⟨count, denotes, ?_⟩⟩
    rw [named, getOwn?_length, length_resize]
  | @element elements properties index addresses =>
    refine ⟨fun _ => ?_, fun named => absurd named.2 (ne_length_of_arrayIndex? addresses)⟩
    rw [getOwn?_index addresses, List.getElem?_set_self]
    rw [length_resize]
    omega

/-- Another length leaves the elements up to it, adds undefined ones and cuts off the rest. -/
theorem leaves_resize {elements : List Value} {properties : Properties} (count : Nat)
    (named : key = "length") (apart : other ≠ key) :
    Leaves (.array elements properties) (.array (resize count elements) properties) key other := by
  rcases array_places elements properties other with isLength | ⟨index, addresses⟩ | tabled
  · exact absurd (isLength.trans named.symm) apart
  · have reads := getOwn?_index addresses elements properties
    have rereads := getOwn?_index addresses (resize count elements) properties
    rw [getElem?_resize] at rereads
    by_cases inside : index < count
    · rw [if_pos inside] at rereads
      cases kept : elements[index]? with
      | none =>
        rw [kept] at reads rereads
        refine .added addresses reads ?_ rereads
        change index < (resize count elements).length
        rw [length_resize]
        exact inside
      | some element =>
        rw [kept] at reads rereads
        exact .unchanged (rereads.trans reads.symm)
    · rw [if_neg inside] at rereads
      refine .removed named addresses ?_ rereads
      change (resize count elements).length ≤ index
      rw [length_resize]
      exact Nat.le_of_not_lt inside
  · refine .unchanged ?_
    rw [getOwn?_of_tables tabled, getOwn?_of_tables (by simpa [tables] using tabled)]
    rfl

/-- An element that is written leaves the others, adds undefined ones before it and is counted. -/
theorem leaves_element {elements : List Value} {properties : Properties} {index : Nat}
    (addresses : arrayIndex? key = some index) (apart : other ≠ key) (value : Value) :
    Leaves (.array elements properties)
      (.array ((resize (max elements.length (index + 1)) elements).set index value) properties)
      key other := by
  rcases array_places elements properties other with named | ⟨place, addressed⟩ | tabled
  · subst named
    have counts : (Object.array
        ((resize (max elements.length (index + 1)) elements).set index value)
        properties).getOwn? "length" = some (.ofNat (max elements.length (index + 1))) := by
      rw [getOwn?_length, List.length_set, length_resize]
    by_cases inside : index < elements.length
    · refine .unchanged (counts.trans ?_)
      rw [getOwn?_length, Nat.max_eq_left inside]
    · refine .counted addresses (Nat.le_of_not_lt inside) rfl (counts.trans ?_)
      rw [Nat.max_eq_right (by omega)]
  · have different : index ≠ place := by
      intro same
      subst same
      exact apart ((eq_indexKey addressed).trans (eq_indexKey addresses).symm)
    have reads := getOwn?_index addressed elements properties
    have rereads := getOwn?_index addressed
      ((resize (max elements.length (index + 1)) elements).set index value) properties
    rw [List.getElem?_set_ne different, getElem?_resize] at rereads
    cases kept : elements[place]? with
    | some element =>
      have inside : place < max elements.length (index + 1) :=
        Nat.lt_of_lt_of_le (List.getElem?_eq_some_iff.mp kept).1 (Nat.le_max_left _ _)
      rw [kept, if_pos inside] at rereads
      exact .unchanged (rereads.trans (reads.trans kept).symm)
    | none =>
      rw [kept] at reads rereads
      by_cases inside : place < max elements.length (index + 1)
      · rw [if_pos inside] at rereads
        refine .added addressed reads ?_ rereads
        change place < ((resize _ elements).set index value).length
        rw [List.length_set, length_resize]
        exact inside
      · rw [if_neg inside] at rereads
        exact .unchanged (rereads.trans reads.symm)
  · refine .unchanged ?_
    rw [getOwn?_of_tables tabled, getOwn?_of_tables (by simpa [tables] using tabled)]
    rfl

theorem Writes.leaves (writes : Writes key length value object written) (apart : other ≠ key) :
    Leaves object written key other := by
  cases writes with
  | table tabled =>
    refine .unchanged ?_
    by_cases tabledToo : object.tables other = true
    · rw [getOwn?_of_tables (by simpa using tabledToo), properties_withProperties tabled,
        Properties.get?_set, if_neg apart, computed?_withProperties, getOwn?_of_tables tabledToo]
    · cases object with
      | array elements properties =>
        rcases array_places elements properties other with named | ⟨place, addressed⟩ | tables
        · subst named
          rfl
        · exact (getOwn?_index addressed _ _).trans (getOwn?_index addressed _ _).symm
        · exact absurd tables tabledToo
      | view shown => cases tabled
      | _ => exact absurd rfl tabledToo
  | count named _ => exact leaves_resize _ named apart
  | element addresses => exact leaves_element addresses apart value

end Effects

section Edits

variable {object : Object} {edits : List Edit}

/-- An edit of a key of the table is an edit of the table. -/
theorem edit_of_tables {edit : Edit} (tabled : object.tables edit.key = true) :
    object.edit edit = object.withProperties (object.properties.edit edit) := by
  cases object with
  | array elements properties =>
    obtain ⟨named, other⟩ : edit.key ≠ "length" ∧ arrayIndex? edit.key = none := by
      simpa [tables] using tabled
    cases edit with
    | write key length value =>
      change key ≠ "length" at named
      change arrayIndex? key = none at other
      simp only [Object.edit, setOwn, setElement, if_neg named, other]
      rfl
    | delete key =>
      change arrayIndex? key = none at other
      simp only [Object.edit, deleteOwn, other]
      rfl
  | view shown => cases tabled
  | _ => cases edit <;> rfl

/-- An edit of another key changes the elements of an array, or nothing. -/
theorem IsOrderly.edit_of_not_tables (orderly : object.IsOrderly) {edit : Edit}
    (other : object.tables edit.key = false) :
    object.edit edit = object ∨ ∃ elements elements' properties,
      object = .array elements properties ∧ object.edit edit = .array elements' properties ∧
        elements'.length ≤ indexBound := by
  cases edit with
  | write key length value =>
    cases sets : object.setOwn key length value with
    | error error =>
      refine .inl ?_
      simp only [Object.edit, sets]
    | ok written =>
      have same : object.edit (.write key length value) = written := by
        simp only [Object.edit, sets]
      rw [same]
      cases writes_of_setOwn sets with
      | table tabled => exact Bool.noConfusion (tabled.symm.trans other)
      | count _ denotes =>
        refine .inr ⟨_, _, _, rfl, rfl, ?_⟩
        rcases lengthOfNumber_cases length with fails | ⟨count, counts, within⟩
        · cases fails.symm.trans denotes
        · cases counts.symm.trans denotes
          rw [length_resize]
          exact within.trans (by decide)
      | element addresses =>
        refine .inr ⟨_, _, _, rfl, rfl, ?_⟩
        rw [List.length_set, length_resize]
        exact Nat.max_le.mpr ⟨orderly.short, arrayIndex?_lt addresses⟩
  | delete key =>
    cases object with
    | array elements properties =>
      rcases array_places elements properties key with named | ⟨index, addresses⟩ | tabled
      · subst named
        have absent : "length" ∉ properties.keys := fun member =>
          Bool.noConfusion ((orderly.tabled _ member).symm.trans other)
        have none : arrayIndex? "length" = none := by decide
        refine .inl ?_
        simp only [Object.edit, deleteOwn, none, Properties.erase_of_notMem absent]
      · refine .inr ⟨_, elements.set index .undefined, _, rfl, ?_, ?_⟩
        · simp only [Object.edit, deleteOwn, addresses]
        · rw [List.length_set]
          exact orderly.short
      · exact Bool.noConfusion (tabled.symm.trans other)
    | view shown => exact .inl rfl
    | _ => cases other

/-- The edits that change the table of an object. -/
def reaching (object : Object) (edits : List Edit) : List Edit :=
  edits.filter fun edit => object.tables edit.key

theorem reaching_cons (object : Object) (edit : Edit) (earlier : List Edit) :
    object.reaching (edit :: earlier) =
      if object.tables edit.key then edit :: object.reaching earlier else object.reaching earlier :=
  List.filter_cons

/-- An edit keeps an object orderly and the places of its keys, and changes its table if the key
belongs there. -/
theorem IsOrderly.edit (orderly : object.IsOrderly) (edit : Edit) :
    (object.edit edit).IsOrderly ∧ (object.edit edit).tables = object.tables ∧
      (object.edit edit).properties =
        if object.tables edit.key then object.properties.edit edit else object.properties := by
  by_cases tabled : object.tables edit.key = true
  · rw [edit_of_tables tabled, if_pos tabled]
    refine ⟨⟨?_, fun key member => ?_, ?_⟩, ?_, properties_withProperties tabled _⟩
    · rw [properties_withProperties tabled]
      exact Properties.nodup_edit orderly.distinct edit
    · rw [properties_withProperties tabled] at member
      rw [tables_withProperties]
      rcases Properties.mem_keys_edit member with old | rfl
      · exact orderly.tabled key old
      · exact tabled
    · rw [elements_withProperties]
      exact orderly.short
    · exact funext (tables_withProperties object _)
  · rw [if_neg tabled]
    rcases orderly.edit_of_not_tables (Bool.eq_false_iff.mpr tabled) with same | changed
    · rw [same]
      exact ⟨orderly, rfl, rfl⟩
    · obtain ⟨elements, elements', properties, rfl, same, short⟩ := changed
      rw [same]
      exact ⟨⟨orderly.distinct, orderly.tabled, short⟩, rfl, rfl⟩

/-- Edits keep an object orderly and the places of its keys, and those of the table change it. -/
theorem IsOrderly.after (orderly : object.IsOrderly) (edits : List Edit) :
    (object.after edits).IsOrderly ∧ (object.after edits).tables = object.tables ∧
      (object.after edits).properties = object.properties.after (object.reaching edits) := by
  induction edits with
  | nil => exact ⟨orderly, rfl, rfl⟩
  | cons edit earlier ih =>
    obtain ⟨kept, places, properties⟩ := ih
    obtain ⟨still, placesStill, changed⟩ := kept.edit edit
    refine ⟨still, placesStill.trans places, changed.trans ?_⟩
    rw [places, properties, reaching_cons]
    split <;> rfl

/-- An orderly object has no own key twice. -/
theorem IsOrderly.nodup_ownKeys (orderly : object.IsOrderly) : object.ownKeys.Nodup := by
  cases object with
  | array elements properties =>
    have short : elements.length ≤ indexBound := orderly.short
    have within {index : Nat} (member : index ∈ List.range elements.length) : index < indexBound :=
      Nat.lt_of_lt_of_le (List.mem_range.mp member) short
    refine List.nodup_append.mpr ⟨?_, orderly.distinct, ?_⟩
    · refine List.Nodup.map_on (fun index one index' two same => ?_) List.nodup_range
      have addressed := arrayIndex?_indexKey (within one)
      rw [same, arrayIndex?_indexKey (within two)] at addressed
      exact (Option.some.inj addressed).symm
    · rintro key isIndex _ member rfl
      obtain ⟨index, one, rfl⟩ := List.mem_map.mp isIndex
      have tabled := orderly.tabled _ member
      simp [tables, arrayIndex?_indexKey (within one)] at tabled
  | view shown => exact List.nodup_nil
  | _ => exact orderly.distinct

/-- How an object has its own properties after some edits, the latest first. -/
structure Keeps (object : Object) (edits : List Edit) : Prop where
  /-- The table has no key twice, neither the length of an array nor an index. -/
  orderly : (object.after edits).IsOrderly
  /-- No own key is listed twice. -/
  distinct : (object.after edits).ownKeys.Nodup
  /-- The keys and the values of the table are those of a storage in two parts. -/
  stored : (object.after edits).properties.stored =
    object.properties.stored.after (object.reaching edits)
  /-- That storage lists the keys that have a value, once each. -/
  coherent : (object.properties.stored.after (object.reaching edits)).IsCoherent
  /-- The keys are those that were added and not deleted since. -/
  listed : ∀ key, key ∈ (object.after edits).properties.keys ↔
    (addedAt object.properties.keys key (object.reaching edits)).isSome
  /-- The keys are in the order in which they were added. -/
  ordered : (object.after edits).properties.keys.Pairwise
    (AddedBefore object.properties.keys (object.reaching edits))

theorem IsOrderly.keeps (orderly : object.IsOrderly) (edits : List Edit) : object.Keeps edits := by
  obtain ⟨kept, _, properties⟩ := orderly.after edits
  have stored : (object.after edits).properties.stored =
      object.properties.stored.after (object.reaching edits) := by
    rw [properties, Properties.stored_after]
  refine ⟨kept, kept.nodup_ownKeys, stored, ?_, fun key => ?_, ?_⟩
  · rw [← stored]
    exact Properties.isCoherent_stored kept.distinct
  · rw [properties]
    exact mem_keys_after_iff _ _ _
  · rw [properties]
    exact pairwise_keys_after orderly.distinct _

end Edits

end Object

/-- A write of a property fails and changes nothing, or replaces one object by itself with the
property written. -/
theorem writeProperty_cases (target : Value) (key : String) (value : Value) (state : State) :
    (∃ error, writeProperty target key value state = .failed error state) ∨
      ∃ ref written, state.heap.unwrap target = .object ref ∧
        ((state.heap.object? ref).getD default).setOwn key (state.heap.lengthNumber value) value =
          .ok written ∧
        writeProperty target key value state =
          .done () { state with heap := state.heap.replace ref written } := by
  cases writes : state.heap.written target key value with
  | error error => exact .inl ⟨error, Code.bind_of_failed (Code.tryHeap_of_error writes) _⟩
  | ok changed =>
    obtain ⟨ref, written⟩ := changed
    have write : (Code.tryHeap fun heap => heap.written target key value :
        Eval (Ref × Object)) state = .done (ref, written) state :=
      Code.tryHeap_of_ok writes
    have runs : writeProperty target key value state =
        .done () { state with heap := state.heap.replace ref written } :=
      Code.bind_of_done write _
    unfold Heap.written at writes
    cases shown : state.heap.unwrap target with
    | object place =>
      rw [shown] at writes
      cases sets : ((state.heap.object? place).getD default).setOwn key
          (state.heap.lengthNumber value) value with
      | error error =>
        simp only [sets] at writes
        cases writes
      | ok object =>
        simp only [sets] at writes
        cases writes
        exact .inr ⟨ref, written, rfl, sets, runs⟩
    | _ =>
      rw [shown] at writes
      cases writes

/-- Whatever is written and deleted, an object keeps its own properties in order.

Its table has the keys that were added and not deleted since, once each and in the order in which
they were added, just as a list of keys beside a map would have them. The length of an array and its
indices are never among them, so that no own key is listed twice. A write that succeeds gives the
property its value, or an array its length, and leaves the others, but for the elements that a new
length adds as undefined or cuts off. A write that fails changes nothing. -/
theorem edits_keep_properties {object : Object} (orderly : object.IsOrderly) (edits : List Edit) :
    object.Keeps edits ∧
    (∀ key length value written,
      (object.after edits).setOwn key length value = .ok written →
        (¬(object.after edits).IsCount key → written.getOwn? key = some value) ∧
        ((object.after edits).IsCount key → ∃ count, lengthOfNumber length = .ok count ∧
          written.getOwn? key = some (.ofNat count)) ∧
        ∀ other, other ≠ key → (object.after edits).Leaves written key other) ∧
    (∀ key length value error,
      (object.after edits).setOwn key length value = .error error →
        object.after (.write key length value :: edits) = object.after edits) ∧
    ∀ target key value state,
      (∃ error, writeProperty target key value state = .failed error state) ∨
      ∃ ref written, state.heap.unwrap target = .object ref ∧
        ((state.heap.object? ref).getD default).setOwn key (state.heap.lengthNumber value) value =
          .ok written ∧
        writeProperty target key value state =
          .done () { state with heap := state.heap.replace ref written } := by
  refine ⟨orderly.keeps edits, fun key length value written sets => ?_,
    fun key length value error fails => ?_, writeProperty_cases⟩
  · have writes := Object.writes_of_setOwn sets
    obtain ⟨own, counted⟩ := writes.getOwn?_key
    exact ⟨own, counted, fun other apart => writes.leaves apart⟩
  · simp only [Object.after, Object.edit, fails]

/-- A key that looks like an index without being one, and a key that is written again after it was
deleted, come after the elements of an array. -/
theorem edits_keep_properties_of_array :
    (Object.array [.null] {}).IsOrderly ∧
    (Object.array [.null] {}).Keeps [.write "a" Number.nan .null, .write "01" Number.nan .null,
      .delete "a", .write "2" Number.nan .null, .write "a" Number.nan .undefined] ∧
    ((Object.array [.null] {}).after [.write "a" Number.nan .null, .write "01" Number.nan .null,
      .delete "a", .write "2" Number.nan .null, .write "a" Number.nan .undefined]).ownKeys =
        ["0", "1", "2", "01", "a"] := by
  have orderly : (Object.array [.null] {}).IsOrderly :=
    Object.isOrderly_of_empty rfl (by decide)
  exact ⟨orderly, (edits_keep_properties orderly _).1, by decide +kernel⟩

end PluginSandbox.Script
