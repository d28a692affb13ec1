import Mathlib.Data.List.Forall2
import PluginSandbox.Proofs.Number.Order
import PluginSandbox.Proofs.Script.Circles
import PluginSandbox.Script.Handover

/-!
# Data and documents

A document whose numbers are integers that doubles hold, and that has no key twice, becomes a value
that is laid out like it: arrays without other properties and ordinary objects with the keys in the
order of the document. Such a value has the document that it is laid out like. Data of a script that
is not circular is laid out like a document, so it is written as one that is read back as a copy.
-/
namespace PluginSandbox.Script

/-- Whether a document has no number but integers that doubles hold, and no key twice. -/
inductive IsPlainDocument : Json → Prop where
  /-- The null value. -/
  | null : IsPlainDocument .null
  /-- A truth value. -/
  | boolean (value : Bool) : IsPlainDocument (.boolean value)
  /-- An integer. -/
  | integer {n : Int} (small : n.natAbs ≤ maximumSafeInteger) :
    IsPlainDocument (.number (.integer n))
  /-- A text. -/
  | text (value : String) : IsPlainDocument (.text value)
  /-- An array. -/
  | array {items : List Json} (plain : ∀ item ∈ items, IsPlainDocument item) :
    IsPlainDocument (.array items)
  /-- An object. -/
  | object {members : List (String × Json)} (distinct : (members.map (·.1)).Nodup)
    (plain : ∀ member ∈ members, IsPlainDocument member.2) : IsPlainDocument (.object members)

/-- An integer that doubles hold is written as it is. -/
theorem jsonNumber_ofInt {n : Int} (small : n.natAbs ≤ maximumSafeInteger) :
    jsonNumber (Number.ofInt n) = .number (.integer n) := by
  have below : n.natAbs < 2 ^ 53 := Nat.lt_of_le_of_lt small (by decide)
  obtain ⟨value, finite, whole, size, same⟩ := Number.exists_parts_ofInt below
  rw [jsonNumber, finite]
  dsimp only
  rw [whole, size, decide_eq_true small, same]
  rfl

namespace Properties

/-- A new key is added at the end. -/
theorem insertEntry_of_notMem {key : String} {value : Value} {entries : List (String × Value)}
    (new : key ∉ entries.map (·.1)) :
    insertEntry key value entries = entries ++ [(key, value)] := by
  induction entries with
  | nil => rfl
  | cons entry rest ih =>
    obtain ⟨other, old⟩ := entry
    rw [List.map_cons, List.mem_cons, not_or] at new
    have different : other ≠ key := fun same => new.1 same.symm
    rw [insertEntry, if_neg different, ih new.2]
    rfl

/-- Entries with different keys stay as they are. -/
theorem ofEntries_of_nodup {entries : List (String × Value)}
    (distinct : (entries.map (·.1)).Nodup) : ofEntries entries = ⟨entries⟩ := by
  have all (more : List (String × Value)) : ∀ table : Properties,
      ((table.entries ++ more).map (·.1)).Nodup →
        (more.foldl (fun table entry => table.set entry.1 entry.2) table).entries =
          table.entries ++ more := by
    induction more with
    | nil =>
      intro table _
      exact (List.append_nil _).symm
    | cons entry rest ih =>
      intro table distinct
      have new : entry.1 ∉ table.entries.map (·.1) := by
        rw [List.map_append, List.map_cons] at distinct
        intro old
        exact (List.nodup_append.mp distinct).2.2 _ old _ List.mem_cons_self rfl
      have set : (table.set entry.1 entry.2).entries = table.entries ++ [entry] :=
        insertEntry_of_notMem new
      have same : (table.set entry.1 entry.2).entries ++ rest = table.entries ++ entry :: rest := by
        rw [set, List.append_assoc, List.singleton_append]
      rw [List.foldl_cons, ih _ (by rw [same]; exact distinct), same]
  exact congrArg Properties.mk (all entries {} distinct)

/-- A table with different keys has each value under its key. -/
theorem get?_of_mem {properties : Properties} (distinct : properties.keys.Nodup)
    {entry : String × Value} (member : entry ∈ properties.entries) :
    properties.get? entry.1 = some entry.2 := by
  obtain ⟨entries⟩ := properties
  change (entries.map (·.1)).Nodup at distinct
  change entries.lookup entry.1 = some entry.2
  induction entries with
  | nil => cases member
  | cons first rest ih =>
    obtain ⟨new, others⟩ := List.nodup_cons.mp distinct
    rcases List.mem_cons.mp member with rfl | later
    · exact List.lookup_cons_self
    · have different : (entry.1 == first.1) = false := by
        rw [beq_eq_false_iff_ne]
        intro same
        exact new (List.mem_map.mpr ⟨entry, later, same⟩)
      rw [List.lookup_cons, different]
      exact ih later others

/-- The keys of a table with their values are its entries, if the keys are different. -/
theorem map_get? {properties : Properties} (distinct : properties.keys.Nodup) :
    properties.keys.map (fun key => (key, (properties.get? key).getD .undefined)) =
      properties.entries := by
  rw [keys, List.map_map]
  refine Eq.trans (List.map_congr_left fun entry member => ?_) (List.map_id properties.entries)
  change (entry.1, (properties.get? entry.1).getD .undefined) = entry
  rw [get?_of_mem distinct member]
  rfl

end Properties

section Lists

variable {α β γ ε : Type}

/-- Lists of one length have the same places. -/
theorem exists_getElem? {items : List α} {others : List β}
    (length : items.length = others.length) {index : Nat} {item : α}
    (here : items[index]? = some item) : ∃ other, others[index]? = some other := by
  obtain ⟨bound, _⟩ := List.getElem?_eq_some_iff.mp here
  exact ⟨_, List.getElem?_eq_getElem (length ▸ bound)⟩

theorem length_of_map_eq {f : α → γ} {g : β → γ} {items : List α}
    {others : List β} (same : items.map f = others.map g) : items.length = others.length := by
  simpa using congrArg List.length same

theorem mapM_eq_ok {f : α → Except ε β} {items : List α} {results : List β}
    (length : items.length = results.length)
    (each : ∀ {index : Nat} {item result}, items[index]? = some item →
      results[index]? = some result → f item = .ok result) : items.mapM f = .ok results := by
  induction items generalizing results with
  | nil =>
    cases results with
    | nil => rfl
    | cons result rest => cases length
  | cons item rest ih =>
    cases results with
    | nil => cases length
    | cons result others =>
      have first : f item = .ok result := @each 0 item result rfl rfl
      have later : rest.mapM f = .ok others :=
        ih (Nat.succ.inj length) fun {index} {item} {result} here there =>
          @each (index + 1) item result here there
      rw [List.mapM_cons, first, later]
      rfl

theorem exists_related {related : α → β → Prop} {items : List α}
    (each : ∀ item ∈ items, ∃ other, related item other) :
    ∃ others : List β, items.length = others.length ∧
      ∀ {index : Nat} {item other}, items[index]? = some item →
        others[index]? = some other → related item other := by
  induction items with
  | nil => exact ⟨[], rfl, by simp⟩
  | cons item rest ih =>
    obtain ⟨other, first⟩ := each item List.mem_cons_self
    obtain ⟨others, length, later⟩ :=
      ih fun next member => each next (List.mem_cons_of_mem item member)
    refine ⟨other :: others, congrArg (· + 1) length, ?_⟩
    intro index item' other' here there
    cases index with
    | zero =>
      cases here
      cases there
      exact first
    | succ index => exact later here there

end Lists

namespace Heap

variable {heap heap' : Heap} {value value' : Value} {json : Json} {ref : Ref}

/-- Whether a heap has all objects of another one. -/
def Extends (heap heap' : Heap) : Prop :=
  ∀ ref object, heap.object? ref = some object → heap'.object? ref = some object

theorem Extends.refl (heap : Heap) : heap.Extends heap := fun _ _ found => found

theorem Extends.trans {heap'' : Heap} (first : heap.Extends heap') (second : heap'.Extends heap'') :
    heap.Extends heap'' := fun ref object found => second ref object (first ref object found)

theorem extends_allocate (heap : Heap) (object : Object) :
    heap.Extends (heap.allocate object).2 := by
  intro ref old found
  obtain ⟨bound, same⟩ := Array.getElem?_eq_some_iff.mp found
  change (heap.objects.push object)[ref.index]? = some old
  rw [Array.getElem?_push_lt bound, same]

theorem object?_allocate (heap : Heap) (object : Object) :
    (heap.allocate object).2.object? (heap.allocate object).1 = some object :=
  Array.getElem?_push_size

/-- Whether a value is laid out like a document. -/
inductive Shows (heap : Heap) : Value → Json → Prop where
  /-- The null value. -/
  | null : Shows heap .null .null
  /-- A truth value. -/
  | boolean (value : Bool) : Shows heap (.boolean value) (.boolean value)
  /-- An integer. -/
  | integer {n : Int} (small : n.natAbs ≤ maximumSafeInteger) :
    Shows heap (.number (Number.ofInt n)) (.number (.integer n))
  /-- A text. -/
  | text (value : String) : Shows heap (.text value) (.text value)
  /-- An array without other properties. -/
  | array {ref : Ref} {elements : List Value} {items : List Json}
    (found : heap.object? ref = some (.array elements {}))
    (length : elements.length = items.length)
    (each : ∀ {index : Nat} {element item}, elements[index]? = some element →
      items[index]? = some item → Shows heap element item) :
    Shows heap (.object ref) (.array items)
  /-- An ordinary object with the keys in the same order. -/
  | object {ref : Ref} {entries : List (String × Value)} {members : List (String × Json)}
    (found : heap.object? ref = some (.ordinary ⟨entries⟩))
    (keys : entries.map (·.1) = members.map (·.1)) (distinct : (entries.map (·.1)).Nodup)
    (each : ∀ {index : Nat} {entry member}, entries[index]? = some entry →
      members[index]? = some member → Shows heap entry.2 member.2) :
    Shows heap (.object ref) (.object members)

/-- Whether two values on two heaps are laid out alike, with the same leaves and with the same keys
in the same order. -/
inductive Alike (heap heap' : Heap) : Value → Value → Prop where
  /-- The null value. -/
  | null : Alike heap heap' .null .null
  /-- A truth value. -/
  | boolean (value : Bool) : Alike heap heap' (.boolean value) (.boolean value)
  /-- A number. -/
  | number (value : Float) : Alike heap heap' (.number value) (.number value)
  /-- A text. -/
  | text (value : String) : Alike heap heap' (.text value) (.text value)
  /-- An array without other properties. -/
  | array {ref ref' : Ref} {elements elements' : List Value}
    (found : heap.object? ref = some (.array elements {}))
    (found' : heap'.object? ref' = some (.array elements' {}))
    (length : elements.length = elements'.length)
    (each : ∀ {index : Nat} {element element'}, elements[index]? = some element →
      elements'[index]? = some element' → Alike heap heap' element element') :
    Alike heap heap' (.object ref) (.object ref')
  /-- An ordinary object. -/
  | object {ref ref' : Ref} {entries entries' : List (String × Value)}
    (found : heap.object? ref = some (.ordinary ⟨entries⟩))
    (found' : heap'.object? ref' = some (.ordinary ⟨entries'⟩))
    (keys : entries.map (·.1) = entries'.map (·.1))
    (each : ∀ {index : Nat} {entry entry'}, entries[index]? = some entry →
      entries'[index]? = some entry' → Alike heap heap' entry.2 entry'.2) :
    Alike heap heap' (.object ref) (.object ref')

/-- Objects that are added change nothing about a value. -/
theorem Shows.mono (shows : heap.Shows value json) (more : heap.Extends heap') :
    heap'.Shows value json := by
  induction shows with
  | null => exact .null
  | boolean value => exact .boolean value
  | integer small => exact .integer small
  | text value => exact .text value
  | array found length _ ih => exact .array (more _ _ found) length ih
  | object found keys distinct _ ih => exact .object (more _ _ found) keys distinct ih

/-- What is laid out like a document is laid out like a plain one. -/
theorem Shows.isPlainDocument (shows : heap.Shows value json) : IsPlainDocument json := by
  induction shows with
  | null => exact .null
  | boolean value => exact .boolean value
  | integer small => exact .integer small
  | text value => exact .text value
  | array _ length _ ih =>
    refine .array fun item member => ?_
    obtain ⟨index, here⟩ := List.mem_iff_getElem?.mp member
    obtain ⟨element, there⟩ := exists_getElem? length.symm here
    exact ih there here
  | object _ keys distinct _ ih =>
    refine .object (keys ▸ distinct) fun member present => ?_
    obtain ⟨index, here⟩ := List.mem_iff_getElem?.mp present
    obtain ⟨entry, there⟩ := exists_getElem? (length_of_map_eq keys).symm here
    exact ih there here

/-- Values that are laid out like one document are laid out alike. -/
theorem Shows.alike (shows : heap.Shows value json) (shows' : heap'.Shows value' json) :
    heap.Alike heap' value value' := by
  induction shows generalizing value' with
  | null => cases shows' with | null => exact .null
  | boolean value => cases shows' with | boolean => exact .boolean value
  | integer small => cases shows' with | integer => exact .number _
  | text value => cases shows' with | text => exact .text value
  | array found length _ ih =>
    cases shows' with
    | array found' length' each' =>
      refine .array found found' (length.trans length'.symm) fun here here' => ?_
      obtain ⟨item, there⟩ := exists_getElem? length here
      exact ih here there (each' here' there)
  | object found keys distinct _ ih =>
    cases shows' with
    | object found' keys' distinct' each' =>
      refine .object found found' (keys.trans keys'.symm) fun here here' => ?_
      obtain ⟨member, there⟩ := exists_getElem? (length_of_map_eq keys) here
      exact ih here there (each' here' there)

/-- A value that is laid out like a document is no token view. -/
theorem Shows.unwrap_eq (shows : heap.Shows value json) : heap.unwrap value = value := by
  have bare : heap.Layered value [] value := by
    refine .plain fun view found => ?_
    cases shows with
    | array found' _ _ => cases found'.symm.trans found
    | object found' _ _ _ => cases found'.symm.trans found
    | _ => cases found
  exact bare.unwrap_eq

section Parts

variable {elements : List Value} {properties : Properties}

theorem parts_of_array {others : Properties}
    (found : heap.object? ref = some (.array elements others)) : heap.parts ref = elements := by
  simp [parts, found]

/-- The keys of an ordinary object with what it has under them are its entries. -/
theorem ownEntries_of_ordinary (found : heap.object? ref = some (.ordinary properties))
    (distinct : properties.keys.Nodup) : heap.ownEntries (.object ref) = properties.entries := by
  have bare : heap.Layered (.object ref) [] (.object ref) :=
    .plain fun view found' => by cases found.symm.trans found'
  have keys : heap.ownKeys (.object ref) = properties.keys := by
    unfold ownKeys
    rw [bare.unwrap_eq]
    dsimp only
    rw [found]
    rfl
  have own (key : String) : heap.getOwn? (.object ref) key = properties.get? key := by
    unfold getOwn?
    rw [bare.layers_eq]
    change (heap.object? ref).bind (fun object => object.getOwn? key) = _
    rw [found]
    rfl
  rw [ownEntries, keys, ← Properties.map_get? distinct]
  apply List.map_congr_left
  intro key _
  rw [own]

theorem parts_of_ordinary (found : heap.object? ref = some (.ordinary properties))
    (distinct : properties.keys.Nodup) :
    heap.parts ref = properties.entries.map (·.2) := by
  rw [← ownEntries_of_ordinary found distinct]
  simp [parts, found]

end Parts

/-- What is laid out like a document does not contain itself. -/
theorem Shows.not_isCircular (shows : heap.Shows value json) : ¬heap.IsCircular value := by
  have unwraps := shows.unwrap_eq
  induction shows with
  | array found length each ih =>
    apply not_isCircular_of_parts unwraps
    rw [parts_of_array found]
    intro element member
    obtain ⟨index, here⟩ := List.mem_iff_getElem?.mp member
    obtain ⟨item, there⟩ := exists_getElem? length here
    exact ih here there (each here there).unwrap_eq
  | object found keys distinct each ih =>
    apply not_isCircular_of_parts unwraps
    rw [parts_of_ordinary found distinct]
    intro part member
    obtain ⟨entry, present, rfl⟩ := List.mem_map.mp member
    obtain ⟨index, here⟩ := List.mem_iff_getElem?.mp present
    obtain ⟨member, there⟩ := exists_getElem? (length_of_map_eq keys) here
    exact ih here there (each here there).unwrap_eq
  | _ =>
    rintro ⟨start, _, shown, _⟩
    cases unwraps.symm.trans shown

section Results

variable {convert : Value → Except RuntimeError (Option Json)}

theorem jsonMembers_eq_ok {entries : List (String × Value)} {members : List (String × Json)}
    (keys : entries.map (·.1) = members.map (·.1))
    (each : ∀ {index : Nat} {entry member}, entries[index]? = some entry →
      members[index]? = some member → convert entry.2 = .ok (some member.2)) :
    jsonMembers convert entries = .ok members := by
  induction entries generalizing members with
  | nil =>
    cases members with
    | nil => rfl
    | cons member rest => cases keys
  | cons entry rest ih =>
    cases members with
    | nil => cases keys
    | cons member others =>
      obtain ⟨key, part⟩ := entry
      obtain ⟨key', json⟩ := member
      obtain ⟨same, more⟩ := List.cons.inj keys
      obtain rfl : key = key' := same
      have first : convert part = .ok (some json) := @each 0 (key, part) (key, json) rfl rfl
      have later : jsonMembers convert rest = .ok others :=
        ih more fun {index} {entry} {member} here there =>
          @each (index + 1) entry member here there
      rw [jsonMembers, first, later]
      rfl

end Results

/-- A value that is laid out like a document has this document. -/
theorem Shows.jsonOf_eq (shows : heap.Shows value json) : heap.jsonOf value = .ok (some json) := by
  have sound := shows.not_isCircular
  have unwraps := shows.unwrap_eq
  induction shows with
  | null => rw [jsonOf, jsonWithin, unwraps]
  | boolean value => rw [jsonOf, jsonWithin, unwraps]
  | integer small =>
    rw [jsonOf, jsonWithin, unwraps]
    dsimp only
    rw [jsonNumber_ofInt small]
  | text value => rw [jsonOf, jsonWithin, unwraps]
  | @array ref elements items found length each ih =>
    have converts : elements.mapM (fun element => do
        return (← heap.jsonOf element).getD .null) = .ok items := by
      apply mapM_eq_ok length
      intro index element item here there
      have inner := each here there
      rw [ih here there inner.not_isCircular inner.unwrap_eq]
      rfl
    rw [jsonOf_object unwraps sound, jsonObject, found]
    dsimp only
    rw [converts]
    rfl
  | @object ref entries members found keys distinct each ih =>
    have converts : jsonMembers heap.jsonOf entries = .ok members := by
      apply jsonMembers_eq_ok keys
      intro index entry member here there
      have inner := each here there
      exact ih here there inner.not_isCircular inner.unwrap_eq
    rw [jsonOf_object unwraps sound, jsonObject, found]
    dsimp only
    rw [ownEntries_of_ordinary found distinct, converts]
    rfl

/-- Whether the items of documents have been created, so that the values are laid out like them. -/
theorem shows_ofJsonItems {items : List Json}
    (each : ∀ item ∈ items, ∀ heap : Heap, heap.Extends (heap.ofJson item).2 ∧
      (heap.ofJson item).2.Shows (heap.ofJson item).1 item) (heap : Heap) :
    heap.Extends (heap.ofJsonItems items).2 ∧
      (heap.ofJsonItems items).1.length = items.length ∧
      ∀ {index : Nat} {element item}, (heap.ofJsonItems items).1[index]? = some element →
        items[index]? = some item → (heap.ofJsonItems items).2.Shows element item := by
  induction items generalizing heap with
  | nil => exact ⟨.refl heap, rfl, by simp⟩
  | cons item rest ih =>
    obtain ⟨more, shows⟩ := each item List.mem_cons_self heap
    obtain ⟨more', length, others⟩ :=
      ih (fun other member => each other (List.mem_cons_of_mem item member)) (heap.ofJson item).2
    refine ⟨more.trans more', congrArg (· + 1) length, ?_⟩
    intro index element other here there
    cases index with
    | zero =>
      cases here
      cases there
      exact shows.mono more'
    | succ index => exact others here there

theorem shows_ofJsonMembers {members : List (String × Json)}
    (each : ∀ member ∈ members, ∀ heap : Heap, heap.Extends (heap.ofJson member.2).2 ∧
      (heap.ofJson member.2).2.Shows (heap.ofJson member.2).1 member.2) (heap : Heap) :
    heap.Extends (heap.ofJsonMembers members).2 ∧
      (heap.ofJsonMembers members).1.map (·.1) = members.map (·.1) ∧
      ∀ {index : Nat} {entry member}, (heap.ofJsonMembers members).1[index]? = some entry →
        members[index]? = some member →
          (heap.ofJsonMembers members).2.Shows entry.2 member.2 := by
  induction members generalizing heap with
  | nil => exact ⟨.refl heap, rfl, by simp⟩
  | cons member rest ih =>
    obtain ⟨more, shows⟩ := each member List.mem_cons_self heap
    obtain ⟨more', keys, others⟩ :=
      ih (fun other here => each other (List.mem_cons_of_mem member here)) (heap.ofJson member.2).2
    refine ⟨more.trans more', congrArg (member.1 :: ·) keys, ?_⟩
    intro index entry other here there
    cases index with
    | zero =>
      cases here
      cases there
      exact shows.mono more'
    | succ index => exact others here there

/-- The value that is created for a plain document is laid out like it, and nothing else changes. -/
theorem shows_ofJson (plain : IsPlainDocument json) (heap : Heap) :
    heap.Extends (heap.ofJson json).2 ∧ (heap.ofJson json).2.Shows (heap.ofJson json).1 json := by
  induction plain generalizing heap with
  | null => exact ⟨.refl heap, .null⟩
  | boolean value => exact ⟨.refl heap, .boolean value⟩
  | integer small => exact ⟨.refl heap, .integer small⟩
  | text value => exact ⟨.refl heap, .text value⟩
  | @array items _ ih =>
    obtain ⟨more, length, each⟩ := shows_ofJsonItems ih heap
    rw [ofJson]
    have added := (heap.ofJsonItems items).2.extends_allocate
      (.array (heap.ofJsonItems items).1 {})
    refine ⟨more.trans added, .array (object?_allocate _ _) length fun here there => ?_⟩
    exact (each here there).mono added
  | @object members distinct _ ih =>
    obtain ⟨more, keys, each⟩ := shows_ofJsonMembers ih heap
    have different : ((heap.ofJsonMembers members).1.map (·.1)).Nodup := keys ▸ distinct
    have made : heap.ofJson (.object members) =
        (heap.ofJsonMembers members).2.allocateValue
          (.ordinary ⟨(heap.ofJsonMembers members).1⟩) := by
      rw [ofJson, ← Properties.ofEntries_of_nodup different]
      rfl
    have added := (heap.ofJsonMembers members).2.extends_allocate
      (.ordinary ⟨(heap.ofJsonMembers members).1⟩)
    rw [made]
    refine ⟨more.trans added, .object (object?_allocate _ _) keys different fun here there => ?_⟩
    exact (each here there).mono added

/-- Whether a value is data by itself: no undefined value, no function, error or token view, no
number but an integer that doubles hold, and no array with other properties. -/
def IsPlainValue (heap : Heap) : Value → Prop
  | .undefined => False
  | .null | .boolean _ | .text _ => True
  | .number x => ∃ n : Int, n.natAbs ≤ maximumSafeInteger ∧ x = Number.ofInt n
  | .object ref => (∃ elements, heap.object? ref = some (.array elements {})) ∨
    ∃ properties, heap.object? ref = some (.ordinary properties) ∧ properties.keys.Nodup

/-- Whether a value shows another one, directly or inside other objects. -/
inductive Reaches (heap : Heap) : Value → Value → Prop where
  /-- The value itself. -/
  | here {value : Value} : Reaches heap value value
  /-- What a part of its object shows. -/
  | inside {value part inner : Value} {ref : Ref} (shown : heap.unwrap value = .object ref)
    (member : part ∈ heap.parts ref) (reaches : Reaches heap part inner) : Reaches heap value inner

/-- Whether a value is made of data. -/
def IsData (heap : Heap) (value : Value) : Prop :=
  ∀ part, heap.Reaches value part → heap.IsPlainValue part

theorem IsData.part {part : Value} (data : heap.IsData value)
    (shown : heap.unwrap value = .object ref) (member : part ∈ heap.parts ref) :
    heap.IsData part :=
  fun inner reaches => data inner (.inside shown member reaches)

/-- The parts of a value that is laid out like a document are laid out like documents. -/
theorem Shows.part {part : Value} (shows : heap.Shows value json)
    (shown : heap.unwrap value = .object ref) (member : part ∈ heap.parts ref) :
    ∃ json, heap.Shows part json := by
  have same : value = .object ref := shows.unwrap_eq.symm.trans shown
  cases shows with
  | array found length each =>
    cases same
    rw [parts_of_array found] at member
    obtain ⟨index, here⟩ := List.mem_iff_getElem?.mp member
    obtain ⟨item, there⟩ := exists_getElem? length here
    exact ⟨item, each here there⟩
  | object found keys distinct each =>
    cases same
    rw [parts_of_ordinary found distinct] at member
    obtain ⟨entry, present, rfl⟩ := List.mem_map.mp member
    obtain ⟨index, here⟩ := List.mem_iff_getElem?.mp present
    obtain ⟨member, there⟩ := exists_getElem? (length_of_map_eq keys) here
    exact ⟨member.2, each here there⟩
  | _ => cases same

/-- What is laid out like a document is data. -/
theorem Shows.isData (shows : heap.Shows value json) : heap.IsData value := by
  intro part reaches
  induction reaches generalizing json with
  | here =>
    cases shows with
    | integer small => exact ⟨_, small, rfl⟩
    | array found _ _ => exact .inl ⟨_, found⟩
    | object found _ distinct _ => exact .inr ⟨_, found, distinct⟩
    | _ => trivial
  | inside shown member _ ih =>
    obtain ⟨json, inner⟩ := shows.part shown member
    exact ih inner

/-- Data that has a document is laid out like it. -/
theorem exists_shows {bound : Nat} {inside : List Ref} {json? : Option Json}
    (data : heap.IsData value) (converts : heap.jsonWithin bound inside value = .ok json?) :
    ∃ json, heap.Shows value json := by
  induction bound generalizing inside value json? with
  | zero => cases converts
  | succ bound ih =>
    have plain : heap.IsPlainValue value := data value .here
    cases value with
    | undefined => exact plain.elim
    | null => exact ⟨_, .null⟩
    | boolean value => exact ⟨_, .boolean value⟩
    | text value => exact ⟨_, .text value⟩
    | number x =>
      obtain ⟨n, small, rfl⟩ := plain
      exact ⟨_, .integer small⟩
    | object ref =>
      have bare : heap.Layered (.object ref) [] (.object ref) := by
        refine .plain fun view found => ?_
        rcases plain with ⟨elements, found'⟩ | ⟨properties, found', _⟩
        · cases found'.symm.trans found
        · cases found'.symm.trans found
      have parts : ∀ part ∈ heap.parts ref, ∃ json, heap.Shows part json := by
        rw [jsonWithin_object bare.unwrap_eq] at converts
        split at converts
        · cases converts
        · intro part member
          obtain ⟨json, inner⟩ := exists_of_jsonObject_ok converts part member
          exact ih (data.part bare.unwrap_eq member) inner
      rcases plain with ⟨elements, found⟩ | ⟨⟨entries⟩, found, distinct⟩
      · rw [parts_of_array found] at parts
        obtain ⟨items, length, each⟩ := exists_related parts
        exact ⟨.array items, .array found length each⟩
      · rw [parts_of_ordinary found distinct] at parts
        obtain ⟨jsons, length, each⟩ := exists_related parts
        have keys : entries.map (·.1) = ((entries.map (·.1)).zip jsons).map (·.1) := by
          refine (List.map_fst_zip ?_).symm
          rw [List.length_map, ← length, List.length_map]
        refine ⟨_, .object found keys distinct ?_⟩
        intro index entry member here there
        have value := (List.getElem?_zip_eq_some.mp there).2
        refine each ?_ value
        rw [List.getElem?_map, here]
        rfl

end Heap

/-- Documents and data survive each other.

A document without a key twice, and with no number but integers of at most `2 ^ 53 - 1`, becomes a
value whose document it is, with the keys in the same order. And data that is not circular has a
document, from which a copy is created: a value that is laid out alike, with the same leaves and
with the keys in the same order, while everything that was on the heap stays. -/
theorem data_survives_documents :
    (∀ (heap : Heap) (json : Json), IsPlainDocument json →
      (heap.ofJson json).2.jsonOf (heap.ofJson json).1 = .ok (some json)) ∧
    ∀ (heap : Heap) (value : Value), heap.IsData value → ¬heap.IsCircular value →
      ∃ json, heap.jsonOf value = .ok (some json) ∧
        ∀ others : Heap, others.Extends (others.ofJson json).2 ∧
          heap.Alike (others.ofJson json).2 value (others.ofJson json).1 := by
  refine ⟨fun heap json plain => (Heap.shows_ofJson plain heap).2.jsonOf_eq, ?_⟩
  intro heap value data sound
  rcases heap.jsonOf_cases value with ⟨_, circular⟩ | ⟨⟨json?, converts⟩, _⟩
  · exact absurd circular sound
  · obtain ⟨json, shows⟩ := Heap.exists_shows data converts
    refine ⟨json, shows.jsonOf_eq, fun others => ?_⟩
    obtain ⟨more, copy⟩ := Heap.shows_ofJson shows.isPlainDocument others
    exact ⟨more, shows.alike copy⟩

/-- An array that holds one object twice. -/
def sharingHeap : Heap :=
  { objects := #[.array [.object ⟨1⟩, .object ⟨1⟩] {},
    .ordinary ⟨[("b", .number (Number.ofInt (-3))), ("a", .null)]⟩] }

/-- The object is written and copied in both places. -/
theorem data_survives_documents_sharing :
    sharingHeap.IsData (.object ⟨0⟩) ∧ ¬sharingHeap.IsCircular (.object ⟨0⟩) ∧
      ∃ json, sharingHeap.jsonOf (.object ⟨0⟩) = .ok (some json) ∧
        sharingHeap.Alike (sharingHeap.ofJson json).2 (.object ⟨0⟩)
          (sharingHeap.ofJson json).1 := by
  have inner : sharingHeap.Shows (.object ⟨1⟩)
      (.object [("b", .number (.integer (-3))), ("a", .null)]) := by
    have found : sharingHeap.object? ⟨1⟩ =
        some (.ordinary ⟨[("b", .number (Number.ofInt (-3))), ("a", .null)]⟩) := rfl
    refine .object found rfl (by decide) fun {index} {entry} {member} here there => ?_
    match index with
    | 0 =>
      cases here
      cases there
      exact .integer (by decide)
    | 1 =>
      cases here
      cases there
      exact .null
    | _ + 2 => cases here
  have outer : sharingHeap.Shows (.object ⟨0⟩)
      (.array (List.replicate 2 (.object [("b", .number (.integer (-3))), ("a", .null)]))) := by
    have found : sharingHeap.object? ⟨0⟩ = some (.array (List.replicate 2 (.object ⟨1⟩)) {}) := rfl
    refine .array found rfl fun {index} {element} {item} here there => ?_
    have first := List.eq_of_mem_replicate (List.mem_of_getElem? here)
    have second := List.eq_of_mem_replicate (List.mem_of_getElem? there)
    rw [first, second]
    exact inner
  obtain ⟨json, writes, copies⟩ :=
    data_survives_documents.2 sharingHeap (.object ⟨0⟩) outer.isData outer.not_isCircular
  exact ⟨outer.isData, outer.not_isCircular, json, writes, (copies sharingHeap).2⟩

end PluginSandbox.Script
