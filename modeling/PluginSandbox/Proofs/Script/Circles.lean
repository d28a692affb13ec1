import Mathlib.Logic.Relation
import PluginSandbox.Proofs.Script.Layers
import PluginSandbox.Proofs.Script.Runs
import PluginSandbox.Script.Library.Documents

/-!
# Documents of circular values

The document of a value shows the elements of arrays and the own properties of other objects,
through token views and not into functions. It is made by following all paths from the value, and
refused as soon as a path comes back to an object that is on it. So a value is refused exactly if an
object that it shows contains itself. Objects on a path are different ones, which bounds its length;
and as the path makes no other difference, a value that is shown twice has the same document in both
places.
-/
namespace PluginSandbox.Script

section Lists

variable {ε α β : Type}

theorem mapM_congr_of_mem {f g : α → Except ε β} {items : List α}
    (same : ∀ item ∈ items, f item = g item) : items.mapM f = items.mapM g := by
  induction items with
  | nil => rfl
  | cons item rest ih =>
    rw [List.mapM_cons, List.mapM_cons, same item List.mem_cons_self,
      ih fun other member => same other (List.mem_cons_of_mem item member)]

theorem mapM_cases (f : α → Except ε β) (items : List α) :
    (∃ error, items.mapM f = .error error ∧ ∃ item ∈ items, f item = .error error) ∨
      (∃ results, items.mapM f = .ok results) ∧ ∀ item ∈ items, ∃ result, f item = .ok result := by
  induction items with
  | nil => exact .inr ⟨⟨[], rfl⟩, by simp⟩
  | cons item rest ih =>
    rw [List.mapM_cons]
    cases first : f item with
    | error error => exact .inl ⟨error, rfl, item, List.mem_cons_self, first⟩
    | ok result =>
      rcases ih with ⟨error, fails, other, member, why⟩ | ⟨⟨results, maps⟩, all⟩
      · exact .inl ⟨error, by rw [fails]; rfl, other, List.mem_cons_of_mem item member, why⟩
      · refine .inr ⟨⟨result :: results, by rw [maps]; rfl⟩, ?_⟩
        intro other member
        rcases List.mem_cons.mp member with rfl | later
        · exact ⟨result, first⟩
        · exact all other later

end Lists

namespace Heap

open Relation (ReflTransGen TransGen)

/-- The values that the document of an object shows: the elements of an array, the own properties of
another object and nothing of a function. -/
def parts (heap : Heap) (ref : Ref) : List Value :=
  match heap.object? ref with
  | some (.function ..) => []
  | some (.array elements _) => elements
  | _ => (heap.ownEntries (.object ref)).map (·.2)

/-- Whether an object shows another one, maybe through token views. -/
def Contains (heap : Heap) (outer inner : Ref) : Prop :=
  ∃ part ∈ heap.parts outer, heap.unwrap part = .object inner

/-- Whether a value shows an object that contains itself. -/
def IsCircular (heap : Heap) (value : Value) : Prop :=
  ∃ start circle, heap.unwrap value = .object start ∧
    ReflTransGen heap.Contains start circle ∧ TransGen heap.Contains circle circle

/-- The document of an object, when its parts are converted in some way. -/
def jsonObject (heap : Heap) (convert : Value → Except RuntimeError (Option Json)) (ref : Ref) :
    Except RuntimeError (Option Json) :=
  match heap.object? ref with
  | some (.function ..) => .ok none
  | some (.array elements _) => do
    let items ← elements.mapM fun element => do
      return (← convert element).getD .null
    return some (.array items)
  | _ => do
    return some (.object (← jsonMembers convert (heap.ownEntries (.object ref))))

variable {heap : Heap} {value : Value} {bound : Nat} {inside : List Ref} {ref : Ref}

/-- An object is converted unless it is on the path already. -/
theorem jsonWithin_object (shown : heap.unwrap value = .object ref) :
    heap.jsonWithin (bound + 1) inside value =
      if inside.contains ref then .error circularStructure
      else heap.jsonObject (heap.jsonWithin bound (ref :: inside)) ref := by
  rw [jsonWithin, shown]
  rfl

/-- What is no object has a document at once. -/
theorem exists_jsonWithin_of_plain (plain : ∀ ref, heap.unwrap value ≠ .object ref) :
    ∃ json?, ∀ bound inside, heap.jsonWithin (bound + 1) inside value = .ok json? := by
  cases shown : heap.unwrap value with
  | object ref => exact absurd shown (plain ref)
  | undefined => exact ⟨none, fun bound inside => by rw [jsonWithin, shown]⟩
  | null => exact ⟨some .null, fun bound inside => by rw [jsonWithin, shown]⟩
  | boolean value => exact ⟨some (.boolean value), fun bound inside => by rw [jsonWithin, shown]⟩
  | number value => exact ⟨some (jsonNumber value), fun bound inside => by rw [jsonWithin, shown]⟩
  | text value => exact ⟨some (.text value), fun bound inside => by rw [jsonWithin, shown]⟩

section Parts

variable {convert convert' : Value → Except RuntimeError (Option Json)}

theorem jsonMembers_congr {entries : List (String × Value)}
    (same : ∀ part ∈ entries.map (·.2), convert part = convert' part) :
    jsonMembers convert entries = jsonMembers convert' entries := by
  induction entries with
  | nil => rfl
  | cons entry rest ih =>
    obtain ⟨key, part⟩ := entry
    rw [jsonMembers, jsonMembers, same part List.mem_cons_self,
      ih fun other member => same other (List.mem_cons_of_mem part member)]

/-- The document of an object depends on those of its parts alone. -/
theorem jsonObject_congr (same : ∀ part ∈ heap.parts ref, convert part = convert' part) :
    heap.jsonObject convert ref = heap.jsonObject convert' ref := by
  unfold jsonObject
  unfold parts at same
  split
  · rfl
  · rename_i elements properties found
    rw [found] at same
    rw [mapM_congr_of_mem fun element member => by rw [same element member]]
  · rename_i function array
    split at same
    · exact absurd ‹_› (function _ _ _)
    · exact absurd ‹_› (array _ _)
    · rw [jsonMembers_congr same]

theorem jsonMembers_cases (convert : Value → Except RuntimeError (Option Json))
    (entries : List (String × Value)) :
    (∃ error, jsonMembers convert entries = .error error ∧
      ∃ part ∈ entries.map (·.2), convert part = .error error) ∨
    (∃ members, jsonMembers convert entries = .ok members) ∧
      ∀ part ∈ entries.map (·.2), ∃ json?, convert part = .ok json? := by
  induction entries with
  | nil => exact .inr ⟨⟨[], rfl⟩, by simp⟩
  | cons entry rest ih =>
    obtain ⟨key, part⟩ := entry
    rw [jsonMembers]
    cases first : convert part with
    | error error => exact .inl ⟨error, rfl, part, List.mem_cons_self, first⟩
    | ok json? =>
      rcases ih with ⟨error, fails, other, member, why⟩ | ⟨⟨members, maps⟩, all⟩
      · exact .inl ⟨error, by rw [fails]; rfl, other, List.mem_cons_of_mem part member, why⟩
      · refine .inr ⟨⟨_, by rw [maps]; rfl⟩, ?_⟩
        intro other member
        rcases List.mem_cons.mp member with rfl | later
        · exact ⟨json?, first⟩
        · exact all other later

/-- The document of an object is refused for one of its parts, or all of them have one. -/
theorem jsonObject_cases (heap : Heap) (convert : Value → Except RuntimeError (Option Json))
    (ref : Ref) :
    (∃ error, heap.jsonObject convert ref = .error error ∧
      ∃ part ∈ heap.parts ref, convert part = .error error) ∨
    (∃ json?, heap.jsonObject convert ref = .ok json?) ∧
      ∀ part ∈ heap.parts ref, ∃ json?, convert part = .ok json? := by
  unfold jsonObject parts
  split
  · exact .inr ⟨⟨none, rfl⟩, by simp⟩
  · rename_i elements properties found
    rcases mapM_cases (fun element => do return (← convert element).getD .null) elements with
      ⟨error, fails, part, member, why⟩ | ⟨⟨items, maps⟩, all⟩
    · refine .inl ⟨error, by rw [fails]; rfl, part, member, ?_⟩
      cases converts : convert part with
      | error other => rw [converts] at why; cases why; rfl
      | ok json? => rw [converts] at why; cases why
    · refine .inr ⟨⟨_, by rw [maps]; rfl⟩, fun part member => ?_⟩
      obtain ⟨item, makes⟩ := all part member
      cases converts : convert part with
      | error error => rw [converts] at makes; cases makes
      | ok json? => exact ⟨json?, rfl⟩
  · rcases jsonMembers_cases convert (heap.ownEntries (.object ref)) with
      ⟨error, fails, why⟩ | ⟨⟨members, converts⟩, all⟩
    · exact .inl ⟨error, by rw [fails]; rfl, why⟩
    · exact .inr ⟨⟨_, by rw [converts]; rfl⟩, all⟩

/-- The parts of an object that has a document have one. -/
theorem exists_of_jsonObject_ok {json? : Option Json}
    (converts : heap.jsonObject convert ref = .ok json?) :
    ∀ part ∈ heap.parts ref, ∃ json?, convert part = .ok json? := by
  rcases heap.jsonObject_cases convert ref with ⟨error, fails, _⟩ | ⟨_, all⟩
  · rw [fails] at converts
    cases converts
  · exact all

end Parts

/-- A reference to an object that has parts is one to an object of the heap. -/
theorem index_lt_of_mem_parts {part : Value} (member : part ∈ heap.parts ref) :
    ref.index < heap.objects.size := by
  by_contra beyond
  have missing : heap.object? ref = none := Array.getElem?_eq_none (Nat.le_of_not_lt beyond)
  have same : heap.unwrap (.object ref) = .object ref := by
    unfold unwrap layers
    cases heap.objects.size with
    | zero => rfl
    | succ size => simp [layersWithin, missing]
  simp [parts, missing, ownEntries, ownKeys, same] at member

/-- A value that shows a circular one is circular. -/
theorem IsCircular.of_part {part : Value} (shown : heap.unwrap value = .object ref)
    (member : part ∈ heap.parts ref) (circular : heap.IsCircular part) : heap.IsCircular value := by
  obtain ⟨start, circle, starts, reaches, returns⟩ := circular
  exact ⟨ref, circle, shown, .head ⟨part, member, starts⟩ reaches, returns⟩

/-- A value that shows no circular one is not circular. -/
theorem not_isCircular_of_parts (shown : heap.unwrap value = .object ref)
    (sound : ∀ part ∈ heap.parts ref, ¬heap.IsCircular part) : ¬heap.IsCircular value := by
  rintro ⟨start, circle, starts, reaches, returns⟩
  obtain rfl : ref = start := Value.object.inj (shown.symm.trans starts)
  rcases ReflTransGen.cases_head reaches with rfl | ⟨inner, ⟨part, member, found⟩, goesOn⟩
  · obtain ⟨inner, ⟨part, member, found⟩, goesOn⟩ := TransGen.head'_iff.mp returns
    exact sound part member ⟨inner, ref, found, goesOn, returns⟩
  · exact sound part member ⟨inner, circle, found, goesOn, returns⟩

/-- Whether different objects of the heap are on a path to a value. -/
structure IsPath (heap : Heap) (inside : List Ref) (value : Value) : Prop where
  /-- No object is met twice. -/
  distinct : inside.Nodup
  /-- They are objects of the heap. -/
  within : ∀ ref ∈ inside, ref.index < heap.objects.size
  /-- The path leads to the object that the value refers to. -/
  leads : ∀ ref, heap.unwrap value = .object ref →
    ∀ outer ∈ inside, TransGen heap.Contains outer ref

/-- A path goes on to the parts of an object that it has not met. -/
theorem IsPath.part {part : Value} (path : heap.IsPath inside value)
    (shown : heap.unwrap value = .object ref) (new : ref ∉ inside)
    (member : part ∈ heap.parts ref) : heap.IsPath (ref :: inside) part where
  distinct := List.nodup_cons.mpr ⟨new, path.distinct⟩
  within := List.forall_mem_cons.mpr ⟨index_lt_of_mem_parts member, path.within⟩
  leads inner found := by
    have step : heap.Contains ref inner := ⟨part, member, found⟩
    refine List.forall_mem_cons.mpr ⟨.single step, fun outer earlier => ?_⟩
    exact .tail (path.leads ref shown outer earlier) step

/-- What is refused is circular, if the bound exceeds what is left of the heap. -/
theorem isCircular_of_jsonWithin_error {error : RuntimeError} (path : heap.IsPath inside value)
    (enough : heap.objects.size < bound + inside.length)
    (fails : heap.jsonWithin bound inside value = .error error) :
    error = circularStructure ∧ heap.IsCircular value := by
  induction bound generalizing inside value with
  | zero =>
    have most := Ref.length_le_of_nodup path.distinct path.within
    omega
  | succ bound ih =>
    by_cases isObject : ∃ ref, heap.unwrap value = .object ref
    · obtain ⟨ref, shown⟩ := isObject
      rw [jsonWithin_object shown] at fails
      by_cases here : ref ∈ inside
      · rw [if_pos (List.contains_iff_mem.mpr here)] at fails
        exact ⟨(Except.error.inj fails).symm, ref, ref, shown, .refl, path.leads ref shown ref here⟩
      · rw [if_neg fun found => here (List.contains_iff_mem.mp found)] at fails
        rcases heap.jsonObject_cases (heap.jsonWithin bound (ref :: inside)) ref with
          ⟨other, fails', part, member, why⟩ | ⟨⟨json?, converts⟩, _⟩
        · rw [fails'] at fails
          obtain rfl := Except.error.inj fails
          have longer : heap.objects.size < bound + (ref :: inside).length := by
            rw [List.length_cons]
            omega
          obtain ⟨same, circular⟩ := ih (path.part shown here member) longer why
          exact ⟨same, circular.of_part shown member⟩
        · rw [converts] at fails
          cases fails
    · obtain ⟨json?, converts⟩ := exists_jsonWithin_of_plain fun ref shown => isObject ⟨ref, shown⟩
      rw [converts] at fails
      cases fails

/-- Objects of a value that has a document are not on the path, and do not contain themselves. -/
theorem notMem_of_jsonWithin_ok {json? : Option Json} {circle : Ref}
    (converts : heap.jsonWithin bound inside value = .ok json?)
    (shown : heap.unwrap value = .object ref) (reaches : ReflTransGen heap.Contains ref circle) :
    circle ∉ inside ∧ ¬TransGen heap.Contains circle circle := by
  induction bound generalizing inside value json? ref with
  | zero => cases converts
  | succ bound ih =>
    rw [jsonWithin_object shown] at converts
    by_cases here : ref ∈ inside
    · rw [if_pos (List.contains_iff_mem.mpr here)] at converts
      cases converts
    · rw [if_neg fun found => here (List.contains_iff_mem.mp found)] at converts
      have deeper {inner : Ref} (step : heap.Contains ref inner)
          (goesOn : ReflTransGen heap.Contains inner circle) :
          circle ∉ ref :: inside ∧ ¬TransGen heap.Contains circle circle := by
        obtain ⟨part, member, found⟩ := step
        obtain ⟨json?, converts⟩ := exists_of_jsonObject_ok converts part member
        exact ih converts found goesOn
      rcases ReflTransGen.cases_head reaches with rfl | ⟨inner, step, goesOn⟩
      · refine ⟨here, fun returns => ?_⟩
        obtain ⟨inner, step, goesOn⟩ := TransGen.head'_iff.mp returns
        exact (deeper step goesOn).1 List.mem_cons_self
      · obtain ⟨new, noCircle⟩ := deeper step goesOn
        exact ⟨fun member => new (List.mem_cons_of_mem ref member), noCircle⟩

/-- What has a document is not circular. -/
theorem not_isCircular_of_jsonWithin_ok {json? : Option Json}
    (converts : heap.jsonWithin bound inside value = .ok json?) : ¬heap.IsCircular value := by
  rintro ⟨start, circle, shown, reaches, returns⟩
  exact (notMem_of_jsonWithin_ok converts shown reaches).2 returns

/-- The document of a value does not depend on where the value is shown. -/
theorem jsonWithin_unique {bound' : Nat} {inside' : List Ref} {json? json?' : Option Json}
    (converts : heap.jsonWithin bound inside value = .ok json?)
    (converts' : heap.jsonWithin bound' inside' value = .ok json?') : json?' = json? := by
  induction bound generalizing inside value json? bound' inside' json?' with
  | zero => cases converts
  | succ bound ih =>
    cases bound' with
    | zero => cases converts'
    | succ bound' =>
      by_cases isObject : ∃ ref, heap.unwrap value = .object ref
      · obtain ⟨ref, shown⟩ := isObject
        rw [jsonWithin_object shown] at converts converts'
        split at converts
        · cases converts
        · split at converts'
          · cases converts'
          · have same : ∀ part ∈ heap.parts ref, heap.jsonWithin bound (ref :: inside) part =
                heap.jsonWithin bound' (ref :: inside') part := by
              intro part member
              obtain ⟨json, first⟩ := exists_of_jsonObject_ok converts part member
              obtain ⟨json', second⟩ := exists_of_jsonObject_ok converts' part member
              rw [first, second, ih first second]
            rw [jsonObject_congr same, converts'] at converts
            exact Except.ok.inj converts
      · obtain ⟨json, same⟩ := exists_jsonWithin_of_plain fun ref shown => isObject ⟨ref, shown⟩
        rw [same] at converts converts'
        exact (Except.ok.inj converts').symm.trans (Except.ok.inj converts)

theorem isPath_nil (heap : Heap) (value : Value) : heap.IsPath [] value :=
  ⟨.nil, by simp, by simp⟩

/-- Within a bound that exceeds the count of objects, exactly what is circular is refused. -/
theorem jsonWithin_cases (enough : heap.objects.size < bound) (value : Value) :
    (heap.jsonWithin bound [] value = .error circularStructure ∧ heap.IsCircular value) ∨
      (∃ json?, heap.jsonWithin bound [] value = .ok json?) ∧ ¬heap.IsCircular value := by
  cases converts : heap.jsonWithin bound [] value with
  | error error =>
    obtain ⟨rfl, circular⟩ :=
      isCircular_of_jsonWithin_error (heap.isPath_nil value) (by simpa using enough) converts
    exact .inl ⟨rfl, circular⟩
  | ok json? => exact .inr ⟨⟨json?, rfl⟩, not_isCircular_of_jsonWithin_ok converts⟩

/-- Exactly what is circular is refused. -/
theorem jsonOf_cases (heap : Heap) (value : Value) :
    (heap.jsonOf value = .error circularStructure ∧ heap.IsCircular value) ∨
      (∃ json?, heap.jsonOf value = .ok json?) ∧ ¬heap.IsCircular value :=
  jsonWithin_cases (Nat.lt_succ_self heap.objects.size) value

/-- The bound is no matter, as long as it exceeds the count of objects. -/
theorem jsonWithin_eq_jsonOf (enough : heap.objects.size < bound) (value : Value) :
    heap.jsonWithin bound [] value = heap.jsonOf value := by
  rcases jsonWithin_cases enough value with ⟨fails, circular⟩ | ⟨⟨json?, converts⟩, sound⟩
  · rcases heap.jsonOf_cases value with ⟨fails', _⟩ | ⟨_, sound⟩
    · rw [fails, fails']
    · exact absurd circular sound
  · rcases heap.jsonOf_cases value with ⟨_, circular⟩ | ⟨⟨json?', converts'⟩, _⟩
    · exact absurd circular sound
    · rw [converts, converts', jsonWithin_unique converts converts']

/-- The document of an object is made of the documents that its parts have by themselves. -/
theorem jsonOf_object (shown : heap.unwrap value = .object ref) (sound : ¬heap.IsCircular value) :
    heap.jsonOf value = heap.jsonObject heap.jsonOf ref := by
  rcases heap.jsonOf_cases value with ⟨_, circular⟩ | ⟨⟨json?, converts⟩, _⟩
  · exact absurd circular sound
  · have makes : heap.jsonObject (heap.jsonWithin heap.objects.size [ref]) ref = .ok json? := by
      rw [← converts, jsonOf, jsonWithin_object shown]
      simp
    have same : ∀ part ∈ heap.parts ref,
        heap.jsonWithin heap.objects.size [ref] part = heap.jsonOf part := by
      intro part member
      obtain ⟨json, inner⟩ := exists_of_jsonObject_ok makes part member
      rcases heap.jsonOf_cases part with ⟨_, circular⟩ | ⟨⟨json', alone⟩, _⟩
      · exact absurd (circular.of_part shown member) sound
      · rw [inner, alone, jsonWithin_unique inner alone]
    rw [← jsonObject_congr same, makes, converts]

end Heap

namespace Library

/-- Writing a value as a document, on any heap.

It is refused, for being circular, exactly if an array or another object that is no function, and
that the value shows, contains itself: through elements of arrays and own properties of other
objects, behind token views, but not through functions. Any other value has a document, whatever it
shows more than once, since each part of an object has the document there that it has by itself. The
bound on the nesting is never met, and nothing changes. -/
theorem documents_refuse_circles (state : State) (value : Value) :
    let heap := state.heap
    (heap.IsCircular value → heap.jsonOf value = .error circularStructure ∧
      ∀ others, runJson .stringify (value :: others) state =
        .failed circularStructure state) ∧
    (¬heap.IsCircular value → (∃ json?, heap.jsonOf value = .ok json?) ∧
      (∀ ref, heap.unwrap value = .object ref →
        heap.jsonOf value = heap.jsonObject heap.jsonOf ref) ∧
      ∀ others, ∃ result, runJson .stringify (value :: others) state = .done result state) ∧
    ∀ bound, heap.objects.size < bound → heap.jsonWithin bound [] value = heap.jsonOf value := by
  intro heap
  refine ⟨fun circular => ?_, fun sound => ?_, fun bound enough =>
    Heap.jsonWithin_eq_jsonOf enough value⟩
  · rcases heap.jsonOf_cases value with ⟨fails, _⟩ | ⟨_, sound⟩
    · exact ⟨fails, fun others => Code.bind_of_failed (Code.tryHeap_of_error fails) _⟩
    · exact absurd circular sound
  · rcases heap.jsonOf_cases value with ⟨_, circular⟩ | ⟨⟨json?, converts⟩, _⟩
    · exact absurd circular sound
    · refine ⟨⟨json?, converts⟩, fun ref shown => Heap.jsonOf_object shown sound, fun others => ?_⟩
      have runs (next : Option Json → Eval Value) :
          ((Code.tryHeap fun heap => heap.jsonOf value : Eval (Option Json)) >>= next) state =
            next json? state :=
        Code.bind_of_done (Code.tryHeap_of_ok converts) next
      cases json? with
      | none => exact ⟨_, runs _⟩
      | some json => exact ⟨_, runs _⟩

/-- An array that holds another one twice is not circular, one that holds itself is. -/
example :
    let heap : Heap := { objects := #[.array [.object ⟨1⟩, .object ⟨1⟩] {}, .array [] {},
      .array [.object ⟨2⟩] {}] }
    heap.jsonOf (.object ⟨0⟩) = .ok (some (.array [.array [], .array []])) ∧
      heap.jsonOf (.object ⟨2⟩) = .error circularStructure :=
  ⟨rfl, rfl⟩

end Library

end PluginSandbox.Script
