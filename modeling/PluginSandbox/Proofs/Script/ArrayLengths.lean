import PluginSandbox.Proofs.Script.Runs
import PluginSandbox.Script.Evaluation

/-!
# How long arrays get

Arrays have a greatest length. Writes of elements and of the length, array literals, `push` and the
constructor with a length check it and fail without a change; functions that keep or shorten arrays
stay within it. Functions that put several arrays, arguments or characters together do not check.
-/
namespace PluginSandbox.Script

/-- Whether an array has no more elements than it may have. -/
def Object.IsDense : Object → Prop
  | .array elements _ => elements.length ≤ maximumLength
  | _ => True

/-- Whether no array has more elements than it may have. -/
def Heap.IsDense (heap : Heap) : Prop := ∀ object ∈ heap.objects, object.IsDense

/-- Whether an error refuses a length, or a value for its kind. -/
def RuntimeError.IsRefusal (error : RuntimeError) : Prop :=
  error = invalidLength ∨ ∃ message, error = .type message

theorem checkedLength_cases (length : Nat) :
    checkedLength length = .error invalidLength ∨
      checkedLength length = .ok length ∧ length ≤ maximumLength := by
  unfold checkedLength
  split
  case isTrue within => exact .inr ⟨rfl, within⟩
  case isFalse => exact .inl rfl

theorem lengthOfNumber_cases (number : Float) :
    lengthOfNumber number = .error invalidLength ∨
      ∃ length, lengthOfNumber number = .ok length ∧ length ≤ maximumLength := by
  unfold lengthOfNumber
  split
  case h_1 value _ =>
    split
    · rcases checkedLength_cases value.wholePart with fails | ⟨checks, within⟩
      · exact .inl fails
      · exact .inr ⟨_, checks, within⟩
    · exact .inl rfl
  case h_2 => exact .inl rfl

theorem length_resize (length : Nat) (elements : List Value) :
    (resize length elements).length = length := by
  simp only [resize, List.length_append, List.length_take, List.length_replicate]
  omega

namespace Object

/-- A write to an array fails for its length alone, or leaves an array that is not too long. -/
theorem setElement_cases {elements : List Value} (dense : elements.length ≤ maximumLength)
    (properties : Properties) (key : String) (length : Float) (value : Value) :
    setElement elements properties key length value = .error invalidLength ∨
      ∃ object, setElement elements properties key length value = .ok object ∧
        object.IsDense := by
  unfold setElement
  split
  · rcases lengthOfNumber_cases length with fails | ⟨count, reads, within⟩
    · rw [fails]
      exact .inl rfl
    · rw [reads]
      refine .inr ⟨_, rfl, ?_⟩
      change (resize count elements).length ≤ maximumLength
      rw [length_resize]
      exact within
  · split
    case h_1 index _ =>
      split
      · refine .inr ⟨_, rfl, ?_⟩
        change (elements.set index value).length ≤ maximumLength
        rw [List.length_set]
        exact dense
      · rcases checkedLength_cases (index + 1) with fails | ⟨checks, within⟩
        · rw [fails]
          exact .inl rfl
        · rw [checks]
          refine .inr ⟨_, rfl, ?_⟩
          change ((resize (index + 1) elements).set index value).length ≤ maximumLength
          rw [List.length_set, length_resize]
          exact within
    case h_2 => exact .inr ⟨_, rfl, dense⟩

/-- A write of a property fails for a length or for the kind of the object, or leaves an object that
is not too long. -/
theorem IsDense.setOwn_cases {object : Object} (dense : object.IsDense) (key : String)
    (length : Float) (value : Value) :
    (∃ error, object.setOwn key length value = .error error ∧ error.IsRefusal) ∨
      ∃ written, object.setOwn key length value = .ok written ∧ written.IsDense := by
  cases object with
  | array elements properties =>
    rcases setElement_cases dense properties key length value with fails | written
    · exact .inl ⟨invalidLength, fails, .inl rfl⟩
    · exact .inr written
  | view shown => exact .inl ⟨_, rfl, .inr ⟨_, rfl⟩⟩
  | _ => exact .inr ⟨_, rfl, trivial⟩

end Object

namespace Heap

variable {heap : Heap}

theorem IsDense.object (dense : heap.IsDense) {ref : Ref} {object : Object}
    (found : heap.object? ref = some object) : object.IsDense :=
  dense object (Array.mem_of_getElem? found)

theorem IsDense.allocate (dense : heap.IsDense) {object : Object} (new : object.IsDense) :
    (heap.allocate object).2.IsDense := by
  intro other member
  rcases Array.mem_push.mp member with old | rfl
  · exact dense other old
  · exact new

theorem IsDense.replace (dense : heap.IsDense) (ref : Ref) {object : Object}
    (new : object.IsDense) : (heap.replace ref object).IsDense := by
  intro other member
  rcases Array.mem_or_eq_of_mem_setIfInBounds member with old | rfl
  · exact dense other old
  · exact new

/-- The elements that a function works on are not too many. -/
theorem IsDense.elementsOf (dense : heap.IsDense) {value : Value} {elements : List Value}
    (reads : heap.elementsOf? value = some elements) : elements.length ≤ maximumLength := by
  unfold elementsOf? at reads
  split at reads
  case h_1 found =>
    cases reads
    cases value with
    | object ref => exact dense.object found
    | _ => cases found
  case h_2 => cases reads

/-- A write is refused, or its object is not too long. -/
theorem IsDense.written_cases (dense : heap.IsDense) (target value : Value) (key : String) :
    (∃ error, heap.written target key value = .error error ∧ error.IsRefusal) ∨
      ∃ ref object, heap.written target key value = .ok (ref, object) ∧ object.IsDense := by
  unfold Heap.written
  split
  case h_1 place _ =>
    have present : ((heap.object? place).getD default).IsDense := by
      cases found : heap.object? place with
      | none => trivial
      | some object => exact dense.object found
    dsimp only
    rcases present.setOwn_cases key (heap.lengthNumber value) value with
      ⟨error, fails, refuses⟩ | ⟨object, sets, within⟩
    · rw [fails]
      exact .inl ⟨error, rfl, refuses⟩
    · rw [sets]
      exact .inr ⟨place, object, rfl, within⟩
  all_goals exact .inl ⟨_, rfl, .inr ⟨_, rfl⟩⟩

theorem IsDense.replaceElements (dense : heap.IsDense) (this : Value) {elements : List Value}
    (within : elements.length ≤ maximumLength) :
    (Library.replaceElements heap this elements).IsDense := by
  unfold Library.replaceElements
  split
  · split
    · exact dense.replace _ within
    · exact dense
  · exact dense

end Heap

/-- Whether a run ends at once: with a result and without an array that is too long, or with a
refusal and without a change. -/
def EndsDense {α : Type} (before : State) : Run RuntimeError α → Prop
  | .done _ after => after.heap.IsDense
  | .failed error after => error.IsRefusal ∧ after = before
  | _ => False

/-- Whether code keeps arrays within their greatest length, or fails and changes nothing. -/
def Checked {α : Type} (code : Eval α) : Prop :=
  ∀ before : State, before.heap.IsDense → EndsDense before (code before)

/-- A write of a property, of an element or of a length keeps arrays within their greatest
length. -/
theorem checked_writeProperty (target : Value) (key : String) (value : Value) :
    Checked (writeProperty target key value) := by
  intro before dense
  unfold writeProperty
  rcases dense.written_cases target value key with
    ⟨error, fails, refuses⟩ | ⟨ref, object, writes, within⟩
  · rw [Code.bind_of_failed (Code.tryHeap_of_error fails)]
    exact ⟨refuses, rfl⟩
  · rw [Code.bind_of_done (Code.tryHeap_of_ok writes)]
    exact dense.replace ref within

theorem EndsDense.createArray {before state : State} (dense : state.heap.IsDense)
    {elements : List Value} (within : elements.length ≤ maximumLength) :
    EndsDense before (Code.createArray elements state) :=
  dense.allocate within

namespace Library

/-- A function on arrays finds the elements of its receiver or refuses it. -/
theorem receiverElements_cases (this : Value) (function : String) (state : State) :
    receiverElements this function state = .failed (notAnArray function) state ∨
      ∃ elements, state.heap.elementsOf? (state.heap.unwrap this) = some elements ∧
        receiverElements this function state = .done elements state := by
  unfold receiverElements
  cases reads : state.heap.elementsOf? (state.heap.unwrap this) with
  | none =>
    left
    apply Code.tryHeap_of_error
    rw [reads]
  | some elements =>
    refine .inr ⟨elements, rfl, ?_⟩
    apply Code.tryHeap_of_ok
    rw [reads]

/-- Replaced elements are those of the receiver from then on. -/
theorem setElements_bind {α : Type} {this : Value} {function : String} {state : State}
    {old : List Value} (receives : receiverElements this function state = .done old state)
    (elements : List Value) (next : Unit → Eval α) :
    (setElements this function elements >>= next) state =
      next () { state with heap := replaceElements state.heap this elements } := by
  apply Code.bind_of_done
  rw [setElements, Code.bind_of_done receives]
  rfl

/-- A function on arrays is checked if it is so for all elements that its receiver may have. -/
theorem endsDense_receiver {α : Type} {this : Value} {function : String} {before : State}
    (dense : before.heap.IsDense) {next : List Value → Eval α}
    (goesOn : ∀ elements, elements.length ≤ maximumLength →
      receiverElements this function before = .done elements before →
        EndsDense before (next elements before)) :
    EndsDense before ((receiverElements this function >>= next) before) := by
  rcases receiverElements_cases this function before with fails | ⟨elements, reads, receives⟩
  · rw [Code.bind_of_failed fails]
    exact ⟨.inr ⟨_, rfl⟩, rfl⟩
  · rw [Code.bind_of_done receives]
    exact goesOn elements (dense.elementsOf reads) receives

/-- A function that gives its receiver no more elements than it had is checked. -/
theorem checked_shortening {α : Type} {this : Value} {function : String}
    {make : List Value → List Value}
    (shorter : ∀ elements, (make elements).length ≤ elements.length) (value : List Value → α) :
    Checked (do
      let elements ← receiverElements this function
      setElements this function (make elements)
      return value elements) := by
  intro before dense
  apply endsDense_receiver dense
  intro elements within receives
  rw [setElements_bind receives]
  exact dense.replaceElements this (Nat.le_trans (shorter elements) within)

section Functions

variable (self : Interpreter) (realm : RealmRef) (this : Value) (arguments : List Value)

/-- New elements at the end are counted before they are added. -/
theorem checked_push : Checked (runArray self realm .push this arguments) := by
  intro before dense
  apply endsDense_receiver dense
  intro elements _ receives
  rcases checkedLength_cases (elements.length + arguments.length) with fails | ⟨checks, within⟩
  · rw [fails]
    exact ⟨.inl rfl, rfl⟩
  · rw [checks]
    change EndsDense before ((setElements this "push" (elements ++ arguments) >>= _) before)
    rw [setElements_bind receives]
    apply dense.replaceElements this
    rw [List.length_append]
    exact within

/-- A part of an array is no longer than the array. -/
theorem checked_slice : Checked (runArray self realm .slice this arguments) := by
  intro before dense
  apply endsDense_receiver dense
  intro elements most _
  apply EndsDense.createArray dense
  apply Nat.le_trans _ most
  rw [between, List.length_drop, List.length_take]
  omega

/-- An array of a given length is created if arrays may have it. -/
theorem checked_construct (length : Float) :
    Checked (runArray self realm .construct this [.number length]) := by
  intro before dense
  change EndsDense before ((Code.ofExcept (lengthOfNumber length) >>= fun length =>
    Code.createArray (List.replicate length .undefined)) before)
  rcases lengthOfNumber_cases length with fails | ⟨count, reads, within⟩
  · rw [fails]
    exact ⟨.inl rfl, rfl⟩
  · rw [reads]
    apply EndsDense.createArray dense
    rw [List.length_replicate]
    exact within

/-- Arrays are concatenated if arrays may have as many elements as they have together. -/
theorem concatenate_cases (heap : Heap) (values : List Value)
    (arrays : ∀ value ∈ values, (heap.elementsOf? (heap.unwrap value)).isSome) :
    ∀ elements : List Value, elements.length ≤ maximumLength →
      concatenate heap elements values = .error invalidLength ∨
        ∃ all, concatenate heap elements values = .ok all ∧ all.length ≤ maximumLength := by
  induction values with
  | nil =>
    intro elements within
    exact .inr ⟨elements, rfl, within⟩
  | cons value rest ih =>
    intro elements within
    obtain ⟨more, reads⟩ := Option.isSome_iff_exists.mp (arrays value List.mem_cons_self)
    rw [concatenate, reads]
    dsimp only
    rcases checkedLength_cases (elements.length + more.length) with fails | ⟨checks, short⟩
    · rw [fails]
      exact .inl rfl
    · rw [checks]
      apply ih fun other member => arrays other (List.mem_cons_of_mem value member)
      rw [List.length_append]
      exact short

/-- The concatenation of arrays is checked. -/
theorem endsDense_concat {before : State} (dense : before.heap.IsDense)
    (arrays : ∀ value ∈ arguments, (before.heap.elementsOf? (before.heap.unwrap value)).isSome) :
    EndsDense before (runArray self realm .concat this arguments before) := by
  apply endsDense_receiver dense
  intro elements most _
  rcases concatenate_cases before.heap arguments arrays elements most with
    fails | ⟨all, joins, within⟩
  · rw [Code.bind_of_failed (Code.tryHeap_of_error fails)]
    exact ⟨.inl rfl, rfl⟩
  · rw [Code.bind_of_done (Code.tryHeap_of_ok joins)]
    exact EndsDense.createArray dense within

/-- Calling back gives as many results as there are elements. -/
theorem length_of_comesTo_mapM {α β : Type} {others : State → State → Prop} {f : α → Eval β}
    (items : List α) :
    ∀ {before after : State} {values : List β},
      ((items.mapM f) before).ComesTo others (.ok values) after → values.length = items.length := by
  induction items with
  | nil =>
    intro before after values comes
    rw [List.mapM_nil] at comes
    cases comes.1
    rfl
  | cons item rest ih =>
    intro before after values comes
    rw [List.mapM_cons, Code.comesTo_bind] at comes
    rcases comes with ⟨value, middle, _, goesOn⟩ | ⟨_, never, _⟩
    · rcases Code.comesTo_bind.mp goesOn with ⟨more, last, maps, ends⟩ | ⟨_, never, _⟩
      · cases ends.1
        rw [List.length_cons, List.length_cons, ih maps]
      · cases never
    · cases never

/-- An array that is mapped becomes one of the same length. -/
theorem comesTo_map {others : State → State → Prop} {before after : State} {value : Value}
    (comes : (runArray self realm .map this arguments before).ComesTo others (.ok value) after) :
    ∃ elements results middle, receiverElements this "map" before = .done elements before ∧
      results.length = elements.length ∧
      (Code.createArray results : Eval Value) middle = .done value after := by
  rcases Code.comesTo_bind.mp comes with ⟨results, middle, maps, creates⟩ | ⟨_, never, _⟩
  · rcases Code.comesTo_bind.mp maps with ⟨⟨places, callback⟩, ready, sets, calls⟩ | ⟨_, never, _⟩
    · rcases receiverElements_cases this "map" before with fails | ⟨elements, _, receives⟩
      · rw [callbackSetting, Code.bind_of_failed fails] at sets
        cases sets.1
      · rw [callbackSetting, Code.bind_of_done receives] at sets
        rcases Code.comesTo_bind.mp sets with ⟨_, _, _, same⟩ | ⟨_, never, _⟩
        · cases same.1
          have length := length_of_comesTo_mapM _ calls
          rw [List.length_zipIdx] at length
          obtain ⟨rfl, rfl⟩ : value = _ ∧ after = _ := ⟨by cases creates.1; rfl, creates.2⟩
          exact ⟨elements, results, middle, receives, length, rfl⟩
        · cases never
    · cases never
  · cases never

end Functions

end Library

open Evaluation Library
open Syntax (Element)

/-- An array literal comes to an array of as many elements as it may have, or its elements fail, or
they are too many and nothing is created. -/
theorem comesTo_array {self : Interpreter} {context : Context} {elements : List Element}
    {others : State → State → Prop} {outcome : Except RuntimeError Value} {before after : State}
    (comes : (evaluate self context (.array elements) before).ComesTo others outcome after) :
    (∃ error, outcome = .error error ∧
      (evaluateItems self context elements before).ComesTo others (.error error) after) ∨
    ∃ values middle,
      (evaluateItems self context elements before).ComesTo others (.ok values) middle ∧
      (outcome = .error invalidLength ∧ after = middle ∨
        values.length ≤ maximumLength ∧ Code.createArray values middle = .ended outcome after) := by
  rcases Code.comesTo_bind.mp comes with ⟨values, middle, evaluates, goesOn⟩ | ⟨error, same, fails⟩
  · refine .inr ⟨values, middle, evaluates, ?_⟩
    rcases checkedLength_cases values.length with fails | ⟨checks, within⟩
    · rw [fails] at goesOn
      exact .inl goesOn
    · rw [checks] at goesOn
      obtain ⟨rfl, rfl⟩ := goesOn
      exact .inr ⟨within, rfl⟩
  · exact .inl ⟨error, same, fails⟩

/-- Writes of elements and lengths, array literals, the constructor with a length, `push`, the
functions that shorten or rearrange an array, and the concatenation of arrays keep arrays within
their greatest length or are refused without a change; mapping keeps the length. -/
theorem array_lengths_checked (self : Interpreter) (realm : RealmRef) (this : Value)
    (arguments : List Value) :
    (∀ target key value, Checked (writeProperty target key value)) ∧
    (∀ length, Checked (runArray self realm .construct this [.number length])) ∧
    (Checked (runArray self realm .push this arguments) ∧
      Checked (runArray self realm .pop this arguments) ∧
      Checked (runArray self realm .shift this arguments) ∧
      Checked (runArray self realm .reverse this arguments) ∧
      Checked (runArray self realm .slice this arguments)) ∧
    (∀ before : State, before.heap.IsDense →
      (∀ value ∈ arguments, (before.heap.elementsOf? (before.heap.unwrap value)).isSome) →
        EndsDense before (runArray self realm .concat this arguments before)) ∧
    (∀ context elements others outcome before after,
      (evaluate self context (.array elements) before).ComesTo others outcome after →
        (∃ error, outcome = .error error ∧
          (evaluateItems self context elements before).ComesTo others (.error error) after) ∨
        ∃ values middle,
          (evaluateItems self context elements before).ComesTo others (.ok values) middle ∧
            (middle.heap.IsDense → EndsDense middle (.ended outcome after))) ∧
    (∀ others before value after,
      (runArray self realm .map this arguments before).ComesTo others (.ok value) after →
        ∃ elements results middle, receiverElements this "map" before = .done elements before ∧
          results.length = elements.length ∧
          (Code.createArray results : Eval Value) middle = .done value after) := by
  refine ⟨checked_writeProperty, checked_construct self realm this, ?_, ?_, ?_, ?_⟩
  · have pops (elements : List Value) : elements.dropLast.length ≤ elements.length := by
      rw [List.length_dropLast]
      omega
    have shifts (elements : List Value) : elements.tail.length ≤ elements.length := by
      rw [List.length_tail]
      omega
    have reverses (elements : List Value) : elements.reverse.length ≤ elements.length :=
      Nat.le_of_eq List.length_reverse
    exact ⟨checked_push self realm this arguments, checked_shortening pops _,
      checked_shortening shifts _, checked_shortening reverses _,
      checked_slice self realm this arguments⟩
  · intro before dense arrays
    exact endsDense_concat self realm this arguments dense arrays
  · intro context elements others outcome before after comes
    rcases comesTo_array comes with failing | ⟨values, middle, evaluates, ends⟩
    · exact .inl failing
    · refine .inr ⟨values, middle, evaluates, fun dense => ?_⟩
      rcases ends with ⟨rfl, rfl⟩ | ⟨within, creates⟩
      · exact ⟨.inl rfl, rfl⟩
      · rw [← creates]
        exact EndsDense.createArray dense within
  · intro others before value after comes
    exact comesTo_map self realm this arguments comes

theorem isDense_empty : ({} : State).heap.IsDense := by
  intro object member
  cases Array.not_mem_empty object member

/-- A short literal is an array of its elements. -/
theorem array_lengths_checked_short :
    ((evaluate (Interpreter.within 2) default (.array [.item .this]) {}).ComesTo Eq
        (.ok (.object ⟨0⟩)) { heap := { objects := #[.array [.undefined] {}] } } ∧
      ((∃ error, (.ok (.object ⟨0⟩) : Except RuntimeError Value) = .error error ∧
        (evaluateItems (Interpreter.within 2) default [.item .this] {}).ComesTo Eq (.error error)
          { heap := { objects := #[.array [.undefined] {}] } }) ∨
      ∃ values middle,
        (evaluateItems (Interpreter.within 2) default [.item .this] {}).ComesTo Eq (.ok values)
          middle ∧
        (middle.heap.IsDense → EndsDense middle (.ended (.ok (Value.object ⟨0⟩))
          { heap := { objects := #[.array [.undefined] {}] } })))) ∧
    (({} : State).heap.IsDense ∧
      EndsDense {} (runArray (Interpreter.within 2) ⟨0⟩ .concat .null [] {})) := by
  have evaluated : (evaluate (Interpreter.within 2) default (.array [.item .this]) {}).ComesTo Eq
      (.ok (.object ⟨0⟩)) { heap := { objects := #[.array [.undefined] {}] } } := ⟨rfl, rfl⟩
  have checks := array_lengths_checked (Interpreter.within 2) ⟨0⟩ .null []
  refine ⟨⟨evaluated, checks.2.2.2.2.1 _ _ _ _ _ _ evaluated⟩, isDense_empty, ?_⟩
  apply checks.2.2.2.1 _ isDense_empty
  intro value member
  cases member

/-- Whether code ends with an array that is too long, though none was before. -/
def Overgrows {α : Type} (before : State) (code : Eval α) : Prop :=
  before.heap.IsDense ∧ ∃ value after, code before = .done value after ∧ ¬after.heap.IsDense

/-- Creating an array does not look at its length. -/
theorem overgrows_createArray {before : State} {code : Eval Value} (elements : List Value)
    (dense : before.heap.IsDense) (creates : code before = Code.createArray elements before)
    (long : maximumLength < elements.length) : Overgrows before code := by
  refine ⟨dense, _, _, creates, fun within => ?_⟩
  have most : elements.length ≤ maximumLength := within _ (Array.mem_push_self ..)
  omega

/-- An array and another one that holds it. -/
def nestedState (elements : List Value) : State :=
  { heap := { objects := #[.array elements {}, .array [.object ⟨0⟩, .undefined] {}] } }

section Full

variable {elements : List Value} (full : elements.length = maximumLength)
include full

theorem isDense_nestedState : (nestedState elements).heap.IsDense := by
  intro object member
  have either : object = .array elements {} ∨ object = .array [.object ⟨0⟩, .undefined] {} := by
    simpa [nestedState] using member
  rcases either with rfl | rfl
  · exact Nat.le_of_eq full
  · change 2 ≤ maximumLength
    decide

/-- The array is too long with one more element. -/
theorem not_isDense_of_longer {state : State} (new : List Value)
    (found : state.heap.object? ⟨0⟩ = some (.array new {}))
    (longer : new.length = elements.length + 1) : ¬state.heap.IsDense := by
  intro dense
  have most : new.length ≤ maximumLength := dense.object found
  omega

theorem overgrows_unshift (self : Interpreter) (realm : RealmRef) :
    Overgrows (nestedState elements) (runArray self realm .unshift (.object ⟨0⟩) [.undefined]) := by
  refine ⟨isDense_nestedState full, _, _, rfl, ?_⟩
  exact not_isDense_of_longer full (.undefined :: elements) rfl rfl

theorem overgrows_splice (self : Interpreter) (realm : RealmRef) :
    Overgrows (nestedState elements) (runArray self realm .splice (.object ⟨0⟩)
      [.number 0.0, .number 0.0, .undefined]) := by
  have receives : receiverElements (.object ⟨0⟩) "splice" (nestedState elements) =
      .done elements (nestedState elements) := rfl
  have start : placeOf elements.length 0.0 = 0 := by
    rw [full]
    decide
  have count : (Number.clampToInt 0 (elements.length - 0 : Nat) 0.0).toNat = 0 := by
    rw [full]
    decide
  refine ⟨isDense_nestedState full, ?_⟩
  change ∃ value after, spliceReceiver _ _ _ = _ ∧ _
  rw [spliceReceiver, Code.bind_of_done receives]
  change ∃ value after, (setElements (.object ⟨0⟩) "splice"
    (elements.take (placeOf elements.length 0.0) ++ [.undefined] ++
      elements.drop (placeOf elements.length 0.0 +
        (Number.clampToInt 0 (elements.length - placeOf elements.length 0.0 : Nat) 0.0).toNat))
      >>= fun _ => Code.createArray _) _ = _ ∧ _
  rw [start, count, setElements_bind receives]
  refine ⟨_, _, rfl, ?_⟩
  exact not_isDense_of_longer full ([] ++ [.undefined] ++ elements) rfl rfl

/-- Another value goes to the end of an array that is concatenated. -/
theorem overgrows_concat (self : Interpreter) (realm : RealmRef) :
    Overgrows (nestedState elements)
      (runArray self realm .concat (.object ⟨0⟩) [.undefined]) := by
  refine overgrows_createArray (elements ++ [.undefined]) (isDense_nestedState full) rfl ?_
  rw [List.length_append, full]
  decide

theorem overgrows_of (self : Interpreter) (realm : RealmRef) :
    Overgrows (nestedState elements)
      (runArray self realm .ofItems .undefined (.undefined :: elements)) := by
  refine overgrows_createArray (.undefined :: elements) (isDense_nestedState full) rfl ?_
  rw [List.length_cons, full]
  decide

theorem overgrows_flat (self : Interpreter) (realm : RealmRef) :
    Overgrows (nestedState elements) (runArray self realm .flat (.object ⟨1⟩) []) := by
  refine overgrows_createArray (elements ++ [.undefined]) (isDense_nestedState full) rfl ?_
  rw [List.length_append, full]
  decide

end Full

section Characters

variable {text : String} (long : maximumLength < text.length)
include long

theorem overgrows_split : Overgrows {} (runString .split (.text text) [.text ""]) := by
  refine overgrows_createArray (splitText {} text [.text ""]) isDense_empty rfl ?_
  have characters : splitText {} text [.text ""] =
      ((text.toList.map ([·])).map String.ofList).map .text := rfl
  rw [characters, List.length_map, List.length_map, List.length_map, String.length_toList]
  exact long

theorem overgrows_from (self : Interpreter) (realm : RealmRef) :
    Overgrows {} (runArray self realm .fromItems .undefined [.text text]) := by
  refine overgrows_createArray (text.toList.map fun c => .text (String.singleton c)) isDense_empty
    rfl ?_
  rw [List.length_map, String.length_toList]
  exact long

/-- A pattern for the rest takes all characters of a text. -/
theorem overgrows_rest (context : Context) :
    Overgrows {} (bindArray (Interpreter.within 1) context true [] (some (.identifier "r"))
      (.text text)) := by
  refine ⟨isDense_empty, (), _, rfl, fun dense => ?_⟩
  have most : (text.toList.map fun c => Value.text (String.singleton c)).length ≤ maximumLength :=
    dense _ (Array.mem_push_self ..)
  rw [List.length_map, String.length_toList] at most
  omega

end Characters

/-- At arrays of the greatest length and a text of one character more, functions that put arrays
together or take characters apart make an array that is too long. -/
theorem array_length_exceeded :
    let full := List.replicate maximumLength Value.undefined
    let text := String.ofList (List.replicate (maximumLength + 1) 'x')
    let self := Interpreter.within 1
    Overgrows (nestedState full) (runArray self ⟨0⟩ .unshift (.object ⟨0⟩) [.undefined]) ∧
    Overgrows (nestedState full) (runArray self ⟨0⟩ .splice (.object ⟨0⟩)
      [.number 0.0, .number 0.0, .undefined]) ∧
    Overgrows (nestedState full) (runArray self ⟨0⟩ .concat (.object ⟨0⟩) [.undefined]) ∧
    Overgrows (nestedState full) (runArray self ⟨0⟩ .ofItems .undefined (.undefined :: full)) ∧
    Overgrows (nestedState full) (runArray self ⟨0⟩ .flat (.object ⟨1⟩) []) ∧
    Overgrows {} (runString .split (.text text) [.text ""]) ∧
    Overgrows {} (runArray self ⟨0⟩ .fromItems .undefined [.text text]) ∧
    Overgrows {} (bindArray self default true [] (some (.identifier "r")) (.text text)) := by
  intro full text self
  have length : full.length = maximumLength := List.length_replicate
  have long : maximumLength < text.length := by
    rw [String.length_ofList, List.length_replicate]
    exact Nat.lt_succ_self _
  exact ⟨overgrows_unshift length self ⟨0⟩, overgrows_splice length self ⟨0⟩,
    overgrows_concat length self ⟨0⟩, overgrows_of length self ⟨0⟩, overgrows_flat length self ⟨0⟩,
    overgrows_split long, overgrows_from long self ⟨0⟩, overgrows_rest long default⟩

end PluginSandbox.Script
