import PluginSandbox.Proofs.Script.ArrayLengths
import PluginSandbox.Proofs.Script.Comparisons
import PluginSandbox.Proofs.Script.Layers
import PluginSandbox.Proofs.Script.Writes

/-!
# Sorting arrays

The comparisons of a sort are calls of a script, which may change the state, fail and never end. A
sort makes them one after the other and stops where one of them does. It writes the array once,
after the last comparison.
-/
namespace PluginSandbox.Script

namespace Library

section Runs

variable {after : Value → Value → Eval Bool} {others : State → State → Prop}
  {elements all : List Value} {before last : State} {how : Option (RuntimeError × State)}

/-- Whether, after fewer comparisons of some elements than a limit, one more of them stops. -/
structure StopsComparing (after : Value → Value → Eval Bool) (others : State → State → Prop)
    (elements : List Value) (limit : Nat) (before : State) (how : Option (RuntimeError × State))
    (made : List Comparison) (middle : State) : Prop where
  /-- The comparisons before come to their answers. -/
  compares : Compares after others before made middle
  /-- They are fewer than the limit. -/
  few : made.length < limit
  /-- They are of these elements. -/
  among : ∀ comparison ∈ made, comparison.first ∈ elements ∧ comparison.second ∈ elements
  /-- The next one stops. -/
  stops : ∃ first ∈ elements, ∃ second ∈ elements, (after first second middle).Stops others how

/-- Comparisons before one that stops count as well. -/
theorem StopsComparing.after_made {limit : Nat} {middle : State} {made more : List Comparison}
    {first : State} (compares : Compares after others before made first)
    (among : ∀ comparison ∈ made, comparison.first ∈ all ∧ comparison.second ∈ all)
    (stopping : StopsComparing after others all limit first how more middle) :
    StopsComparing after others all (made.length + limit) before how (made ++ more) middle where
  compares := compares.append stopping.compares
  few := by
    have few := stopping.few
    rw [List.length_append]
    omega
  among := List.forall_mem_append.mpr ⟨among, stopping.among⟩
  stops := stopping.stops

theorem StopsComparing.mono {limit limit' : Nat} {made : List Comparison} {middle : State}
    (stopping : StopsComparing after others all limit before how made middle)
    (le : limit ≤ limit') : StopsComparing after others all limit' before how made middle :=
  { stopping with few := Nat.lt_of_lt_of_le stopping.few le }

/-- An element that was inserted got into its place by comparisons. -/
theorem insertSorted_comesTo (element : Value) (sorted : List Value) :
    ∀ {before last : State} {result : List Value},
      ((insertSorted after element sorted) before).ComesTo others (.ok result) last →
        ∃ made, Inserts element sorted made result ∧ Compares after others before made last := by
  induction sorted with
  | nil =>
    intro before last result comes
    obtain ⟨same, rfl⟩ := comes
    cases same
    exact ⟨[], .alone, .none⟩
  | cons other earlier ih =>
    intro before last result comes
    obtain ⟨answer, middle, answers, goesOn⟩ := Code.comesTo_bind_ok.mp comes
    cases answer with
    | true =>
      obtain ⟨rest, final, inserts, same, rfl⟩ := Code.comesTo_bind_ok.mp goesOn
      cases same
      obtain ⟨made, inserted, compares⟩ := ih inserts
      exact ⟨_, .passed inserted, .one answers compares⟩
    | false =>
      obtain ⟨same, rfl⟩ := goesOn
      cases same
      exact ⟨_, .last, .one answers .none⟩

/-- Inserting an element stops in one of the comparisons with the others. -/
theorem insertSorted_stops (element : Value) (sorted : List Value)
    (within : element :: sorted ⊆ all) :
    ∀ {before : State}, ((insertSorted after element sorted) before).Stops others how →
      ∃ made middle, StopsComparing after others all sorted.length before how made middle := by
  induction sorted with
  | nil =>
    intro before stops
    exact stops.elim
  | cons other earlier ih =>
    intro before stops
    have first : other ∈ all := within (by simp)
    have second : element ∈ all := within (by simp)
    rcases Code.stops_bind.mp stops with now | ⟨answer, middle, answers, goesOn⟩
    · exact ⟨[], before, .none, by simp, by simp, other, first, element, second, now⟩
    · cases answer with
      | false => exact goesOn.elim
      | true =>
        rcases Code.stops_bind.mp goesOn with later | ⟨_, _, _, never⟩
        · have fewer : element :: earlier ⊆ element :: other :: earlier :=
            List.cons_subset_cons element (List.subset_cons_self other earlier)
          obtain ⟨made, final, stopping⟩ := ih (List.Subset.trans fewer within) later
          have compared : Compares after others before [⟨other, element, true⟩] middle :=
            .one answers .none
          refine ⟨_, final, (stopping.after_made compared (by simp [first, second])).mono ?_⟩
          rw [List.length_singleton, List.length_cons]
          omega
        · exact never.elim

/-- Elements that were inserted got into their places by comparisons. -/
theorem foldlM_comesTo (elements : List Value) :
    ∀ {sorted result : List Value} {before last : State},
      ((elements.foldlM (fun sorted element => insertSorted after element sorted) sorted)
        before).ComesTo others (.ok result) last →
        ∃ made, Sorts sorted elements made result ∧ Compares after others before made last := by
  induction elements with
  | nil =>
    intro sorted result before last comes
    obtain ⟨same, rfl⟩ := comes
    cases same
    exact ⟨[], .finished, .none⟩
  | cons element rest ih =>
    intro sorted result before last comes
    rw [List.foldlM_cons] at comes
    obtain ⟨inserted, middle, first, second⟩ := Code.comesTo_bind_ok.mp comes
    obtain ⟨made, inserts, compares⟩ := insertSorted_comesTo element sorted first
    obtain ⟨more, sorts, follow⟩ := ih second
    exact ⟨made ++ more, .inserted inserts sorts, compares.append follow⟩

/-- Inserting elements one after the other stops in one of the comparisons. -/
theorem foldlM_stops (elements : List Value) :
    ∀ {sorted : List Value} {before : State}, sorted ++ elements ⊆ all →
      ((elements.foldlM (fun sorted element => insertSorted after element sorted) sorted)
        before).Stops others how →
        ∃ made middle, StopsComparing after others all
          (sorted.length * elements.length + elements.length.choose 2) before how made middle := by
  induction elements with
  | nil =>
    intro sorted before _ stops
    exact stops.elim
  | cons element rest ih =>
    intro sorted before within stops
    have fewer : element :: sorted ⊆ all := by
      intro a here
      apply within
      rcases List.mem_cons.mp here with rfl | old
      · simp
      · simp [old]
    rw [List.foldlM_cons] at stops
    rcases Code.stops_bind.mp stops with now | ⟨inserted, middle, first, second⟩
    · obtain ⟨made, final, stopping⟩ := insertSorted_stops element sorted fewer now
      refine ⟨made, final, stopping.mono ?_⟩
      rw [List.length_cons, Nat.mul_add, Nat.mul_one, choose_two_succ]
      omega
    · obtain ⟨made, inserts, compares⟩ := insertSorted_comesTo element sorted first
      have same := inserts.perm_append rest
      have among : ∀ comparison ∈ made, comparison.first ∈ all ∧ comparison.second ∈ all := by
        intro comparison member
        obtain ⟨one, two⟩ := inserts.among comparison member
        rw [two]
        exact ⟨fewer (List.mem_cons_of_mem _ one), fewer List.mem_cons_self⟩
      obtain ⟨more, final, stopping⟩ := ih (fun a here => within (same.mem_iff.mp here)) second
      refine ⟨_, final, (stopping.after_made compares among).mono ?_⟩
      have most := inserts.length_le
      have grown : inserted.length = sorted.length + 1 := inserts.perm.length_eq
      rw [grown, List.length_cons, choose_two_succ, Nat.add_mul, Nat.mul_add, Nat.one_mul,
        Nat.mul_one]
      omega

/-- Elements that were sorted got into their order by comparisons. -/
theorem sortElements_comesTo {result : List Value}
    (comes : ((sortElements after elements) before).ComesTo others (.ok result) last) :
    ∃ made, Sorts [] elements made result.reverse ∧ Compares after others before made last := by
  obtain ⟨sorted, middle, folds, same, rfl⟩ := Code.comesTo_bind_ok.mp comes
  cases same
  rw [List.reverse_reverse]
  exact foldlM_comesTo elements folds

/-- Sorting elements stops in one of the comparisons. -/
theorem sortElements_stops (stops : ((sortElements after elements) before).Stops others how) :
    ∃ made middle, StopsComparing after others elements (elements.length.choose 2) before how made
      middle := by
  rcases Code.stops_bind.mp stops with now | ⟨_, _, _, never⟩
  · obtain ⟨made, middle, stopping⟩ := foldlM_stops elements (List.Subset.refl elements) now
    exact ⟨made, middle, stopping.mono (by simp)⟩
  · exact never.elim

end Runs

section Receivers

/-- The elements that are compared. -/
def definedAmong (elements : List Value) : List Value :=
  elements.filter fun element => !element.isUndefined

/-- The elements that come last. -/
def undefinedAmong (elements : List Value) : List Value := elements.filter Value.isUndefined

theorem partition_isUndefined (elements : List Value) :
    elements.partition Value.isUndefined = (undefinedAmong elements, definedAmong elements) :=
  List.partition_eq_filter_filter

theorem perm_definedAmong (elements : List Value) :
    (definedAmong elements ++ undefinedAmong elements).Perm elements :=
  List.perm_append_comm.trans (List.filter_append_perm Value.isUndefined elements)

/-- There are no more pairs of defined elements than pairs of elements. -/
theorem choose_definedAmong_le (elements : List Value) :
    (definedAmong elements).length.choose 2 ≤ elements.length * (elements.length - 1) / 2 := by
  rw [← Nat.choose_two_right]
  exact Nat.choose_le_choose 2 (List.length_filter_le _ elements)

/-- What has elements is an array of the heap. -/
theorem exists_of_elementsOf? {heap : Heap} {value : Value} {elements : List Value}
    (array : heap.elementsOf? value = some elements) :
    ∃ ref properties, value = .object ref ∧
      heap.object? ref = some (.array elements properties) := by
  unfold Heap.elementsOf? at array
  split at array
  · rename_i others properties found
    cases array
    cases value with
    | object ref => exact ⟨ref, properties, rfl, found⟩
    | _ => cases found
  · cases array

/-- The elements of a receiver are the ones that replaced the old ones. -/
theorem elementsOf?_replaceElements {heap : Heap} {this : Value} {old : List Value}
    (array : heap.elementsOf? (heap.unwrap this) = some old) (elements : List Value) :
    (replaceElements heap this elements).elementsOf?
      ((replaceElements heap this elements).unwrap this) = some elements := by
  obtain ⟨ref, properties, place, found⟩ := exists_of_elementsOf? array
  have replaced : replaceElements heap this elements =
      heap.replace ref (.array elements properties) := by
    simp [replaceElements, place, found]
  have views : heap.SameViews (heap.replace ref (.array elements properties)) :=
    Heap.sameViews_replace (by simp [found]) (by simp)
  have unwraps : (heap.replace ref (.array elements properties)).unwrap this = .object ref :=
    (congrArg Prod.snd (views.layers_eq this)).trans place
  have written : (heap.replace ref (.array elements properties)).object? ref =
      some (.array elements properties) :=
    Heap.object?_replace (Option.isSome_of_mem found) _
  rw [replaced, unwraps]
  simp only [Heap.elementsOf?, Heap.objectOf?, written]

end Receivers

/-- A state in which only the elements of a receiver are replaced. -/
def withElements (this : Value) (elements : List Value) (state : State) : State :=
  { state with heap := replaceElements state.heap this elements }

/-- Whether comparisons make a sorted array of a receiver with these elements, and leave a state. -/
structure SortsReceiver (after : Value → Value → Eval Bool) (others : State → State → Prop)
    (this : Value) (elements : List Value) (before : State) (made : List Comparison)
    (sorted : List Value) (last : State) : Prop where
  /-- The comparisons come to their answers, and the elements are replaced after the last one. -/
  writes : ∃ middle, Compares after others before made middle ∧
    last = withElements this (sorted ++ undefinedAmong elements) middle
  /-- They are no more than there are pairs of elements. -/
  few : made.length ≤ elements.length * (elements.length - 1) / 2
  /-- No undefined element is compared. -/
  among : ∀ comparison ∈ made,
    comparison.first ∈ definedAmong elements ∧ comparison.second ∈ definedAmong elements
  /-- The receiver has the sorted elements, and the undefined ones behind them. -/
  holds : last.heap.elementsOf? (last.heap.unwrap this) =
    some (sorted ++ undefinedAmong elements)
  /-- No element is lost or made up. -/
  perm : (sorted ++ undefinedAmong elements).Perm elements
  /-- The undefined ones are the last. -/
  defined : ∀ element ∈ sorted, element.isUndefined = false
  /-- An order that the answers follow is that of the sorted elements. -/
  ordered : ∀ isAfter, OrdersWeakly isAfter (definedAmong elements) → Follows isAfter made →
    IsOrdered isAfter (definedAmong elements) sorted

/-- Elements that are inserted into none are put in order. -/
theorem Sorts.isOrdered_reverse {isAfter : Value → Value → Bool} {elements result : List Value}
    {made : List Comparison} (sorts : Sorts [] elements made result)
    (orders : OrdersWeakly isAfter elements) (follows : Follows isAfter made) :
    IsOrdered isAfter elements result.reverse := by
  obtain ⟨descending, stable⟩ := sorts.isOrdered orders follows .nil
  refine ⟨List.pairwise_reverse.mpr descending, fun a member => ?_⟩
  rw [List.filter_reverse, stable a member, List.append_nil, List.filter_reverse,
    List.reverse_reverse]

section Functions

variable (self : Interpreter) (realm : RealmRef) {this : Value}
  {others : State → State → Prop} {elements : List Value} {before : State}

/-- Sorting compares the defined elements and writes the array in the end. -/
theorem sortReceiver_apply (comparator : Value)
    (array : before.heap.elementsOf? (before.heap.unwrap this) = some elements) :
    sortReceiver self realm this comparator before =
      (do
        let sorted ← sortElements (comesAfter self realm comparator) (definedAmong elements)
        setElements this "sort" (sorted ++ undefinedAmong elements)
        return this : Eval Value) before := by
  have receives : receiverElements this "sort" before = .done elements before := by
    apply Code.tryHeap_of_ok
    rw [array]
  unfold sortReceiver
  rw [Code.bind_of_done receives, partition_isUndefined]

/-- A sort that succeeds makes a sorted array of its receiver. -/
theorem sortReceiver_comesTo {comparator value : Value} {last : State}
    (array : before.heap.elementsOf? (before.heap.unwrap this) = some elements)
    (comes : (sortReceiver self realm this comparator before).ComesTo others (.ok value) last) :
    value = this ∧ ∃ made sorted, SortsReceiver (comesAfter self realm comparator) others this
      elements before made sorted last := by
  rw [sortReceiver_apply self realm comparator array] at comes
  obtain ⟨sorted, middle, compares, goesOn⟩ := Code.comesTo_bind_ok.mp comes
  obtain ⟨made, sorts, made'⟩ := sortElements_comesTo compares
  rcases receiverElements_cases this "sort" middle with fails | ⟨old, isArray, receives⟩
  · have stopped : (setElements this "sort" (sorted ++ undefinedAmong elements)) middle =
        .failed (notAnArray "sort") middle :=
      Code.bind_of_failed fails _
    rw [Code.bind_of_failed stopped] at goesOn
    cases goesOn.1
  · rw [setElements_bind receives] at goesOn
    obtain ⟨same, rfl⟩ := goesOn
    cases same
    have same : sorted.Perm (definedAmong elements) :=
      (List.reverse_perm sorted).symm.trans sorts.perm
    refine ⟨rfl, made, sorted, ⟨middle, made', rfl⟩, ?_, sorts.among,
      elementsOf?_replaceElements isArray _, ?_, ?_, ?_⟩
    · have most := sorts.length_le
      rw [List.length_nil, Nat.zero_mul, Nat.zero_add] at most
      exact Nat.le_trans most (choose_definedAmong_le elements)
    · exact (same.append_right _).trans (perm_definedAmong elements)
    · intro element member
      have kept := (List.mem_filter.mp (same.mem_iff.mp member)).2
      simpa using kept
    · intro isAfter orders follows
      have ordered := sorts.isOrdered_reverse orders follows
      rwa [List.reverse_reverse] at ordered

/-- A sort stops in a comparison, or because its receiver is no array any more. -/
theorem sortReceiver_stops {comparator : Value} {how : Option (RuntimeError × State)}
    (array : before.heap.elementsOf? (before.heap.unwrap this) = some elements)
    (stops : (sortReceiver self realm this comparator before).Stops others how) :
    (∃ made middle, StopsComparing (comesAfter self realm comparator) others
      (definedAmong elements) (elements.length * (elements.length - 1) / 2) before how made
        middle) ∨
    ∃ made middle, Compares (comesAfter self realm comparator) others before made middle ∧
      middle.heap.elementsOf? (middle.heap.unwrap this) = none ∧
      how = some (notAnArray "sort", middle) := by
  rw [sortReceiver_apply self realm comparator array] at stops
  rcases Code.stops_bind.mp stops with comparing | ⟨sorted, middle, compares, goesOn⟩
  · obtain ⟨made, middle, stopping⟩ := sortElements_stops comparing
    exact .inl ⟨made, middle, stopping.mono (choose_definedAmong_le elements)⟩
  · right
    obtain ⟨made, _, made'⟩ := sortElements_comesTo compares
    rcases receiverElements_cases this "sort" middle with fails | ⟨old, _, receives⟩
    · have stopped : (setElements this "sort" (sorted ++ undefinedAmong elements)) middle =
          .failed (notAnArray "sort") middle :=
        Code.bind_of_failed fails _
      rw [Code.bind_of_failed stopped] at goesOn
      refine ⟨made, middle, made', ?_, goesOn⟩
      cases reads : middle.heap.elementsOf? (middle.heap.unwrap this) with
      | none => rfl
      | some old =>
        have receives : receiverElements this "sort" middle = .done old middle := by
          apply Code.tryHeap_of_ok
          rw [reads]
        rw [receives] at fails
        cases fails
    · rw [setElements_bind receives] at goesOn
      exact goesOn.elim

end Functions

section Texts

/-- Whether the text of a value comes after that of another one. -/
def isTextAfter (heap : Heap) (a b : Value) : Bool := decide (heap.textOf b < heap.textOf a)

/-- Texts are in a total order, so values are in a weak one. -/
theorem ordersWeakly_isTextAfter (heap : Heap) (elements : List Value) :
    OrdersWeakly (isTextAfter heap) elements := by
  have same {a b : Value} : tied (isTextAfter heap) a b = true ↔ heap.textOf a = heap.textOf b := by
    simp only [tied, isTextAfter, Bool.and_eq_true, Bool.not_eq_true', decide_eq_false_iff_not,
      String.not_lt]
    constructor
    · rintro ⟨first, second⟩
      exact String.le_antisymm first second
    · intro equal
      rw [equal]
      exact ⟨String.le_refl _, String.le_refl _⟩
  refine ⟨fun a _ => ?_, fun a _ b _ c _ ab bc => ?_, fun a _ b _ c _ ab bc => ?_⟩
  · exact decide_eq_false (String.lt_irrefl _)
  · exact decide_eq_true (String.lt_trans (of_decide_eq_true bc) (of_decide_eq_true ab))
  · exact same.mpr ((same.mp ab).trans (same.mp bc))

variable (state : State) (isAfter : Heap → Value → Value → Bool)

/-- Inserting ends at once if the answers are read off the heap. -/
theorem insertSorted_reads (element : Value) (sorted : List Value) :
    ∃ result, insertSorted (fun a b => Code.readHeap fun heap => isAfter heap a b) element sorted
      state = .done result state := by
  induction sorted with
  | nil => exact ⟨_, rfl⟩
  | cons last before ih =>
    cases answer : isAfter state.heap last element with
    | false =>
      have answers : (Code.readHeap fun heap => isAfter heap last element : Eval Bool) state =
          .done false state :=
        congrArg (Run.done · state) answer
      exact ⟨_, Code.bind_of_done answers _⟩
    | true =>
      have answers : (Code.readHeap fun heap => isAfter heap last element : Eval Bool) state =
          .done true state :=
        congrArg (Run.done · state) answer
      obtain ⟨result, inserts⟩ := ih
      exact ⟨_, (Code.bind_of_done answers _).trans (Code.bind_of_done inserts _)⟩

/-- Sorting ends at once if the answers are read off the heap. -/
theorem sortElements_reads (elements : List Value) :
    ∃ result, sortElements (fun a b => Code.readHeap fun heap => isAfter heap a b) elements state =
      .done result state := by
  have folds (elements : List Value) : ∀ sorted : List Value, ∃ result,
      elements.foldlM (fun sorted element => insertSorted
        (fun a b => Code.readHeap fun heap => isAfter heap a b) element sorted) sorted state =
        .done result state := by
    induction elements with
    | nil => exact fun sorted => ⟨sorted, rfl⟩
    | cons element rest ih =>
      intro sorted
      obtain ⟨middle, inserts⟩ := insertSorted_reads state isAfter element sorted
      obtain ⟨result, goesOn⟩ := ih middle
      rw [List.foldlM_cons]
      exact ⟨result, (Code.bind_of_done inserts _).trans goesOn⟩
  obtain ⟨result, sorts⟩ := folds elements []
  exact ⟨_, Code.bind_of_done sorts _⟩

/-- Without a comparator the answers are read off the heap. -/
theorem comesAfter_of_nullish (self : Interpreter) (realm : RealmRef) {comparator : Value}
    (nullish : comparator.isNullish = true) :
    comesAfter self realm comparator =
      fun a b => Code.readHeap fun heap => isTextAfter heap a b := by
  funext a b
  unfold comesAfter
  rw [nullish]
  rfl

/-- Without a comparator a sort succeeds at once. -/
theorem sortReceiver_texts (self : Interpreter) (realm : RealmRef) {state : State}
    {this comparator : Value} {elements : List Value} (nullish : comparator.isNullish = true)
    (array : state.heap.elementsOf? (state.heap.unwrap this) = some elements) :
    ∃ last, sortReceiver self realm this comparator state = .done this last := by
  obtain ⟨sorted, sorts⟩ := sortElements_reads state isTextAfter (definedAmong elements)
  have receives : receiverElements this "sort" state = .done elements state := by
    apply Code.tryHeap_of_ok
    rw [array]
  rw [sortReceiver_apply self realm comparator array, comesAfter_of_nullish self realm nullish,
    Code.bind_of_done sorts, setElements_bind receives]
  exact ⟨_, rfl⟩

end Texts

/-- Sorting an array, by a comparator or, without one, by the texts of the elements.

A sort that succeeds has made no more comparisons than there are pairs of elements, none of them of
an undefined element, and has put the elements in order: none is lost, the undefined ones are last,
and where the answers follow a strict weak order, the others are in this order, those that it does
not tell apart as they were. A sort that stops, because it fails or because it exceeds its bound,
does so in a comparison, before it has written anything, or because a comparator has made its
receiver something else. So it ends if all comparisons do; without a comparator it succeeds. -/
theorem arrays_sorted_stably (self : Interpreter) (realm : RealmRef) (this : Value)
    (arguments : List Value) (others : State → State → Prop) {before : State}
    {elements : List Value}
    (array : before.heap.elementsOf? (before.heap.unwrap this) = some elements) :
    let comparator := argument arguments 0
    let after := comesAfter self realm comparator
    let pairs := elements.length * (elements.length - 1) / 2
    let run := runArray self realm .sort this arguments before
    (∀ value last, run.ComesTo others (.ok value) last → value = this ∧
      ∃ made sorted, SortsReceiver after others this elements before made sorted last) ∧
    (∀ how, run.Stops others how →
      (∃ made middle, StopsComparing after others (definedAmong elements) pairs before how made
        middle) ∨
      ∃ made middle, Compares after others before made middle ∧
        middle.heap.elementsOf? (middle.heap.unwrap this) = none ∧
        how = some (notAnArray "sort", middle)) ∧
    ((∀ first second state, ¬(after first second state).Stops others none) →
      ¬run.Stops others none) ∧
    (comparator.isNullish = true → ∃ made sorted last, run = .done this last ∧
      SortsReceiver after others this elements before made sorted last ∧
      IsOrdered (isTextAfter before.heap) (definedAmong elements) sorted) := by
  intro comparator after pairs run
  have stopping (how : Option (RuntimeError × State)) (stops : run.Stops others how) :=
    sortReceiver_stops self realm array stops
  refine ⟨fun value last comes => sortReceiver_comesTo self realm array comes, stopping, ?_, ?_⟩
  · intro ends stops
    rcases stopping none stops with ⟨made, middle, comparing⟩ | ⟨_, _, _, _, never⟩
    · obtain ⟨first, _, second, _, exceeds⟩ := comparing.stops
      exact ends first second middle exceeds
    · cases never
  · intro nullish
    obtain ⟨last, done⟩ := sortReceiver_texts self realm nullish array
    have comes : run.ComesTo others (.ok this) last := by
      change (sortReceiver self realm this comparator before).ComesTo others (.ok this) last
      rw [done]
      exact ⟨rfl, rfl⟩
    obtain ⟨_, made, sorted, sorts⟩ := sortReceiver_comesTo self realm array comes
    obtain ⟨middle, compares, _⟩ := sorts.writes
    have follows : Follows (isTextAfter before.heap) made := by
      rw [comesAfter_of_nullish self realm nullish] at compares
      exact compares.of_reads.2
    exact ⟨made, sorted, last, done, sorts,
      sorts.ordered _ (ordersWeakly_isTextAfter before.heap _) follows⟩

/-- An array with these elements. -/
def arrayState (elements : List Value) : State := { heap := { objects := #[.array elements {}] } }

/-- The texts of an array are sorted without a comparator, and its undefined element goes to the
end. -/
theorem arrays_sorted_stably_texts :
    let elements : List Value := [.text "b", .undefined, .text "a"]
    let before := arrayState elements
    before.heap.elementsOf? (before.heap.unwrap (.object ⟨0⟩)) = some elements ∧
      ∃ made, SortsReceiver (comesAfter (Interpreter.within 1) ⟨0⟩ .undefined) Eq (.object ⟨0⟩)
        elements before made [.text "a", .text "b"]
          (arrayState [.text "a", .text "b", .undefined]) := by
  have array : (arrayState [.text "b", .undefined, .text "a"]).heap.elementsOf?
      ((arrayState [.text "b", .undefined, .text "a"]).heap.unwrap (.object ⟨0⟩)) =
        some [.text "b", .undefined, .text "a"] := rfl
  have evaluated : runArray (Interpreter.within 1) ⟨0⟩ .sort (.object ⟨0⟩) []
      (arrayState [.text "b", .undefined, .text "a"]) =
        .done (.object ⟨0⟩) (arrayState [.text "a", .text "b", .undefined]) := rfl
  obtain ⟨_, made, sorted, sorts⟩ :=
    (arrays_sorted_stably (Interpreter.within 1) ⟨0⟩ (.object ⟨0⟩) [] Eq array).1 _ _
      (by rw [evaluated]; exact ⟨rfl, rfl⟩)
  have all : sorted ++ [.undefined] = [.text "a", .text "b"] ++ [Value.undefined] :=
    (Option.some.inj sorts.holds).symm
  obtain rfl : sorted = [.text "a", .text "b"] := List.append_cancel_right all
  exact ⟨array, made, sorts⟩

end Library

end PluginSandbox.Script
