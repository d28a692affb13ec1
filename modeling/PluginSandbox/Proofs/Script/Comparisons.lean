import Mathlib.Data.Nat.Choose.Sum
import PluginSandbox.Proofs.Script.Runs
import PluginSandbox.Script.Library.Arrays

/-!
# Sorting by comparisons

Elements are sorted by inserting one after the other, behind those that it comes after. The
comparisons may give any answers. Whatever they are, they are no more than there are pairs of
elements, and no element gets lost. If the answers are those of a strict weak order, the elements
end up in this order, and elements that it does not tell apart keep theirs.
-/
namespace PluginSandbox.Script

namespace Run

variable {ε α : Type}

/-- Whether a run may stop without a result, when every request is answered and others may change
the state while it waits: with a failure in a state or, told by none, because it exceeds its
bound. -/
def Stops (others : State → State → Prop) (how : Option (ε × State)) : Run ε α → Prop
  | .done _ _ => False
  | .failed error state => how = some (error, state)
  | .exhausted => how = none
  | .waiting _ state resume =>
    ∃ reply next, others state next ∧ (resume reply next).Stops others how

/-- A run stops with the failures that it comes to. -/
theorem stops_some {others : State → State → Prop} {run : Run ε α} {error : ε} {after : State} :
    run.Stops others (some (error, after)) ↔ run.ComesTo others (.error error) after := by
  induction run with
  | done value state =>
    constructor
    · exact False.elim
    · intro comes
      cases comes.1
  | failed error' state =>
    unfold Stops ComesTo
    rw [Option.some.injEq, Prod.mk.injEq, Except.error.injEq]
  | exhausted =>
    constructor
    · intro stops
      cases stops
    · exact False.elim
  | waiting request state resume ih =>
    unfold Stops ComesTo
    simp only [ih]

end Run

/-- Code stops where its first part does, or where it goes on with the result of its first part. -/
theorem Code.stops_bind {ε α β : Type} {others : State → State → Prop} {code : Code ε α}
    {next : α → Code ε β} {before : State} {how : Option (ε × State)} :
    ((code >>= next) before).Stops others how ↔
      (code before).Stops others how ∨
      ∃ value middle, (code before).ComesTo others (.ok value) middle ∧
        (next value middle).Stops others how := by
  change ((code before).bind next).Stops others how ↔ _
  induction code before with
  | done value state =>
    constructor
    · intro stops
      exact .inr ⟨value, state, ⟨rfl, rfl⟩, stops⟩
    · rintro (never | ⟨_, _, ⟨same, rfl⟩, stops⟩)
      · exact never.elim
      · cases same
        exact stops
  | failed error state =>
    constructor
    · intro stops
      exact .inl stops
    · rintro (stops | ⟨_, _, ⟨never, _⟩, _⟩)
      · exact stops
      · cases never
  | exhausted =>
    constructor
    · intro stops
      exact .inl stops
    · rintro (stops | ⟨_, _, never, _⟩)
      · exact stops
      · exact never.elim
  | waiting request state resume ih =>
    simp only [Run.bind, Run.Stops, Run.ComesTo, ih]
    constructor
    · rintro ⟨reply, later, changed, stops | ⟨value, middle, comes, stops⟩⟩
      · exact .inl ⟨reply, later, changed, stops⟩
      · exact .inr ⟨value, middle, ⟨reply, later, changed, comes⟩, stops⟩
    · rintro (⟨reply, later, changed, stops⟩ |
        ⟨value, middle, ⟨reply, later, changed, comes⟩, stops⟩)
      · exact ⟨reply, later, changed, .inl stops⟩
      · exact ⟨reply, later, changed, .inr ⟨value, middle, comes, stops⟩⟩

/-- One more element makes a pair with each of the others. -/
theorem choose_two_succ (n : Nat) : (n + 1).choose 2 = n + n.choose 2 := by
  rw [Nat.choose_succ_succ' n 1, Nat.choose_one_right]

namespace Library

/-- A comparison of two elements with its answer. -/
structure Comparison where
  /-- The element that may come after the other one. -/
  first : Value
  /-- The other element. -/
  second : Value
  /-- Whether the first element comes after the second one. -/
  isAfter : Bool

/-- Whether comparisons may be made one after the other from a state on, with these answers, and
leave a state. -/
inductive Compares (after : Value → Value → Eval Bool) (others : State → State → Prop) :
    State → List Comparison → State → Prop where
  /-- Without a comparison nothing happens. -/
  | none {state : State} : Compares after others state [] state
  /-- A comparison comes to its answer, and the others follow. -/
  | one {before middle last : State} {comparison : Comparison} {more : List Comparison}
    (answers : (after comparison.first comparison.second before).ComesTo others
      (.ok comparison.isAfter) middle)
    (follow : Compares after others middle more last) :
    Compares after others before (comparison :: more) last

section Answers

variable {after : Value → Value → Eval Bool} {others : State → State → Prop}

/-- Comparisons are made after others. -/
theorem Compares.append {before middle last : State} {made more : List Comparison}
    (first : Compares after others before made middle)
    (second : Compares after others middle more last) :
    Compares after others before (made ++ more) last := by
  induction first with
  | none => exact second
  | one answers _ ih => exact .one answers (ih second)

/-- Comparisons whose answers are read off the heap change nothing, and the heap answers them. -/
theorem Compares.of_reads {isAfter : Heap → Value → Value → Bool} {before last : State}
    {made : List Comparison}
    (compares : Compares (fun a b => Code.readHeap fun heap => isAfter heap a b) others before made
      last) :
    last = before ∧
      ∀ comparison ∈ made,
        comparison.isAfter = isAfter before.heap comparison.first comparison.second := by
  induction compares with
  | none => exact ⟨rfl, by simp⟩
  | @one before middle last comparison more answers _ ih =>
    obtain ⟨answer, rfl⟩ : Except.ok comparison.isAfter = _ ∧ middle = before := answers
    obtain ⟨rfl, all⟩ := ih
    refine ⟨rfl, fun other member => ?_⟩
    rcases List.mem_cons.mp member with rfl | later
    · exact Except.ok.inj answer
    · exact all other later

end Answers

/-- How an element gets into sorted ones, which are given last first: by which comparisons, and
what comes out. -/
inductive Inserts (element : Value) : List Value → List Comparison → List Value → Prop where
  /-- There is nothing to be compared with. -/
  | alone : Inserts element [] [] [element]
  /-- The last of the others does not come after the element. -/
  | last {last : Value} {before : List Value} :
    Inserts element (last :: before) [⟨last, element, false⟩] (element :: last :: before)
  /-- The last of the others comes after the element, which is inserted before it. -/
  | passed {last : Value} {before result : List Value} {made : List Comparison}
    (inserts : Inserts element before made result) :
    Inserts element (last :: before) (⟨last, element, true⟩ :: made) (last :: result)

/-- How elements get one after the other into sorted ones, which are given last first. -/
inductive Sorts : List Value → List Value → List Comparison → List Value → Prop where
  /-- There is nothing left to be inserted. -/
  | finished {sorted : List Value} : Sorts sorted [] [] sorted
  /-- An element is inserted, and then the others are. -/
  | inserted {element : Value} {sorted rest middle result : List Value}
    {made more : List Comparison} (inserts : Inserts element sorted made middle)
    (sorts : Sorts middle rest more result) :
    Sorts sorted (element :: rest) (made ++ more) result

section Elements

variable {element : Value} {sorted elements result : List Value} {made : List Comparison}

/-- An element is compared with each of the others at most once. -/
theorem Inserts.length_le (inserts : Inserts element sorted made result) :
    made.length ≤ sorted.length := by
  induction inserts with
  | alone => exact Nat.le_refl 0
  | last =>
    rw [List.length_singleton, List.length_cons]
    omega
  | passed _ ih =>
    rw [List.length_cons, List.length_cons]
    omega

/-- An element is compared with the others alone. -/
theorem Inserts.among (inserts : Inserts element sorted made result) :
    ∀ comparison ∈ made, comparison.first ∈ sorted ∧ comparison.second = element := by
  induction inserts with
  | alone => simp
  | last => simp
  | passed _ ih =>
    intro comparison member
    rcases List.mem_cons.mp member with rfl | later
    · exact ⟨List.mem_cons_self, rfl⟩
    · obtain ⟨first, second⟩ := ih comparison later
      exact ⟨List.mem_cons_of_mem _ first, second⟩

/-- No element is lost or made up. -/
theorem Inserts.perm (inserts : Inserts element sorted made result) :
    result.Perm (element :: sorted) := by
  induction inserts with
  | alone => exact .refl _
  | last => exact .refl _
  | @passed last before result made _ ih =>
    exact (ih.cons last).trans (.swap element last before)

/-- An inserted element is no longer among those that are left. -/
theorem Inserts.perm_append (inserts : Inserts element sorted made result) (rest : List Value) :
    (result ++ rest).Perm (sorted ++ element :: rest) :=
  (inserts.perm.append_right rest).trans List.perm_middle.symm

theorem Sorts.perm (sorts : Sorts sorted elements made result) :
    result.Perm (sorted ++ elements) := by
  induction sorts with
  | finished =>
    rw [List.append_nil]
  | @inserted element sorted rest middle result made more inserts _ ih =>
    exact ih.trans (inserts.perm_append rest)

/-- Elements are compared with each other alone. -/
theorem Sorts.among (sorts : Sorts sorted elements made result) :
    ∀ comparison ∈ made,
      comparison.first ∈ sorted ++ elements ∧ comparison.second ∈ sorted ++ elements := by
  induction sorts with
  | finished => simp
  | @inserted element sorted rest middle result made more inserts _ ih =>
    have same := inserts.perm_append rest
    intro comparison member
    rcases List.mem_append.mp member with now | later
    · obtain ⟨first, second⟩ := inserts.among comparison now
      rw [second]
      exact ⟨List.mem_append_left _ first, by simp⟩
    · obtain ⟨first, second⟩ := ih comparison later
      exact ⟨same.mem_iff.mp first, same.mem_iff.mp second⟩

/-- Each element is compared at most once with each one that is sorted before it. -/
theorem Sorts.length_le (sorts : Sorts sorted elements made result) :
    made.length ≤ sorted.length * elements.length + elements.length.choose 2 := by
  induction sorts with
  | finished => simp
  | @inserted element sorted rest middle result made more inserts _ ih =>
    have first := inserts.length_le
    have grown : middle.length = sorted.length + 1 := inserts.perm.length_eq
    rw [grown, Nat.add_mul, Nat.one_mul] at ih
    rw [List.length_append, List.length_cons, Nat.mul_add, Nat.mul_one, choose_two_succ]
    omega

end Elements

/-- Whether two elements are not told apart. -/
def tied (isAfter : Value → Value → Bool) (a b : Value) : Bool := !isAfter a b && !isAfter b a

/-- Whether coming after one another is a strict weak order of some elements. -/
structure OrdersWeakly (isAfter : Value → Value → Bool) (elements : List Value) : Prop where
  /-- No element comes after itself. -/
  irrefl : ∀ a ∈ elements, isAfter a a = false
  /-- What comes after an element comes after those that it comes after. -/
  trans : ∀ a ∈ elements, ∀ b ∈ elements, ∀ c ∈ elements, isAfter a b = true →
    isAfter b c = true → isAfter a c = true
  /-- What is not told apart from an element is not told apart from those that this one is not told
  apart from. -/
  ties : ∀ a ∈ elements, ∀ b ∈ elements, ∀ c ∈ elements, tied isAfter a b = true →
    tied isAfter b c = true → tied isAfter a c = true

/-- Whether elements are in order, and those that are not told apart in the order that they had. -/
structure IsOrdered (isAfter : Value → Value → Bool) (elements sorted : List Value) : Prop where
  /-- No element comes after a later one. -/
  ascending : sorted.Pairwise fun a b => isAfter a b = false
  /-- Elements that are not told apart are as they were. -/
  stable : ∀ a ∈ elements, sorted.filter (tied isAfter a) = elements.filter (tied isAfter a)

namespace OrdersWeakly

variable {isAfter : Value → Value → Bool} {elements : List Value}

theorem asymm (orders : OrdersWeakly isAfter elements) {a b : Value} (ha : a ∈ elements)
    (hb : b ∈ elements) (ab : isAfter a b = true) : isAfter b a = false := by
  by_contra not
  have ba : isAfter b a = true := Bool.eq_true_of_not_eq_false not
  have aa := orders.trans a ha b hb a ha ab ba
  rw [orders.irrefl a ha] at aa
  cases aa

/-- An element that does not come after one that does not come after a third does not come after
the third either. -/
theorem negTrans (orders : OrdersWeakly isAfter elements) {a b c : Value} (ha : a ∈ elements)
    (hb : b ∈ elements) (hc : c ∈ elements) (ab : isAfter a b = false)
    (bc : isAfter b c = false) : isAfter a c = false := by
  by_contra not
  have ac : isAfter a c = true := Bool.eq_true_of_not_eq_false not
  have ba : isAfter b a = false := by
    by_contra not
    have after := orders.trans b hb a ha c hc (Bool.eq_true_of_not_eq_false not) ac
    rw [bc] at after
    cases after
  have cb : isAfter c b = false := by
    by_contra not
    have after := orders.trans a ha c hc b hb ac (Bool.eq_true_of_not_eq_false not)
    rw [ab] at after
    cases after
  have both := orders.ties a ha b hb c hc (by simp [tied, ab, ba]) (by simp [tied, bc, cb])
  simp [tied, ac] at both

/-- An order of elements is one of any of them. -/
theorem mono (orders : OrdersWeakly isAfter elements) {some : List Value}
    (among : some ⊆ elements) : OrdersWeakly isAfter some where
  irrefl a ha := orders.irrefl a (among ha)
  trans a ha b hb c hc := orders.trans a (among ha) b (among hb) c (among hc)
  ties a ha b hb c hc := orders.ties a (among ha) b (among hb) c (among hc)

end OrdersWeakly

section Ordered

variable {isAfter : Value → Value → Bool} {element : Value}
  {sorted elements result : List Value} {made more : List Comparison}

/-- Whether the answers of comparisons are those of an order. -/
def Follows (isAfter : Value → Value → Bool) (made : List Comparison) : Prop :=
  ∀ comparison ∈ made, comparison.isAfter = isAfter comparison.first comparison.second

theorem follows_cons {comparison : Comparison} :
    Follows isAfter (comparison :: made) ↔
      comparison.isAfter = isAfter comparison.first comparison.second ∧ Follows isAfter made :=
  List.forall_mem_cons

theorem follows_append :
    Follows isAfter (made ++ more) ↔ Follows isAfter made ∧ Follows isAfter more :=
  List.forall_mem_append

/-- Inserting an element keeps sorted ones in order. -/
theorem Inserts.descending (inserts : Inserts element sorted made result)
    (orders : OrdersWeakly isAfter (element :: sorted)) (follows : Follows isAfter made)
    (descending : sorted.Pairwise fun later earlier => isAfter earlier later = false) :
    result.Pairwise fun later earlier => isAfter earlier later = false := by
  induction inserts with
  | alone => exact List.pairwise_singleton _ _
  | @last last before =>
    have answer : isAfter last element = false := (follows_cons.mp follows).1.symm
    refine List.pairwise_cons.mpr ⟨fun earlier member => ?_, descending⟩
    rcases List.mem_cons.mp member with rfl | earlierStill
    · exact answer
    · have behind := (List.pairwise_cons.mp descending).1 earlier earlierStill
      exact orders.negTrans (by simp [earlierStill]) (by simp) (by simp) behind answer
  | @passed last before result made inserts ih =>
    obtain ⟨answer, others⟩ := follows_cons.mp follows
    obtain ⟨above, rest⟩ := List.pairwise_cons.mp descending
    have among : element :: before ⊆ element :: last :: before :=
      List.cons_subset_cons element (List.subset_cons_self last before)
    refine List.pairwise_cons.mpr ⟨fun earlier member => ?_, ih (orders.mono among) others rest⟩
    rcases List.mem_cons.mp (inserts.perm.mem_iff.mp member) with rfl | old
    · exact orders.asymm (by simp) (by simp) answer.symm
    · exact above earlier old

/-- An inserted element comes behind those that it is not told apart from. -/
theorem Inserts.filter_eq (inserts : Inserts element sorted made result)
    (orders : OrdersWeakly isAfter elements) (among : element :: sorted ⊆ elements)
    (follows : Follows isAfter made) {a : Value} (member : a ∈ elements) :
    result.filter (tied isAfter a) = (element :: sorted).filter (tied isAfter a) := by
  induction inserts with
  | alone => rfl
  | last => rfl
  | @passed last before result made inserts ih =>
    obtain ⟨answer, others⟩ := follows_cons.mp follows
    have fewer : element :: before ⊆ element :: last :: before :=
      List.cons_subset_cons element (List.subset_cons_self last before)
    have rest := ih (List.Subset.trans fewer among) others
    -- What is passed is told apart from the element, so the two are not in one class.
    have apart : tied isAfter a last = true → tied isAfter a element = true → False := by
      intro first second
      have back : tied isAfter last a = true := by
        rw [tied, Bool.and_comm]
        exact first
      have both := orders.ties last (among (by simp)) a member element (among (by simp)) back second
      simp [tied, ← answer] at both
    rw [List.filter_cons, rest, List.filter_cons, List.filter_cons, List.filter_cons]
    by_cases first : tied isAfter a last = true
    · by_cases second : tied isAfter a element = true
      · exact (apart first second).elim
      · rw [if_pos first, if_neg second, if_neg second, if_pos first]
    · rw [if_neg first, if_neg first]

/-- Inserting elements one after the other puts them in order. -/
theorem Sorts.isOrdered (sorts : Sorts sorted elements made result)
    (orders : OrdersWeakly isAfter (sorted ++ elements)) (follows : Follows isAfter made)
    (descending : sorted.Pairwise fun later earlier => isAfter earlier later = false) :
    (result.Pairwise fun later earlier => isAfter earlier later = false) ∧
      ∀ a ∈ sorted ++ elements, result.filter (tied isAfter a) =
        (elements.reverse ++ sorted).filter (tied isAfter a) := by
  induction sorts with
  | finished => exact ⟨descending, by simp⟩
  | @inserted element sorted rest middle result made more inserts _ ih =>
    obtain ⟨first, second⟩ := follows_append.mp follows
    have within : element :: sorted ⊆ sorted ++ element :: rest := by
      intro b here
      rcases List.mem_cons.mp here with rfl | old
      · simp
      · exact List.mem_append_left _ old
    have same := inserts.perm_append rest
    obtain ⟨ordered, stable⟩ := ih (orders.mono fun b here => same.mem_iff.mp here) second
      (inserts.descending (orders.mono within) first descending)
    refine ⟨ordered, fun a member => ?_⟩
    have inserted := inserts.filter_eq orders within first member
    rw [stable a (same.mem_iff.mpr member), List.filter_append, inserted, List.reverse_cons,
      List.append_assoc, List.singleton_append, List.filter_append]

end Ordered

end Library

end PluginSandbox.Script
