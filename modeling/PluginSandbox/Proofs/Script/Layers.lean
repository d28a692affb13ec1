import Mathlib.Data.List.Nodup
import Mathlib.Data.List.Perm.Subperm
import PluginSandbox.Script.Access

/-!
# Layers of token views

A token view shows another value, which may be a view again. Where the views around a value come to
an end, they are no more than there are objects, since none of them is met twice; so all of them are
taken off. What is done to a view is done to the value that it shows, except that a read asks the
tokens first.
-/
namespace PluginSandbox.Script

/-- References to different objects are no more than there are objects. -/
theorem Ref.length_le_of_nodup {refs : List Ref} {size : Nat} (distinct : refs.Nodup)
    (within : ∀ ref ∈ refs, ref.index < size) : refs.length ≤ size := by
  have injective : Function.Injective Ref.index := fun ⟨_⟩ ⟨_⟩ same => congrArg Ref.mk same
  have indices : (refs.map Ref.index).Nodup := distinct.map injective
  have among : refs.map Ref.index ⊆ List.range size := by
    intro index member
    obtain ⟨ref, here, rfl⟩ := List.mem_map.mp member
    exact List.mem_range.mpr (within ref here)
  have most := (List.subperm_of_subset indices among).length_le
  rwa [List.length_map, List.length_range] at most

namespace Heap

open Plugin (TokenView)

/-- The token views around a value, outermost first, and the value that they show in the end. -/
inductive Layered (heap : Heap) : Value → List TokenView → Value → Prop where
  /-- A value that is no view shows itself. -/
  | plain {value : Value} (bare : ∀ view, heap.objectOf? value ≠ some (.view view)) :
    Layered heap value [] value
  /-- A view shows what the value behind it shows. -/
  | view {ref : Ref} {view : TokenView} {views : List TokenView} {shown : Value}
    (found : heap.object? ref = some (.view view))
    (behind : Layered heap view.target views shown) :
    Layered heap (.object ref) (view :: views) shown

variable {heap : Heap} {value shown : Value} {views : List TokenView} {view : TokenView}
  {ref : Ref} {key : String}

/-- A value has one way of being seen. -/
theorem Layered.unique {views' : List TokenView} {shown' : Value}
    (layered : heap.Layered value views shown) (other : heap.Layered value views' shown') :
    views' = views ∧ shown' = shown := by
  induction layered generalizing views' shown' with
  | plain bare =>
    cases other with
    | plain _ => exact ⟨rfl, rfl⟩
    | view found _ => exact absurd found (bare _)
  | view found _ ih =>
    cases other with
    | plain bare => exact absurd found (bare _)
    | view found' behind =>
      obtain rfl : _ = _ := Object.view.inj (Option.some.inj (found'.symm.trans found))
      obtain ⟨rfl, rfl⟩ := ih behind
      exact ⟨rfl, rfl⟩

/-- The views around a value are different objects. -/
theorem Layered.refs (layered : heap.Layered value views shown) :
    ∃ refs : List Ref, refs.length = views.length ∧ refs.Nodup ∧
      ∀ ref ∈ refs, ref.index < heap.objects.size ∧
        ∃ inner, inner.length ≤ views.length ∧ heap.Layered (.object ref) inner shown := by
  induction layered with
  | plain _ => exact ⟨[], rfl, .nil, by simp⟩
  | @view ref view views shown found behind ih =>
    obtain ⟨refs, length, distinct, each⟩ := ih
    -- A view that was met again would have fewer views behind it than it has.
    have fresh : ref ∉ refs := by
      intro again
      obtain ⟨inner, most, same⟩ := (each ref again).2
      obtain ⟨rfl, _⟩ := (Layered.view found behind).unique same
      rw [List.length_cons] at most
      omega
    refine ⟨ref :: refs, by simp [length], List.nodup_cons.mpr ⟨fresh, distinct⟩, ?_⟩
    intro other member
    rcases List.mem_cons.mp member with rfl | later
    · have bound := (Array.getElem?_eq_some_iff.mp found).1
      exact ⟨bound, _, Nat.le_refl _, .view found behind⟩
    · obtain ⟨bound, inner, most, same⟩ := each other later
      exact ⟨bound, inner, Nat.le_succ_of_le most, same⟩

theorem Layered.length_le (layered : heap.Layered value views shown) :
    views.length ≤ heap.objects.size := by
  obtain ⟨refs, length, distinct, each⟩ := layered.refs
  have most := Ref.length_le_of_nodup distinct fun ref member => (each ref member).1
  omega

/-- A bound that the views do not exceed is enough to take all of them off. -/
theorem Layered.layersWithin_eq (layered : heap.Layered value views shown) {bound : Nat}
    (enough : views.length ≤ bound) : heap.layersWithin bound value = (views, shown) := by
  induction layered generalizing bound with
  | @plain value bare =>
    cases bound with
    | zero => rfl
    | succ bound =>
      cases value with
      | object ref =>
        have other : ∀ view, heap.object? ref ≠ some (.view view) := bare
        unfold layersWithin
        split
        · rename_i view found
          exact absurd found (other view)
        · rfl
      | _ => rfl
  | view found _ ih =>
    rw [List.length_cons] at enough
    cases bound with
    | zero => omega
    | succ bound =>
      unfold layersWithin
      rw [found]
      dsimp only
      rw [ih (by omega)]

theorem Layered.layers_eq (layered : heap.Layered value views shown) :
    heap.layers value = (views, shown) :=
  layered.layersWithin_eq layered.length_le

theorem Layered.unwrap_eq (layered : heap.Layered value views shown) :
    heap.unwrap value = shown :=
  congrArg Prod.snd layered.layers_eq

/-- What a view shows is no view. -/
theorem Layered.shown_bare (layered : heap.Layered value views shown) :
    heap.Layered shown [] shown := by
  induction layered with
  | plain bare => exact .plain bare
  | view _ _ ih => exact ih

theorem Layered.ownKeys_eq (layered : heap.Layered value views shown) :
    heap.ownKeys value = heap.ownKeys shown := by
  unfold ownKeys
  rw [layered.unwrap_eq, layered.shown_bare.unwrap_eq]

/-- The own property of a value that is no view. -/
def plainOwn? (heap : Heap) : Value → String → Option Value
  | .object ref, key => (heap.object? ref).bind fun object => object.getOwn? key
  | .text text, key => (arrayIndex? key).bind (charAt? text)
  | _, _ => none

/-- Tokens and the properties of what is shown are the own properties of a value. -/
theorem getOwn?_eq (heap : Heap) (value : Value) (key : String) :
    heap.getOwn? value key =
      (tokenIn? (heap.layers value).1 key).or (heap.plainOwn? (heap.unwrap value) key) := by
  unfold getOwn? unwrap
  generalize heap.layers value = seen
  obtain ⟨views, shown⟩ := seen
  dsimp only
  cases tokenIn? views key with
  | some token => rfl
  | none => cases shown <;> rfl

theorem Layered.getOwn?_eq (layered : heap.Layered value views shown) (key : String) :
    heap.getOwn? value key = (tokenIn? views key).or (heap.getOwn? shown key) := by
  rw [heap.getOwn?_eq value, heap.getOwn?_eq shown, layered.unwrap_eq, layered.layers_eq,
    layered.shown_bare.unwrap_eq, layered.shown_bare.layers_eq]
  rfl

section View

variable (found : heap.object? ref = some (.view view))
  (behind : heap.Layered view.target views shown)
include found behind

/-- The own property of a view is a token, or that of the value that it shows. -/
theorem getOwn?_view (key : String) :
    heap.getOwn? (.object ref) key = (view.lookup key).or (heap.getOwn? view.target key) := by
  rw [(Layered.view found behind).getOwn?_eq, behind.getOwn?_eq, tokenIn?, List.findSome?_cons]
  cases view.lookup key <;> rfl

/-- The keys of a view are those of the value that it shows. -/
theorem ownKeys_view : heap.ownKeys (.object ref) = heap.ownKeys view.target :=
  (Layered.view found behind).ownKeys_eq.trans behind.ownKeys_eq.symm

end View

/-- Whether a heap has the same token views at the same places as another one. -/
structure SameViews (heap heap' : Heap) : Prop where
  /-- It has as many objects. -/
  size : heap'.objects.size = heap.objects.size
  /-- Each view is found in both. -/
  views : ∀ ref view, heap'.object? ref = some (.view view) ↔ heap.object? ref = some (.view view)

/-- What a value is seen through depends on the views alone. -/
theorem SameViews.layers_eq {heap' : Heap} (same : heap.SameViews heap') (value : Value) :
    heap'.layers value = heap.layers value := by
  have all (bound : Nat) (value : Value) :
      heap'.layersWithin bound value = heap.layersWithin bound value := by
    induction bound generalizing value with
    | zero => rfl
    | succ bound ih =>
      cases value with
      | object ref =>
        unfold layersWithin
        by_cases isView : ∃ view, heap.object? ref = some (.view view)
        · obtain ⟨view, found⟩ := isView
          rw [found, (same.views ref view).mpr found]
          dsimp only
          rw [ih]
        · have bare (view : TokenView) : heap.object? ref ≠ some (.view view) :=
            fun found => isView ⟨view, found⟩
          have bare' (view : TokenView) : heap'.object? ref ≠ some (.view view) :=
            fun found => bare view ((same.views ref view).mp found)
          split
          · rename_i view found
            exact absurd found (bare' view)
          · rfl
      | _ => rfl
  unfold layers
  rw [same.size, all]

/-- A write to an object that is no view, and does not become one, leaves the views. -/
theorem sameViews_replace {object : Object} (old : ∀ view, heap.object? ref ≠ some (.view view))
    (new : ∀ view, object ≠ .view view) : heap.SameViews (heap.replace ref object) := by
  refine ⟨by simp [replace], fun other view => ?_⟩
  unfold replace object?
  rw [Array.getElem?_setIfInBounds]
  by_cases here : ref.index = other.index
  · have same : ref = other := congrArg Ref.mk here
    subst same
    have before := old view
    have after := new view
    unfold object? at before
    simp only [if_true]
    constructor
    · intro found
      split at found
      · exact absurd (Option.some.inj found) after
      · cases found
    · intro found
      exact absurd found before
  · rw [if_neg here]

end Heap

end PluginSandbox.Script
