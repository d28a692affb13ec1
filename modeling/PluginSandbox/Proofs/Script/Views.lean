import PluginSandbox.Proofs.Number.Naturals
import PluginSandbox.Proofs.Script.Layers
import PluginSandbox.Proofs.Script.Writes
import PluginSandbox.Script.Evaluation
import PluginSandbox.Script.Library

/-!
# Reads through token views

A token view shows a module value with some attributes replaced by tokens. Whatever reads the own
properties of the view, member access, patterns, spreading and the functions of `Object`, sees the
same value of each key. `JSON` and `hasOwnProperty` look at the module value instead, past its
tokens.
-/
namespace PluginSandbox.Script

open Plugin (TokenView)

/-- The key of an index addresses the index. -/
theorem arrayIndex?_indexKey {index : Nat} (within : index < indexBound) :
    arrayIndex? (indexKey index) = some index := by
  obtain ⟨filled, all⟩ := Number.digitsOf_all index
  have present : (Number.digitsOf index).isEmpty = false := by simpa using filled
  have decimal : (Number.digitsOf index).all Number.isDigit = true := all
  unfold arrayIndex? indexKey
  dsimp only
  rw [String.toList_ofList, present, decimal, Number.ofDigits_digitsOf]
  by_cases zero : index = 0
  · subst zero
    rfl
  · have first := Number.head?_digitsOf (Nat.pos_of_ne_zero zero)
    simp [first, within]

/-- No index is called `length`. -/
theorem indexKey_ne_length {index : Nat} (within : index < indexBound) :
    indexKey index ≠ "length" := by
  intro same
  have none : arrayIndex? "length" = none := by decide
  rw [← same, arrayIndex?_indexKey within] at none
  cases none

namespace Properties

theorem isSome_get?_of_mem_keys {properties : Properties} {key : String}
    (member : key ∈ properties.keys) : (properties.get? key).isSome := by
  obtain ⟨entry, here, rfl⟩ := List.mem_map.mp member
  exact List.lookup_isSome_iff.mpr ⟨entry, here, by simp⟩

/-- A table with entries written one after the other. -/
def setAll (properties : Properties) (entries : List (String × Value)) : Properties :=
  entries.foldl (fun properties entry => properties.set entry.1 entry.2) properties

/-- Keys that are written have their values, and the others what they had. -/
theorem get?_setAll (seen : String → Value) (keys : List String) (properties : Properties)
    (key : String) :
    (properties.setAll (keys.map fun key => (key, seen key))).get? key =
      if key ∈ keys then some (seen key) else properties.get? key := by
  induction keys generalizing properties with
  | nil => rfl
  | cons first rest ih =>
    rw [List.map_cons]
    change ((properties.set first (seen first)).setAll _).get? key = _
    rw [ih, get?_set]
    by_cases later : key ∈ rest
    · simp [later]
    · by_cases here : key = first
      · simp [here]
      · simp [later, here]

end Properties

/-- Whether the table of an array has no key that addresses an element. -/
def Object.KeepsIndices : Object → Prop
  | .array elements properties =>
    elements.length ≤ indexBound ∧ ∀ key ∈ properties.keys, arrayIndex? key = none
  | _ => True

/-- An object has a property for each of its keys. -/
theorem Object.KeepsIndices.isSome_getOwn? {object : Object} (keeps : object.KeepsIndices)
    {key : String} (member : key ∈ object.ownKeys) : (object.getOwn? key).isSome := by
  cases object with
  | array elements properties =>
    obtain ⟨short, others⟩ := keeps
    rcases List.mem_append.mp member with isIndex | other
    · obtain ⟨index, inside, rfl⟩ := List.mem_map.mp isIndex
      have below : index < elements.length := List.mem_range.mp inside
      have within : index < indexBound := Nat.lt_of_lt_of_le below short
      simp [getOwn?, indexKey_ne_length within, arrayIndex?_indexKey within, below]
    · have present := Properties.isSome_get?_of_mem_keys other
      by_cases isLength : key = "length"
      · simp [getOwn?, isLength]
      · simp [getOwn?, isLength, others key other, present]
  | function name callable properties =>
    have present := Properties.isSome_get?_of_mem_keys member
    simp only [getOwn?]
    split
    · rfl
    · exact present
  | view shown => cases member
  | _ => exact Properties.isSome_get?_of_mem_keys member

namespace Heap

variable {heap : Heap} {ref target : Ref} {view : TokenView} {views : List TokenView}
  {shown value : Value} {properties : Properties} {key : String}

/-- Whether a value has a property of its own for each of its keys. -/
def OwnsKeys (heap : Heap) (value : Value) : Prop :=
  ∀ key ∈ heap.ownKeys value, (heap.getOwn? value key).isSome

/-- Values whose arrays keep their indices to their elements own their keys. -/
theorem ownsKeys_of_keepsIndices (bare : heap.Layered shown [] shown)
    (short : ∀ text, shown = .text text → text.length ≤ indexBound)
    (keeps : ∀ object, heap.objectOf? shown = some object → object.KeepsIndices) :
    heap.OwnsKeys shown := by
  intro key member
  rw [heap.getOwn?_eq, bare.layers_eq, bare.unwrap_eq]
  unfold ownKeys at member
  rw [bare.unwrap_eq] at member
  change (heap.plainOwn? shown key).isSome
  cases shown with
  | object ref =>
    dsimp only at member
    cases found : heap.object? ref with
    | none =>
      rw [found] at member
      cases member
    | some object =>
      rw [found] at member
      simp only [plainOwn?, found]
      exact (keeps object found).isSome_getOwn? member
  | text text =>
    obtain ⟨index, inside, rfl⟩ := List.mem_map.mp member
    have below : index < text.length := List.mem_range.mp inside
    have within : index < indexBound := Nat.lt_of_lt_of_le below (short text rfl)
    have short : index < text.toList.length := by
      rw [String.length_toList]
      exact below
    simp [plainOwn?, arrayIndex?_indexKey within, charAt?, short]
  | _ => cases member

/-- What a key of a view stands for: its token, or what the value behind the view has. -/
def seenThrough (heap : Heap) (view : TokenView) (key : String) : Value :=
  (view.lookup key).getD ((heap.getOwn? view.target key).getD .undefined)

section View

variable (found : heap.object? ref = some (.view view))
  (behind : heap.Layered view.target views shown)
include found behind

/-- A view has what its keys stand for. -/
theorem getOwn?_seenThrough (owns : heap.OwnsKeys shown) (member : key ∈ heap.ownKeys view.target) :
    heap.getOwn? (.object ref) key = some (heap.seenThrough view key) := by
  rw [behind.ownKeys_eq] at member
  obtain ⟨own, has⟩ := Option.isSome_iff_exists.mp (owns key member)
  have through : (heap.getOwn? view.target key).isSome := by
    rw [behind.getOwn?_eq, has]
    cases tokenIn? views key <;> rfl
  obtain ⟨part, reads⟩ := Option.isSome_iff_exists.mp through
  rw [getOwn?_view found behind, seenThrough, reads]
  cases view.lookup key <;> rfl

end View

/-- A write to one object leaves the others. -/
theorem object?_replace_of_ne {object : Object} (apart : ref ≠ target) :
    (heap.replace target object).object? ref = heap.object? ref := by
  have other : target.index ≠ ref.index := fun same => apart (congrArg Ref.mk same.symm)
  simp [object?, replace, other]

/-- A write to another ordinary object leaves the own properties of a value. -/
theorem getOwn?_replace (ordinary : heap.object? target = some (.ordinary properties))
    (others : Properties) (apart : heap.unwrap value ≠ .object target) (key : String) :
    (heap.replace target (.ordinary others)).getOwn? value key = heap.getOwn? value key := by
  have views : heap.SameViews (heap.replace target (.ordinary others)) :=
    sameViews_replace (by simp [ordinary]) (by simp)
  rw [getOwn?_eq, getOwn?_eq, unwrap, views.layers_eq]
  change _ = Option.or _ (heap.plainOwn? (heap.layers value).2 key)
  congr 1
  change (heap.layers value).2 ≠ .object target at apart
  cases shown : (heap.layers value).2 with
  | object other =>
    have different : other ≠ target := by
      rintro rfl
      exact apart shown
    simp only [plainOwn?, object?_replace_of_ne different]
  | _ => rfl

/-- A write of an object that is there already changes nothing. -/
theorem replace_self {object : Object} (found : heap.object? ref = some object) :
    heap.replace ref object = heap := by
  obtain ⟨bound, same⟩ := Array.getElem?_eq_some_iff.mp found
  unfold replace
  rw [Array.setIfInBounds_def, dif_pos bound, ← same, Array.set_getElem_self]

theorem replace_replace (first second : Object) :
    (heap.replace ref first).replace ref second = heap.replace ref second := by
  simp [replace]

end Heap

section Writing

variable {state : State} {target : Ref} {properties : Properties}

theorem writing_self (ordinary : state.heap.object? target = some (.ordinary properties)) :
    writing target properties state = state := by
  unfold writing
  rw [Heap.replace_self ordinary]

theorem writing_writing (first second : Properties) :
    writing target second (writing target first state) = writing target second state := by
  unfold writing
  dsimp only
  rw [Heap.replace_replace]

theorem object?_writing (ordinary : state.heap.object? target = some (.ordinary properties))
    (others : Properties) :
    (writing target others state).heap.object? target = some (.ordinary others) :=
  Heap.object?_replace (Option.isSome_of_mem ordinary) _

theorem writeProperty_writing (ordinary : state.heap.object? target = some (.ordinary properties))
    (others : Properties) (key : String) (value : Value) :
    writeProperty (.object target) key value (writing target others state) =
      .done () (writing target (others.set key value) state) := by
  rw [writeProperty_ordinary (object?_writing ordinary others), writing_writing]

/-- Entries are written one after the other. -/
theorem forM_writeProperty (ordinary : state.heap.object? target = some (.ordinary properties))
    (entries : List (String × Value)) (others : Properties) :
    (entries.forM fun entry => writeProperty (.object target) entry.1 entry.2)
        (writing target others state) =
      .done () (writing target (others.setAll entries) state) := by
  induction entries generalizing others with
  | nil => rfl
  | cons entry rest ih =>
    have step := writeProperty_writing ordinary others entry.1 entry.2
    exact (Code.bind_of_done step _).trans (ih (others.set entry.1 entry.2))

/-- Properties are read and written one after the other, if the writes do not change what is
read. -/
theorem forM_readWrite (ordinary : state.heap.object? target = some (.ordinary properties))
    {realm : RealmRef} {source : Value} {seen : String → Value} (keys : List String)
    (reads : ∀ key ∈ keys, ∀ others,
      (writing target others state).heap.read realm source key = .ok (seen key))
    (others : Properties) :
    (keys.forM fun key => do
        let value ← Code.tryHeap fun heap => heap.read realm source key
        writeProperty (.object target) key value : Eval Unit) (writing target others state) =
      .done () (writing target (others.setAll (keys.map fun key => (key, seen key))) state) := by
  induction keys generalizing others with
  | nil => rfl
  | cons key rest ih =>
    have now : (Code.tryHeap fun heap => heap.read realm source key : Eval Value)
        (writing target others state) = .done (seen key) (writing target others state) :=
      Code.tryHeap_of_ok (reads key List.mem_cons_self others)
    have step := (Code.bind_of_done now fun value => writeProperty (.object target) key value).trans
      (writeProperty_writing ordinary others key (seen key))
    have later := ih (fun other member => reads other (List.mem_cons_of_mem key member))
      (others.set key (seen key))
    exact (Code.bind_of_done step _).trans later

/-- Properties are read one after the other. -/
theorem mapM_read {realm : RealmRef} {source : Value} {seen : String → Value} (keys : List String)
    (reads : ∀ key ∈ keys, state.heap.read realm source key = .ok (seen key)) :
    (keys.mapM fun key => do
        return (key, ← Code.tryHeap fun heap => heap.read realm source key) :
          Eval (List (String × Value))) state =
      .done (keys.map fun key => (key, seen key)) state := by
  induction keys with
  | nil => rfl
  | cons key rest ih =>
    have now : (Code.tryHeap fun heap => heap.read realm source key : Eval Value) state =
        .done (seen key) state :=
      Code.tryHeap_of_ok (reads key List.mem_cons_self)
    have step := Code.bind_of_done now fun value => (pure (key, value) : Eval (String × Value))
    have later := ih fun other member => reads other (List.mem_cons_of_mem key member)
    rw [List.mapM_cons, Code.bind_of_done step, Code.bind_of_done later]
    rfl

end Writing

open Evaluation Library Syntax

/-- Whether all reads of the own properties of a value see the same ones. -/
structure ReadsAlike (state : State) (value : Value) (keys : List String)
    (seen : String → Value) : Prop where
  /-- Reads of own properties, as the library makes them. -/
  own : ∀ key ∈ keys, state.heap.getOwn? value key = some (seen key)
  /-- Access to a member, when its object and its key have been evaluated. -/
  member : ∀ (self : Interpreter) (context : Context) (object : Expr) (optional : Bool)
    (evaluateKey : Eval String) {before middle : State} {receiver : Value} {key : String},
    key ∈ keys → self.chain object context before = .done (.reached receiver value) middle →
    evaluateKey middle = .done key state →
    followRead self context object optional evaluateKey before =
      .done (.reached value (seen key)) state
  /-- Patterns for a property, when its key has been evaluated. -/
  pattern : ∀ (self : Interpreter) (context : Context) (isMutable : Bool) (property : PropertyKey)
    (part : Pattern) (isShort : Bool) (others : List PatternProperty) {before : State}
    {key : String}, key ∈ keys → evaluateKey self context property before = .done key state →
    bindProperties self context isMutable value (.mk property part isShort :: others) before =
      (do
        self.bind part (seen key) isMutable context
        return key :: (← bindProperties self context isMutable value others) :
          Eval (List String)) state
  /-- Patterns for the properties that are left. -/
  rest : ∀ (context : Context) (used : List String),
    remainingEntries context value used state =
      .done ((keys.filter fun key => !used.contains key).map fun key => (key, seen key)) state
  /-- Spreading into another object. -/
  spread : ∀ (context : Context) {target : Ref} {properties : Properties},
    state.heap.object? target = some (.ordinary properties) →
    state.heap.unwrap value ≠ .object target →
    ∃ written, spreadInto context (.object target) value state =
        .done () (writing target written state) ∧
      ∀ key, written.get? key = if key ∈ keys then some (seen key) else properties.get? key
  /-- The values of an object. -/
  values : ∀ (this : Value) (others : List Value),
    runObject .values this (value :: others) state = Code.createArray (keys.map seen) state
  /-- The keys of an object with their values. -/
  entries : ∀ (this : Value) (others : List Value),
    runObject .entries this (value :: others) state =
      ((keys.map fun key => (key, seen key)).mapM createPair >>= Code.createArray : Eval Value)
        state
  /-- Copying to another object. -/
  assign : ∀ (this : Value) {target : Ref} {properties : Properties},
    state.heap.object? target = some (.ordinary properties) →
    ∃ written, runObject .assign this [.object target, value] state =
        .done (.object target) (writing target written state) ∧
      ∀ key, written.get? key = if key ∈ keys then some (seen key) else properties.get? key

/-- All reads of a value see what it has, if it has a property for each of its keys. -/
theorem readsAlike_of_getOwn? {state : State} {value : Value} {seen : String → Value}
    (shown : value.isNullish = false)
    (own : ∀ key ∈ state.heap.ownKeys value, state.heap.getOwn? value key = some (seen key)) :
    ReadsAlike state value (state.heap.ownKeys value) seen := by
  have reads (realm : RealmRef) (key : String) (member : key ∈ state.heap.ownKeys value) :
      state.heap.read realm value key = .ok (seen key) :=
    state.heap.read_of_getOwn? realm (own key member)
  have entries : state.heap.ownEntries value =
      (state.heap.ownKeys value).map fun key => (key, seen key) := by
    apply List.map_congr_left
    intro key member
    rw [own key member]
    rfl
  have coerces : coercibleEntries state.heap value = .ok (state.heap.ownEntries value) := by
    simp [coercibleEntries, shown]
  refine ⟨own, ?_, ?_, ?_, ?_, ?_, ?_, ?_⟩
  · intro self context object optional evaluateKey before middle receiver key member chain found
    unfold followRead
    rw [Code.bind_of_done chain]
    dsimp only
    rw [shown, Bool.and_false, if_neg Bool.false_ne_true, Code.bind_of_done found,
      Code.bind_of_done (Code.tryHeap_of_ok (reads context.realm key member))]
    rfl
  · intro self context isMutable property part isShort others before key member found
    rw [bindProperties, Code.bind_of_done found,
      Code.bind_of_done (Code.tryHeap_of_ok (reads context.realm key member))]
  · intro context used
    have keys : (Code.readHeap fun heap => heap.ownKeys value : Eval (List String)) state =
        .done (state.heap.ownKeys value) state := rfl
    rw [remainingEntries, Code.bind_of_done keys]
    exact mapM_read _ fun key member => reads context.realm key (List.mem_filter.mp member).1
  · intro context target properties ordinary apart
    have keys : (Code.readHeap fun heap => heap.ownKeys value : Eval (List String)) state =
        .done (state.heap.ownKeys value) state := rfl
    have still (key : String) (member : key ∈ state.heap.ownKeys value) (others : Properties) :
        (writing target others state).heap.read context.realm value key = .ok (seen key) := by
      apply Heap.read_of_getOwn?
      rw [← own key member]
      exact Heap.getOwn?_replace ordinary others apart key
    have writes := forM_readWrite ordinary (state.heap.ownKeys value) still properties
    rw [writing_self ordinary] at writes
    refine ⟨_, ?_, Properties.get?_setAll seen _ properties⟩
    unfold spreadInto
    rw [shown, if_neg Bool.false_ne_true]
    exact (Code.bind_of_done keys _).trans writes
  · intro this others
    have lists : runObject .values this (value :: others) state =
        Code.createArray ((state.heap.ownEntries value).map (·.2)) state :=
      Code.bind_of_done (Code.tryHeap_of_ok coerces) _
    rw [lists, entries, List.map_map]
    rfl
  · intro this others
    have lists : runObject .entries this (value :: others) state =
        ((state.heap.ownEntries value).mapM createPair >>= Code.createArray : Eval Value) state :=
      Code.bind_of_done (Code.tryHeap_of_ok coerces) _
    rw [lists, entries]
  · intro this target properties ordinary
    have writes := forM_writeProperty ordinary (state.heap.ownEntries value) properties
    rw [writing_self ordinary] at writes
    refine ⟨properties.setAll (state.heap.ownEntries value), ?_, ?_⟩
    · have copies : copyProperties (.object target) value state =
          .done () (writing target (properties.setAll (state.heap.ownEntries value)) state) := by
        unfold copyProperties
        rw [shown, if_neg Bool.false_ne_true]
        exact (Code.bind_of_done (Code.tryHeap_of_ok coerces) _).trans writes
      have once : ([value].forM (copyProperties (.object target))) state =
          .done () (writing target (properties.setAll (state.heap.ownEntries value)) state) :=
        Code.bind_of_done copies _
      exact Code.bind_of_done once _
    · rw [entries]
      exact Properties.get?_setAll seen _ properties

section View

variable {state : State} {ref : Ref} {view : TokenView} {views : List TokenView} {shown : Value}

/-- A document shows a view as the value behind it. -/
theorem Heap.jsonOf_view {heap : Heap} (found : heap.object? ref = some (.view view))
    (behind : heap.Layered view.target views shown) :
    heap.jsonOf (.object ref) = heap.jsonOf view.target := by
  unfold jsonOf jsonWithin
  rw [(Layered.view found behind).unwrap_eq, behind.unwrap_eq]

/-- Reads through a token view, whose module value has a property for each of its keys.

Member access, patterns, spreading and the functions of `Object` see the same value of each key of
the module value: the token that is registered for it, or what the module value has. `in` finds all
keys that have a token. `hasOwnProperty` finds the keys of the module value, and a document shows
the module value; both look past the tokens. -/
theorem views_read_alike (found : state.heap.object? ref = some (.view view))
    (behind : state.heap.Layered view.target views shown) (owns : state.heap.OwnsKeys shown) :
    ReadsAlike state (.object ref) (state.heap.ownKeys view.target)
      (state.heap.seenThrough view) ∧
    (∀ realm key, (view.lookup key).isSome →
      state.heap.apply realm .isIn (.text key) (.object ref) = .ok (.boolean true)) ∧
    (∀ key ∈ state.heap.ownKeys view.target,
      runObject .hasOwnProperty (.object ref) [.text key] state = .done (.boolean true) state) ∧
    state.heap.jsonOf (.object ref) = state.heap.jsonOf view.target := by
  have layered := Heap.Layered.view found behind
  have keys := Heap.ownKeys_view found behind
  refine ⟨?_, fun realm key token => ?_, fun key member => ?_, Heap.jsonOf_view found behind⟩
  · rw [← keys]
    apply readsAlike_of_getOwn? rfl
    intro key member
    rw [keys] at member
    exact Heap.getOwn?_seenThrough found behind owns member
  · obtain ⟨value, registered⟩ := Option.isSome_iff_exists.mp token
    have finds : state.heap.hasProperty realm (.object ref) key = .ok true := by
      unfold Heap.hasProperty
      rw [layered.layers_eq]
      simp [Heap.tokenIn?, registered]
    simp only [Heap.apply, Heap.keyOf_text, finds]
    rfl
  · have own : (state.heap.getOwn? shown key).isSome := by
      apply owns
      rwa [← behind.ownKeys_eq]
    change Run.done (Value.boolean (state.heap.getOwn? (state.heap.unwrap (.object ref))
      (state.heap.keyOf (.text key))).isSome) state = _
    rw [layered.unwrap_eq, Heap.keyOf_text, own]

end View

/-- A module value behind tokens for two attributes. -/
def shadowingView : TokenView where
  module := "m"
  target := .object ⟨0⟩
  tokens := (({} : Plugin.TokenRegistry).register "m" "a" (.text "token")).register "m" "b"
    (.text "token")

/-- A module value with one of the attributes, and the view of it. -/
def shadowedState : State :=
  { heap := { objects := #[.ordinary (Properties.ofEntries [("a", .text "own")]),
    .view shadowingView] } }

/-- The module value is no view. -/
theorem layered_shadowedState : shadowedState.heap.Layered (.object ⟨0⟩) [] (.object ⟨0⟩) := by
  refine .plain fun view found => ?_
  cases found

/-- The token shadows the attribute in all reads. -/
theorem views_read_alike_shadowed :
    shadowedState.heap.object? ⟨1⟩ = some (.view shadowingView) ∧
      shadowedState.heap.Layered shadowingView.target [] (.object ⟨0⟩) ∧
      shadowedState.heap.OwnsKeys (.object ⟨0⟩) ∧
      shadowedState.heap.seenThrough shadowingView "a" = .text "token" ∧
      ReadsAlike shadowedState (.object ⟨1⟩) ["a"]
        (shadowedState.heap.seenThrough shadowingView) := by
  have found : shadowedState.heap.object? ⟨1⟩ = some (.view shadowingView) := rfl
  have owns : shadowedState.heap.OwnsKeys (.object ⟨0⟩) := by
    apply Heap.ownsKeys_of_keepsIndices layered_shadowedState
    · intro text never
      cases never
    · intro object found
      cases found
      trivial
  exact ⟨found, layered_shadowedState, owns, rfl,
    (views_read_alike found layered_shadowedState owns).1⟩

/-- A document shows the attribute behind a token, and a key that has a token alone is found by `in`
but not by `hasOwnProperty`. -/
theorem views_seen_past_tokens :
    let value : Value := .object ⟨1⟩
    shadowedState.heap.read ⟨0⟩ value "a" = .ok (.text "token") ∧
      shadowedState.heap.jsonOf value = .ok (some (.object [("a", .text "own")])) ∧
      shadowedState.heap.apply ⟨0⟩ .isIn (.text "b") value = .ok (.boolean true) ∧
      runObject .hasOwnProperty value [.text "b"] shadowedState =
        .done (.boolean false) shadowedState :=
  ⟨rfl, rfl, rfl, rfl⟩

end PluginSandbox.Script
