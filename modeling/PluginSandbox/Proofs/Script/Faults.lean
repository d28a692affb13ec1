import PluginSandbox.Script.Library.Numbers
import PluginSandbox.Script.Library.Objects
import PluginSandbox.Script.Library.Strings

/-!
# Faults of scripts

Computations on a heap fail with errors of the interpreter. None of them fails as an import does,
so the failure of an import comes from an import alone.
-/
namespace PluginSandbox.Script

/-- Whether an error is no failure of an import. -/
def RuntimeError.IsFault : RuntimeError → Prop
  | .importFailed _ => False
  | _ => True

/-- Whether a computation fails with faults alone. -/
def Faulty {α : Type} (result : Except RuntimeError α) : Prop :=
  ∀ error, result = .error error → error.IsFault

namespace Faulty

variable {α β : Type}

theorem ok (value : α) : Faulty (.ok value) := nofun

theorem error {problem : RuntimeError} (fault : problem.IsFault) :
    Faulty (α := α) (.error problem) := by
  rintro _ ⟨⟩
  exact fault

theorem ite {condition : Prop} [Decidable condition] {yes no : Except RuntimeError α}
    (first : Faulty yes) (second : Faulty no) : Faulty (if condition then yes else no) := by
  split
  · exact first
  · exact second

theorem bind {first : Except RuntimeError α} {next : α → Except RuntimeError β}
    (faulty : Faulty first) (later : ∀ value, Faulty (next value)) : Faulty (first >>= next) := by
  cases first with
  | ok value => exact later value
  | error problem => exact error (faulty problem rfl)

theorem map {result : Except RuntimeError α} (f : α → β) (faulty : Faulty result) :
    Faulty (f <$> result) := by
  cases result with
  | ok value => exact ok (f value)
  | error problem => exact error (faulty problem rfl)

theorem mapM {items : List α} {f : α → Except RuntimeError β} (each : ∀ item, Faulty (f item)) :
    Faulty (items.mapM f) := by
  rw [← List.mapM'_eq_mapM]
  induction items with
  | nil => exact ok []
  | cons item rest ih => exact (each item).bind fun value => ih.bind fun values => ok _

end Faulty

section Objects

theorem checkedLength_faulty (length : Nat) : Faulty (checkedLength length) := by
  unfold checkedLength
  exact .ite (.ok _) (.error trivial)

theorem lengthOfNumber_faulty (number : Float) : Faulty (lengthOfNumber number) := by
  unfold lengthOfNumber
  split
  · exact .ite (checkedLength_faulty _) (.error trivial)
  · exact .error trivial

theorem checkedTextSize_faulty (size : Nat) : Faulty (checkedTextSize size) := by
  unfold checkedTextSize
  exact .ite (.ok _) (.error trivial)

theorem setOwn_faulty (object : Object) (key : String) (length : Float) (value : Value) :
    Faulty (object.setOwn key length value) := by
  cases object with
  | array elements properties =>
    simp only [Object.setOwn, Object.setElement]
    refine .ite ((lengthOfNumber_faulty length).bind fun _ => .ok _) ?_
    split
    · exact .ite (.ok _) ((checkedLength_faulty _).bind fun _ => .ok _)
    · exact .ok _
  | view shown => exact .error trivial
  | _ => exact .ok _

end Objects

namespace Heap

variable (heap : Heap) (realm : RealmRef)

theorem readName_faulty (environment : Environment) (name : String) :
    Faulty (heap.readName environment name) := by
  unfold readName
  split
  · exact .ok _
  · exact .error trivial
  · exact .error trivial

theorem writableScope_faulty (environment : Environment) (name : String) :
    Faulty (heap.writableScope environment name) := by
  unfold writableScope
  split
  · exact .error trivial
  · exact .error trivial
  · exact .ok _
  · exact .error trivial

theorem readPlain_faulty (value : Value) (key : String) :
    Faulty (heap.readPlain realm value key) := by
  cases value with
  | undefined => exact .error trivial
  | null => exact .error trivial
  | boolean value => exact .ok _
  | number value => exact .ok _
  | text text =>
    simp only [readPlain]
    refine .ite (.ok _) ?_
    split <;> exact .ok _
  | object ref =>
    simp only [readPlain]
    split
    · split <;> exact .ok _
    · exact .ok _

theorem read_faulty (value : Value) (key : String) : Faulty (heap.read realm value key) := by
  simp only [read]
  split
  · exact .ok _
  · exact heap.readPlain_faulty realm _ key

theorem written_faulty (target : Value) (key : String) (value : Value) :
    Faulty (heap.written target key value) := by
  simp only [written]
  split
  · exact (setOwn_faulty _ key _ value).bind fun _ => .ok _
  all_goals exact .error trivial

theorem hasProperty_faulty (value : Value) (key : String) :
    Faulty (heap.hasProperty realm value key) := by
  unfold hasProperty
  split
  · refine .ite (.ok _) ?_
    split <;> exact .ok _
  · exact .error trivial

theorem itemsOf_faulty (value : Value) : Faulty (heap.itemsOf value) := by
  unfold itemsOf
  split
  · exact .ok _
  · split
    · exact .ok _
    · exact .error trivial

theorem instanceOf_faulty (value constructor : Value) :
    Faulty (heap.instanceOf value constructor) := by
  unfold instanceOf
  split
  · split
    · exact .ok _
    · refine .ite (.ok _) ?_
      split <;> exact .ok _
  · exact .error trivial

theorem jsonMembers_faulty {convert : Value → Except RuntimeError (Option Json)}
    (each : ∀ value, Faulty (convert value)) (members : List (String × Value)) :
    Faulty (jsonMembers convert members) := by
  induction members with
  | nil => exact .ok _
  | cons member rest ih =>
    exact (each member.2).bind fun json? => ih.bind fun members => by
      cases json? <;> exact .ok _

theorem jsonWithin_faulty (bound : Nat) (inside : List Ref) (value : Value) :
    Faulty (heap.jsonWithin bound inside value) := by
  induction bound generalizing inside value with
  | zero => exact .error trivial
  | succ bound ih =>
    simp only [jsonWithin]
    split
    case h_6 ref _ =>
      refine .ite (.error trivial) ?_
      split
      · exact .ok _
      · exact (Faulty.mapM fun element => (ih _ element).bind fun _ => .ok _).bind fun _ => .ok _
      · exact (jsonMembers_faulty (fun value => ih _ value) _).bind fun _ => .ok _
    all_goals exact .ok _

theorem jsonOf_faulty (value : Value) : Faulty (heap.jsonOf value) :=
  heap.jsonWithin_faulty _ _ value

end Heap

theorem joinTexts_faulty (left right : String) : Faulty (joinTexts left right) :=
  (checkedTextSize_faulty _).bind fun _ => .ok _

namespace Heap

variable (heap : Heap) (realm : RealmRef)

theorem add_faulty (left right : Value) : Faulty (heap.add left right) := by
  unfold add
  split
  · exact (joinTexts_faulty _ _).map _
  · exact (joinTexts_faulty _ _).map _
  · exact .ok _

theorem apply_faulty (operator : Syntax.BinaryOperator) (left right : Value) :
    Faulty (heap.apply realm operator left right) := by
  cases operator with
  | add => exact heap.add_faulty left right
  | isIn => exact (heap.hasProperty_faulty realm right _).map _
  | instanceOf => exact (heap.instanceOf_faulty left right).map _
  | _ => exact .ok _

end Heap

namespace Library

variable (heap : Heap)

theorem concatenate_faulty (elements values : List Value) :
    Faulty (concatenate heap elements values) := by
  induction values generalizing elements with
  | nil => exact .ok _
  | cons value rest ih =>
    unfold concatenate
    split
    · exact (checkedLength_faulty _).bind fun _ => ih _
    · exact ih _

theorem coercibleEntries_faulty (value : Value) : Faulty (coercibleEntries heap value) := by
  unfold coercibleEntries
  exact .ite (.error trivial) (.ok _)

theorem numberText_faulty (number : Float) (base : Nat) : Faulty (numberText number base) := by
  unfold numberText
  exact .ite (.ok _) (.ite (.error trivial) (.ok _))

theorem fixedText_faulty (number places : Float) : Faulty (fixedText number places) := by
  simp only [fixedText]
  exact .ite (.error trivial) (.ok _)

theorem repeatText_faulty (text : String) (count : Value) :
    Faulty (repeatText heap text count) := by
  unfold repeatText
  exact .ite (.error trivial) (.ite (.ok _) (.ite (.error trivial) (.ok _)))

theorem padding_faulty (text : String) (arguments : List Value) :
    Faulty (padding heap text arguments) := by
  unfold padding
  exact .ite (.error trivial) (.ite (.ok _) (.ok _))

theorem concatTexts_faulty (text : String) (values : List Value) :
    Faulty (concatTexts heap text values) := by
  induction values generalizing text with
  | nil => exact .ok _
  | cons value rest ih => exact (joinTexts_faulty text _).bind fun text => ih text

theorem applyText_faulty (function : TextFunction) (text : String) (arguments : List Value) :
    Faulty (applyText heap function text arguments) := by
  cases function with
  | repeated => exact (repeatText_faulty heap text _).map _
  | padStart => exact (padding_faulty heap text arguments).bind fun _ => .ok _
  | padEnd => exact (padding_faulty heap text arguments).bind fun _ => .ok _
  | concat => exact (concatTexts_faulty heap text arguments).map _
  | charCodeAt =>
    simp only [applyText]
    split <;> exact .ok _
  | _ => exact .ok _

end Library

end PluginSandbox.Script
