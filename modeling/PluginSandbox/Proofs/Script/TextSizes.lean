import PluginSandbox.Proofs.Number.Order
import PluginSandbox.Proofs.Script.Runs
import PluginSandbox.Script.Evaluation

/-!
# How long texts get

A script may not build texts beyond a limit of bytes. Additions, templates, repetitions and
concatenations keep to it: they yield a text within the limit or raise a range error. Filling a
text up compares a count of characters with the limit, which is the same only for characters of
one byte, and joining the elements of an array looks at the separators alone.
-/
namespace PluginSandbox.Script

/-- The bytes of a text are those of its characters. -/
theorem utf8ByteSize_ofList (chars : List Char) :
    (String.ofList chars).utf8ByteSize = (chars.map Char.utf8Size).sum := by
  induction chars with
  | nil => rfl
  | cons c rest ih =>
    have split : String.ofList (c :: rest) = String.singleton c ++ String.ofList rest := by
      rw [String.singleton_eq_ofList, ← String.ofList_append, List.singleton_append]
    rw [split, String.utf8ByteSize_append, String.utf8ByteSize_singleton, ih, List.map_cons,
      List.sum_cons]

theorem utf8ByteSize_eq (text : String) :
    text.utf8ByteSize = (text.toList.map Char.utf8Size).sum := by
  rw [← utf8ByteSize_ofList, String.ofList_toList]

/-- Repetitions of characters have so many times their bytes. -/
theorem sum_replicate_flatten (count : Nat) (chars : List Char) :
    ((List.replicate count chars).flatten.map Char.utf8Size).sum =
      count * (chars.map Char.utf8Size).sum := by
  induction count with
  | zero => simp
  | succ count ih =>
    rw [List.replicate_succ, List.flatten_cons, List.map_append, List.sum_append, ih,
      Nat.succ_mul, Nat.add_comm]

/-- The bytes of texts with a separator between them. -/
theorem utf8ByteSize_intercalate (separator : String) (texts : List String) :
    (separator.intercalate texts).utf8ByteSize =
      (texts.map String.utf8ByteSize).sum + separator.utf8ByteSize * (texts.length - 1) := by
  induction texts with
  | nil => rfl
  | cons text rest ih =>
    cases rest with
    | nil => simp
    | cons next others =>
      rw [String.intercalate_cons_cons, String.utf8ByteSize_append, String.utf8ByteSize_append, ih]
      simp only [List.map_cons, List.sum_cons, List.length_cons, Nat.add_sub_cancel, Nat.mul_add,
        Nat.mul_one]
      omega

/-- A text of characters of one byte has as many bytes as characters. -/
theorem utf8ByteSize_of_narrow {text : String} (narrow : ∀ c ∈ text.toList, c.utf8Size = 1) :
    text.utf8ByteSize = text.length := by
  rw [utf8ByteSize_eq, List.map_congr_left narrow, List.map_const', List.sum_replicate,
    String.length_toList, smul_eq_mul, Nat.mul_one]

/-- A text has at most as many characters as bytes. -/
theorem length_le_utf8ByteSize (text : String) : text.length ≤ text.utf8ByteSize := by
  rw [utf8ByteSize_eq, ← String.length_toList, ← List.length_map Char.utf8Size]
  apply List.length_le_sum_of_one_le
  intro size member
  obtain ⟨c, _, rfl⟩ := List.mem_map.mp member
  exact c.utf8Size_pos

/-- Whether an outcome is a text of a size within the limit, or a range error. -/
def Confined (size : String → Nat) : Except RuntimeError Value → Prop
  | .ok (.text text) => size text ≤ maximumTextSize
  | .ok _ => False
  | .error error => ∃ message, error = .range message

/-- A text of characters of one byte that is within the limit in characters is so in bytes. -/
theorem Confined.of_narrow {outcome : Except RuntimeError Value}
    (confined : Confined String.length outcome)
    (narrow : ∀ text, outcome = .ok (.text text) → ∀ c ∈ text.toList, c.utf8Size = 1) :
    Confined String.utf8ByteSize outcome := by
  match outcome with
  | .ok (.text text) =>
    change text.utf8ByteSize ≤ maximumTextSize
    rw [utf8ByteSize_of_narrow (narrow text rfl)]
    exact confined
  | .ok .undefined | .ok .null | .ok (.boolean _) | .ok (.number _) | .ok (.object _) =>
    exact confined
  | .error _ => exact confined

/-- Two texts are joined if the result is within the limit. -/
theorem joinTexts_cases (left right : String) :
    joinTexts left right = .error invalidTextSize ∨
      joinTexts left right = .ok (left ++ right) ∧
        (left ++ right).utf8ByteSize ≤ maximumTextSize := by
  unfold joinTexts checkedTextSize
  split
  case isTrue fits =>
    rw [← String.utf8ByteSize_append] at fits
    exact .inr ⟨rfl, fits⟩
  case isFalse => exact .inl rfl

/-- Two joined texts are within the limit, however long they are. -/
theorem confined_joinTexts (left right : String) :
    Confined String.utf8ByteSize (.text <$> joinTexts left right) := by
  rcases joinTexts_cases left right with fails | ⟨joins, within⟩
  · rw [fails]
    exact ⟨_, rfl⟩
  · rw [joins]
    exact within

/-- A sum is a number or a text within the limit. -/
theorem confined_add (heap : Heap) (left right : Value) :
    (∃ number, heap.add left right = .ok (.number number)) ∨
      Confined String.utf8ByteSize (heap.add left right) := by
  unfold Heap.add
  split
  · exact .inr (confined_joinTexts _ _)
  · exact .inr (confined_joinTexts _ _)
  · exact .inl ⟨_, rfl⟩

namespace Library

/-- A repeated text is within the limit, however long it is. -/
theorem confined_repeatText (heap : Heap) (text : String) (count : Value) :
    Confined String.utf8ByteSize (.text <$> repeatText heap text count) := by
  unfold repeatText
  dsimp only
  generalize Number.truncated (heap.numberOf count) = number
  generalize (if number.isNaN then 0.0 else number) = number
  split
  · exact ⟨_, rfl⟩
  · split
    case isTrue empty =>
      have none : text.utf8ByteSize = 0 := String.isEmpty_iff_utf8ByteSize_eq_zero.mp empty
      change text.utf8ByteSize ≤ maximumTextSize
      rw [none]
      exact Nat.zero_le _
    case isFalse =>
      split
      · exact ⟨_, rfl⟩
      case isFalse fits =>
        change (String.ofList _).utf8ByteSize ≤ maximumTextSize
        rw [utf8ByteSize_ofList, sum_replicate_flatten, ← utf8ByteSize_eq]
        exact Nat.le_of_not_lt fits

/-- Concatenated texts are within the limit if the first one is. -/
theorem confined_concatTexts (heap : Heap) (values : List Value) :
    ∀ {text : String}, text.utf8ByteSize ≤ maximumTextSize →
      Confined String.utf8ByteSize (.text <$> concatTexts heap text values) := by
  induction values with
  | nil =>
    intro text within
    exact within
  | cons value rest ih =>
    intro text within
    rw [concatTexts]
    rcases joinTexts_cases text (heap.textOf value) with fails | ⟨joins, fits⟩
    · rw [fails]
      exact ⟨_, rfl⟩
    · rw [joins]
      exact ih fits

/-- What a text is filled up with takes it to the length that is asked for, or is nothing. -/
theorem fill_cases {length : Nat} (text filler : String) (least : length ≤ maximumTextSize) :
    ∃ filled : String,
      (if length ≤ text.length || filler.isEmpty then .ok ""
        else .ok (String.ofList (cycled (length - text.length) filler.toList)) :
        Except RuntimeError String) = .ok filled ∧
      (text.length ≤ maximumTextSize → text.length + filled.length ≤ maximumTextSize) := by
  by_cases done : (length ≤ text.length || filler.isEmpty) = true
  · rw [if_pos done]
    exact ⟨"", rfl, fun within => within⟩
  · rw [if_neg done]
    have taken : (cycled (length - text.length) filler.toList).length ≤ length - text.length :=
      List.length_take_le _ _
    refine ⟨_, rfl, fun _ => ?_⟩
    rw [Bool.or_eq_true, decide_eq_true_iff, not_or] at done
    rw [String.length_ofList]
    omega

/-- Filling up fails with a range error, or gives a text of at most so many characters as the limit
has bytes if the text was not longer before. -/
theorem padding_cases (heap : Heap) (text : String) (arguments : List Value) :
    padding heap text arguments = .error invalidTextSize ∨
      ∃ filled, padding heap text arguments = .ok filled ∧
        (text.length ≤ maximumTextSize → text.length + filled.length ≤ maximumTextSize) := by
  unfold padding
  dsimp only
  split
  · exact .inl rfl
  case isFalse notAbove =>
    have least :
        Number.clampToWord 64 (heap.numberOf (argument arguments 0)) ≤ maximumTextSize := by
      have cut := Number.clampToInt_le_of_not_lt (1 <<< 64 - 1 : Nat) (by decide) (by decide)
        notAbove
      rw [Number.clampToWord]
      omega
    exact .inr (fill_cases text _ least)

/-- A text that was filled up is within the limit if characters are counted. -/
theorem confined_pad (heap : Heap) {function : TextFunction}
    (pads : function = .padStart ∨ function = .padEnd) {text : String}
    (within : text.utf8ByteSize ≤ maximumTextSize) (arguments : List Value) :
    Confined String.length (applyText heap function text arguments) := by
  have short : text.length ≤ maximumTextSize := (length_le_utf8ByteSize text).trans within
  rcases padding_cases heap text arguments with fails | ⟨filled, fills, most⟩
  · rcases pads with rfl | rfl
    · rw [applyText, fails]
      exact ⟨_, rfl⟩
    · rw [applyText, fails]
      exact ⟨_, rfl⟩
  · have both := most short
    rcases pads with rfl | rfl
    · rw [applyText, fills]
      change (filled ++ text).length ≤ maximumTextSize
      rw [String.length_append]
      omega
    · rw [applyText, fills]
      change (text ++ filled).length ≤ maximumTextSize
      rw [String.length_append]
      exact both

/-- A function on texts ends at once. -/
theorem runString_onText {this : Value} {text : String} {state : State}
    (receives : receiverText this state = .done text state) (function : TextFunction)
    (arguments : List Value) :
    runString (.onText function) this arguments state =
      .ended (applyText state.heap function text arguments) state := by
  rw [runString, Code.bind_of_done receives, Code.tryHeap_apply]

/-- The text between joined elements. -/
def separatorText (heap : Heap) (separator : Value) : String :=
  if separator.isUndefined then "," else heap.textOf separator

/-- How many bytes the texts of joined elements have together. -/
def elementsSize (heap : Heap) (elements : List Value) : Nat :=
  (elements.map fun element =>
    (if element.isNullish then "" else heap.textOf element).utf8ByteSize).sum

theorem utf8ByteSize_joinElements (heap : Heap) (separator : String) (elements : List Value) :
    (joinElements heap separator elements).utf8ByteSize =
      elementsSize heap elements + separator.utf8ByteSize * (elements.length - 1) := by
  rw [joinElements, utf8ByteSize_intercalate, List.map_map, List.length_map]
  rfl

/-- Joining checks the bytes of the separators, with one for each element, and nothing else. -/
theorem joinReceiver_apply {this : Value} {elements : List Value} {state : State}
    (receives : state.heap.elementsOf? (state.heap.unwrap this) = some elements)
    (separator : Value) :
    joinReceiver this separator state =
      .ended
        (if (separatorText state.heap separator).utf8ByteSize * elements.length ≤ maximumTextSize
          then .ok (.text (joinElements state.heap (separatorText state.heap separator) elements))
          else .error invalidTextSize) state := by
  have reads : receiverElements this "join" state = .done elements state := by
    apply Code.tryHeap_of_ok
    rw [receives]
  rw [joinReceiver, Code.bind_of_done reads, Code.tryHeap_apply]
  congr 1
  change (do
    let _ ← checkedTextSize ((separatorText state.heap separator).utf8ByteSize * elements.length)
    return Value.text (joinElements state.heap (separatorText state.heap separator) elements)) = _
  unfold checkedTextSize
  split <;> rfl

end Library

open Evaluation Library
open Syntax (Expr)

/-- A template comes to a text within the limit or to a range error, unless one of its expressions
fails. -/
theorem comesTo_evaluateTemplate {self : Interpreter} {context : Context}
    {others : State → State → Prop} {outcome : Except RuntimeError Value} {after : State}
    (quasis : List String) :
    ∀ {expressions : List Expr} {text : String} {before : State},
      text.utf8ByteSize ≤ maximumTextSize →
      (evaluateTemplate self context text quasis expressions before).ComesTo others outcome after →
      Confined String.utf8ByteSize outcome ∨ ∃ e ∈ expressions, ∃ state error,
        outcome = .error error ∧
          (self.expression e context state).ComesTo others (.error error) after := by
  induction quasis with
  | nil =>
    intro expressions text before within comes
    obtain ⟨rfl, _⟩ := comes
    exact .inl within
  | cons quasi quasis ih =>
    intro expressions text before within comes
    rcases joinTexts_cases text quasi with fails | ⟨joins, fits⟩
    · have range : outcome = .error invalidTextSize := by
        cases expressions with
        | nil =>
          rw [evaluateTemplate, fails] at comes
          exact comes.1
        | cons e expressions =>
          rw [evaluateTemplate, fails] at comes
          exact comes.1
      rw [range]
      exact .inl ⟨_, rfl⟩
    cases expressions with
    | nil =>
      rw [evaluateTemplate, joins] at comes
      exact ih fits comes
    | cons e expressions =>
      rw [evaluateTemplate, joins] at comes
      rcases Code.comesTo_bind.mp comes with ⟨joined, start, same, goesOn⟩ | ⟨_, _, never, _⟩
      · obtain ⟨⟨⟩, rfl⟩ := same
        rcases Code.comesTo_bind.mp goesOn with
          ⟨value, middle, _, shown⟩ | ⟨error, rfl, fails⟩
        · rcases joinTexts_cases (text ++ quasi) (middle.heap.textOf value) with
            tooLong | ⟨appends, short⟩
          · rw [Code.bind_of_failed (Code.tryHeap_of_error tooLong)] at shown
            rw [shown.1]
            exact .inl ⟨_, rfl⟩
          · rw [Code.bind_of_done (Code.tryHeap_of_ok appends)] at shown
            rcases ih short shown with confined | ⟨e', member, rest⟩
            · exact .inl confined
            · exact .inr ⟨e', List.mem_cons_of_mem e member, rest⟩
        · exact .inr ⟨e, List.mem_cons_self, start, error, rfl, fails⟩
      · cases never

/-- Texts that scripts build by additions, templates, repetitions and concatenations are within the
limit or refused with a range error. A text that is filled up is so if its characters take one byte
each. Elements are joined if the separators are within the limit, whatever the elements add. -/
theorem text_results_confined (self : Interpreter) (realm : RealmRef) (state : State) :
    (∀ left right, (∃ number, state.heap.apply realm .add left right = .ok (.number number)) ∨
      Confined String.utf8ByteSize (state.heap.apply realm .add left right)) ∧
    (∀ context quasis expressions others outcome after,
      (evaluate self context (.template quasis expressions) state).ComesTo others outcome after →
        Confined String.utf8ByteSize outcome ∨ ∃ e ∈ expressions, ∃ middle error,
          outcome = .error error ∧
            (self.expression e context middle).ComesTo others (.error error) after) ∧
    (∀ function this text arguments, receiverText this state = .done text state →
      text.utf8ByteSize ≤ maximumTextSize →
        ∃ outcome, runString (.onText function) this arguments state = .ended outcome state ∧
          (function = .repeated ∨ function = .concat → Confined String.utf8ByteSize outcome) ∧
          (function = .padStart ∨ function = .padEnd → Confined String.length outcome ∧
            ((∀ padded, outcome = .ok (.text padded) → ∀ c ∈ padded.toList, c.utf8Size = 1) →
              Confined String.utf8ByteSize outcome))) ∧
    (∀ this arguments elements, state.heap.elementsOf? (state.heap.unwrap this) = some elements →
        ∃ outcome, runArray self realm .join this arguments state = .ended outcome state ∧
          let separator := (separatorText state.heap (argument arguments 0)).utf8ByteSize
          if separator * elements.length ≤ maximumTextSize then
            ∃ text, outcome = .ok (.text text) ∧ text.utf8ByteSize =
              elementsSize state.heap elements + separator * (elements.length - 1)
          else outcome = .error invalidTextSize) := by
  refine ⟨fun left right => confined_add state.heap left right, ?_, ?_, ?_⟩
  · intro context quasis expressions others outcome after comes
    exact comesTo_evaluateTemplate quasis (Nat.zero_le _) comes
  · intro function this text arguments receives within
    refine ⟨_, runString_onText receives function arguments, ?_, ?_⟩
    · rintro (rfl | rfl)
      · exact confined_repeatText state.heap text (argument arguments 0)
      · exact confined_concatTexts state.heap arguments within
    · intro pads
      have confined := confined_pad state.heap pads within arguments
      exact ⟨confined, confined.of_narrow⟩
  · intro this arguments elements receives
    refine ⟨_, joinReceiver_apply receives (argument arguments 0), ?_⟩
    dsimp only
    split
    · exact ⟨_, rfl, utf8ByteSize_joinElements _ _ _⟩
    · rfl

/-- Short texts are built as they should be. -/
theorem text_results_confined_short :
    ((evaluate (Interpreter.within 2) default (.template ["a", "b"] [.literal (.text "x")])
        {}).ComesTo Eq (.ok (.text "axb")) {} ∧ Confined String.utf8ByteSize (.ok (.text "axb"))) ∧
    (receiverText (.text "ab") {} = .done "ab" {} ∧ "ab".utf8ByteSize ≤ maximumTextSize ∧
      ∃ outcome, runString (.onText .padEnd) (.text "ab") [.number 3.0] {} = .ended outcome {} ∧
        Confined String.length outcome) := by
  have templated : (evaluate (Interpreter.within 2) default
      (.template ["a", "b"] [.literal (.text "x")]) {}).ComesTo Eq (.ok (.text "axb")) {} :=
    ⟨rfl, rfl⟩
  have confines := text_results_confined (Interpreter.within 2) ⟨0⟩ {}
  refine ⟨⟨templated, ?_⟩, rfl, by decide, ?_⟩
  · rcases confines.2.1 _ _ _ _ _ _ templated with confined | ⟨_, _, _, _, never, _⟩
    · exact confined
    · cases never
  · obtain ⟨outcome, runs, _, pads⟩ :=
      confines.2.2.1 .padEnd (.text "ab") "ab" [.number 3.0] rfl (by decide)
    exact ⟨outcome, runs, (pads (.inr rfl)).1⟩

/-- The heap with an array of two texts. -/
def pairState (first second : String) : State :=
  { heap := { objects := #[.array [.text first, .text second] {}] } }

/-- Two texts joined without a separator have the bytes of both. -/
theorem join_pair (first second : String) :
    ∃ joined, runArray (Interpreter.within 1) ⟨0⟩ .join (.object ⟨0⟩) [.text ""]
        (pairState first second) = .done (.text joined) (pairState first second) ∧
      joined.utf8ByteSize = first.utf8ByteSize + second.utf8ByteSize := by
  have receives : (pairState first second).heap.elementsOf?
      ((pairState first second).heap.unwrap (.object ⟨0⟩)) = some [.text first, .text second] := rfl
  have nothing : (separatorText (pairState first second).heap (.text "")).utf8ByteSize = 0 := rfl
  have both : elementsSize (pairState first second).heap [.text first, .text second] =
      first.utf8ByteSize + (second.utf8ByteSize + 0) := rfl
  have joins := joinReceiver_apply receives (.text "")
  rw [nothing, Nat.zero_mul, if_pos (Nat.zero_le _)] at joins
  refine ⟨_, joins, ?_⟩
  rw [utf8ByteSize_joinElements, both, nothing]
  omega

/-- A text of `2 ^ 26` characters is filled up with a space to get one more. -/
theorem padEnd_half {text : String} (half : text.length = 1 <<< 26) :
    runString (.onText .padEnd) (.text text) [.number 67108865.0] {} =
      .done (.text (text ++ " ")) {} := by
  have below : ¬Float.ofNat maximumTextSize < 67108865.0 := by decide
  have target : Number.clampToWord 64 67108865.0 = 67108865 := by decide
  have fills : padding {} text [.number 67108865.0] = .ok " " := by
    unfold padding
    dsimp only [argument, Heap.numberOf, List.getElem?_cons_zero, List.getElem?_cons_succ,
      List.getElem?_nil, Option.getD]
    rw [if_neg below, target, half]
    rfl
  have receives : receiverText (.text text) {} = .done text {} := rfl
  rw [runString_onText receives, applyText, fills]
  rfl

/-- A text of one character, again and again. -/
def repeated (count : Nat) (c : Char) : String := String.ofList (List.replicate count c)

theorem utf8ByteSize_repeated (count : Nat) (c : Char) :
    (repeated count c).utf8ByteSize = count * c.utf8Size := by
  rw [repeated, utf8ByteSize_ofList, List.map_replicate, List.sum_replicate, smul_eq_mul]

/-- Joining texts that are within the limit, and filling one up, exceed it. -/
theorem text_size_exceeded :
    ((repeated maximumTextSize 'x').utf8ByteSize ≤ maximumTextSize ∧
      "x".utf8ByteSize ≤ maximumTextSize ∧
      ∃ joined, runArray (Interpreter.within 1) ⟨0⟩ .join (.object ⟨0⟩) [.text ""]
          (pairState (repeated maximumTextSize 'x') "x") =
            .done (.text joined) (pairState (repeated maximumTextSize 'x') "x") ∧
        maximumTextSize < joined.utf8ByteSize) ∧
    ((repeated (1 <<< 26) 'é').utf8ByteSize ≤ maximumTextSize ∧
      ∃ padded, runString (.onText .padEnd) (.text (repeated (1 <<< 26) 'é'))
          [.number 67108865.0] {} = .done (.text padded) {} ∧
        maximumTextSize < padded.utf8ByteSize) := by
  have letters : (repeated maximumTextSize 'x').utf8ByteSize = maximumTextSize :=
    (utf8ByteSize_repeated _ _).trans (Nat.mul_one _)
  have accents : (repeated (1 <<< 26) 'é').utf8ByteSize = maximumTextSize := by
    rw [utf8ByteSize_repeated]
    decide
  have half : (repeated (1 <<< 26) 'é').length = 1 <<< 26 := by
    rw [repeated, String.length_ofList, List.length_replicate]
  refine ⟨⟨Nat.le_of_eq letters, by decide, ?_⟩, Nat.le_of_eq accents, _, padEnd_half half, ?_⟩
  · obtain ⟨joined, joins, size⟩ := join_pair (repeated maximumTextSize 'x') "x"
    refine ⟨joined, joins, ?_⟩
    rw [size, letters]
    decide
  · rw [String.utf8ByteSize_append, accents]
    decide

end PluginSandbox.Script
