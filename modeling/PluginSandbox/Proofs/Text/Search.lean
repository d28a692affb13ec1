import Mathlib.Data.List.Infix
import PluginSandbox.Text.Search

/-!
# Occurrences in texts

A search finds a text where it occurs: no occurrence is missed, none is made up, and the one that is
found is the first. A replacement goes through a text from the left, occurrence by occurrence.
-/
namespace PluginSandbox.Text

/-- Whether an index is that of the first occurrence of one text in another, none if it does not
occur. -/
def IsFirstIndex (needle text : List Char) : Option Nat → Prop
  | some index => (∃ before after, text = before ++ needle ++ after ∧ before.length = index) ∧
    ∀ before after, text = before ++ needle ++ after → index ≤ before.length
  | none => ¬needle <:+: text

/-- A text that occurs in the rest of another one, but not at its start, occurs one place later. -/
theorem IsFirstIndex.cons {needle rest : List Char} {c : Char} {index : Option Nat}
    (first : IsFirstIndex needle rest index) (other : ¬needle <+: c :: rest) :
    IsFirstIndex needle (c :: rest) (index.map (· + 1)) := by
  cases index with
  | none =>
    intro occurs
    rcases List.infix_cons_iff.mp occurs with start | later
    · exact other start
    · exact first later
  | some index =>
    obtain ⟨⟨before, after, split, length⟩, least⟩ := first
    refine ⟨⟨c :: before, after, ?_, congrArg (· + 1) length⟩, fun front back cut => ?_⟩
    · rw [split]
      rfl
    · cases front with
      | nil => exact absurd ⟨back, cut.symm⟩ other
      | cons head front =>
        have tail : rest = front ++ needle ++ back := (List.cons.inj cut).2
        exact Nat.succ_le_succ (least front back tail)

section

variable {pattern replacement text rest : List Char} {c : Char}

/-- A text has a piece. -/
theorem piecesFrom_ne_nil (pattern : List Char) (skip : Nat) (piece text : List Char) :
    piecesFrom pattern skip piece text ≠ [] := by
  fun_induction piecesFrom pattern skip piece text <;> simp_all

/-- The text of pieces with a replacement between them starts with the current piece. -/
theorem intercalate_piecesFrom (skip : Nat) (piece : List Char) :
    List.intercalate replacement (piecesFrom pattern skip piece text) =
      piece.reverse ++ List.intercalate replacement (piecesFrom pattern skip [] text) := by
  induction text generalizing skip piece with
  | nil => simp [piecesFrom, List.intercalate]
  | cons c text ih =>
    cases skip with
    | succ skip => exact ih skip piece
    | zero =>
      simp only [piecesFrom]
      split
      · obtain ⟨first, others, same⟩ :=
          List.exists_cons_of_ne_nil (piecesFrom_ne_nil pattern (pattern.length - 1) [] text)
        simp [same, List.intercalate]
      · rw [ih 0 (c :: piece), ih 0 [c]]
        simp

/-- Nothing is replaced in the empty text. -/
theorem replaceAll_nil (filled : pattern ≠ []) : replaceAll pattern replacement [] = [] := by
  rw [replaceAll, if_neg (by simpa using filled)]
  rfl

/-- An occurrence at the start of a text is replaced. -/
theorem replaceAll_append (filled : pattern ≠ []) :
    replaceAll pattern replacement (pattern ++ rest) =
      replacement ++ replaceAll pattern replacement rest := by
  have skips (taken : List Char) :
      piecesFrom pattern taken.length [] (taken ++ rest) = piecesFrom pattern 0 [] rest := by
    induction taken with
    | nil => rfl
    | cons d taken ih => exact ih
  obtain ⟨c, others, rfl⟩ := List.exists_cons_of_ne_nil filled
  have occurs : (c :: others).isPrefixOf (c :: (others ++ rest)) = true :=
    List.isPrefixOf_iff_prefix.mpr (List.prefix_append (c :: others) rest)
  have pieces : piecesFrom (c :: others) 0 [] (c :: (others ++ rest)) =
      [] :: piecesFrom (c :: others) 0 [] rest := by
    rw [piecesFrom, if_pos occurs]
    exact congrArg ([] :: ·) (skips others)
  obtain ⟨first, more, same⟩ :=
    List.exists_cons_of_ne_nil (piecesFrom_ne_nil (c :: others) 0 [] rest)
  rw [replaceAll, replaceAll, if_neg (by simp), if_neg (by simp), List.cons_append, pieces, same]
  simp [List.intercalate]

/-- A character at which no occurrence starts stays. -/
theorem replaceAll_cons (filled : pattern ≠ []) (other : pattern.isPrefixOf (c :: rest) = false) :
    replaceAll pattern replacement (c :: rest) = c :: replaceAll pattern replacement rest := by
  rw [replaceAll, replaceAll, if_neg (by simpa using filled), if_neg (by simpa using filled),
    piecesFrom, if_neg (by rw [other]; exact Bool.false_ne_true), intercalate_piecesFrom 0 [c]]
  rfl

/-- Where a pattern is one character, that character is replaced and the others stay. -/
theorem replaceAll_singleton (d : Char) :
    replaceAll [d] replacement (c :: rest) =
      (if c = d then replacement else [c]) ++ replaceAll [d] replacement rest := by
  split
  case isTrue same =>
    subst same
    exact replaceAll_append (List.cons_ne_nil c [])
  case isFalse other =>
    refine replaceAll_cons (List.cons_ne_nil d []) ?_
    rw [List.isPrefixOf, beq_eq_false_iff_ne.mpr (Ne.symm other), Bool.false_and]

end

end PluginSandbox.Text
