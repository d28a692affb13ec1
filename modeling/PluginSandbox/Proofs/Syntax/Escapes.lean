import PluginSandbox.Proofs.Syntax.Tokens
import PluginSandbox.Proofs.Text.Search
import PluginSandbox.Syntax.Unescape

/-!
# Escapes are undone

Writing a text between quotes and reading it back gives the same text, and so does writing it as a
piece of a template.
-/
namespace PluginSandbox.Syntax

open Text (fixedHexDigits replaceAll replaceAll_append replaceAll_cons replaceAll_nil
  replaceAll_singleton)

/-- A character that is no backslash stands for itself. -/
theorem unescapeFrom_plain {c : Char} (fuel : Nat) (rest : List Char) (backslash : c ≠ '\\') :
    unescapeFrom (fuel + 1) (c :: rest) = c :: unescapeFrom fuel rest := by
  rw [unescapeFrom]
  exact fun same => absurd same backslash

/-- A control character is undone from its number. -/
theorem charOfEscape_control (n : Nat) (control : n < 32) :
    charOfEscape 'u' (fixedHexDigits 4 n) = [Char.ofNat n] ∧
      (fixedHexDigits 4 n).length = 4 ∧ isQuotable (fixedHexDigits 4 n) = true ∧
      (fixedHexDigits 4 n).head? ≠ some '\x7b' := by
  have all : ∀ m < 32, charOfEscape 'u' (fixedHexDigits 4 m) = [Char.ofNat m] ∧
      (fixedHexDigits 4 m).length = 4 ∧ isQuotable (fixedHexDigits 4 m) = true ∧
      (fixedHexDigits 4 m).head? ≠ some '\x7b' := by
    decide
  exact all n control

/-- The characters whose escapes are more than one character. -/
def longEscapes : List Char := ['\r', '\n', 'x', 'u']

/-- A backslash gives most characters their meaning alone. -/
theorem unescapeFrom_letter {d : Char} (fuel : Nat) (rest : List Char) (short : d ∉ longEscapes) :
    unescapeFrom (fuel + 1) ('\\' :: d :: rest) = escapedLetter d :: unescapeFrom fuel rest := by
  simp only [longEscapes, List.mem_cons, List.not_mem_nil, or_false, not_or] at short
  obtain ⟨carriage, line, hex, unicode⟩ := short
  rw [unescapeFrom]
  · exact fun _ same => absurd same carriage
  · exact fun same => absurd same carriage
  · exact fun same => absurd same line
  · exact fun same => absurd same hex
  · exact fun _ same => absurd same unicode
  · exact fun same => absurd same unicode

/-- A backslash gives four hexadecimal digits after a letter their meaning. -/
theorem unescapeFrom_control (fuel n : Nat) (rest : List Char) (control : n < 32) :
    unescapeFrom (fuel + 1) ('\\' :: 'u' :: (fixedHexDigits 4 n ++ rest)) =
      Char.ofNat n :: unescapeFrom fuel rest := by
  obtain ⟨meaning, length, _, brace⟩ := charOfEscape_control n control
  have taken : (fixedHexDigits 4 n ++ rest).take 4 = fixedHexDigits 4 n := List.take_left' length
  have dropped : (fixedHexDigits 4 n ++ rest).drop 4 = rest := List.drop_left' length
  rw [unescapeFrom]
  · rw [taken, dropped, meaning]
    rfl
  · rintro others same
    cases digits : fixedHexDigits 4 n with
    | nil => rw [digits] at length; cases length
    | cons d more =>
      rw [digits] at brace same
      cases same
      exact brace rfl

/-- How a character is written between quotes. -/
theorem encodeChar_cases (c : Char) :
    (∃ d, Text.Quoted.encodeChar c = ['\\', d] ∧ d ∉ longEscapes ∧ escapedLetter d = c) ∨
    (c.toNat < 32 ∧ Text.Quoted.encodeChar c = '\\' :: 'u' :: fixedHexDigits 4 c.toNat) ∨
    (Text.Quoted.encodeChar c = [c] ∧ c ≠ '"' ∧ c ≠ '\\' ∧ c ≠ '\n') := by
  unfold Text.Quoted.encodeChar
  split
  · exact .inl ⟨'"', rfl, by decide, rfl⟩
  · exact .inl ⟨'\\', rfl, by decide, rfl⟩
  · exact .inl ⟨'n', rfl, by decide, rfl⟩
  · exact .inl ⟨'r', rfl, by decide, rfl⟩
  · exact .inl ⟨'t', rfl, by decide, rfl⟩
  · exact .inl ⟨'b', rfl, by decide, rfl⟩
  · exact .inl ⟨'f', rfl, by decide, rfl⟩
  · rename_i quote backslash line _ _ _ _
    split
    case isTrue control => exact .inr (.inl ⟨control, rfl⟩)
    case isFalse => exact .inr (.inr ⟨rfl, quote, backslash, line⟩)

/-- The characters of a text as they are written between quotes. -/
def quotedBody (characters : List Char) : List Char :=
  characters.flatMap Text.Quoted.encodeChar

/-- Characters that may stand between double quotes may follow others that do. -/
theorem isQuotable_append {characters rest : List Char} (first : isQuotable characters = true)
    (second : isQuotable rest = true) : isQuotable (characters ++ rest) = true := by
  rw [isQuotable_eq] at first second ⊢
  exact isQuotedBy_append first second

/-- A text as it is written between quotes ends at its closing quote. -/
theorem isQuotable_quotedBody (characters : List Char) :
    isQuotable (quotedBody characters) = true := by
  induction characters with
  | nil => rfl
  | cons c characters ih =>
    rw [quotedBody, List.flatMap_cons]
    refine isQuotable_append ?_ ih
    rcases encodeChar_cases c with ⟨d, same, _, _⟩ | ⟨control, same⟩ | ⟨same, quote, backslash, line⟩
    · rw [same]
      rfl
    · rw [same]
      exact (charOfEscape_control c.toNat control).2.2.1
    · rw [same, isQuotable]
      · simp [quote, backslash, line, isQuotable]
      · exact fun _ _ same => absurd same backslash

/-- Reading a quoted text gives the text back. -/
theorem unescape_quotedBody (characters : List Char) :
    unescape (quotedBody characters) = characters := by
  have enough (fuel : Nat) (bound : (quotedBody characters).length < fuel) :
      unescapeFrom fuel (quotedBody characters) = characters := by
    induction characters generalizing fuel with
    | nil =>
      obtain ⟨fuel, rfl⟩ := Nat.exists_eq_succ_of_ne_zero (Nat.ne_of_gt bound)
      rfl
    | cons c characters ih =>
      obtain ⟨fuel, rfl⟩ := Nat.exists_eq_succ_of_ne_zero (Nat.ne_of_gt (Nat.zero_lt_of_lt bound))
      rw [quotedBody, List.flatMap_cons, ← quotedBody] at bound ⊢
      rw [List.length_append] at bound
      rcases encodeChar_cases c with ⟨d, same, short, meaning⟩ | ⟨control, same⟩ | ⟨same, _, slash, _⟩
      · rw [same] at bound ⊢
        rw [List.cons_append, List.cons_append, List.nil_append,
          unescapeFrom_letter fuel _ short, meaning, ih fuel (by simp at bound; omega)]
      · rw [same] at bound ⊢
        rw [List.cons_append, List.cons_append, unescapeFrom_control fuel _ _ control,
          Char.ofNat_toNat, ih fuel (by simp at bound; omega)]
      · rw [same] at bound ⊢
        rw [List.cons_append, List.nil_append, unescapeFrom_plain fuel _ slash,
          ih fuel (by simp at bound; omega)]
  exact enough _ (Nat.lt_succ_self _)

/-- A quoted text is a token. -/
theorem Lexes.text {stack : List Bracket} {rest : List Char} (characters : List Char)
    (code : inCode stack = true) (lexes : Lexes stack rest) :
    Lexes stack (Text.Quoted.encodeChars characters ++ rest) := by
  have quoted := Lexes.quoted (quotedBody characters) code (isQuotable_quotedBody characters) lexes
  rw [List.cons_append, List.append_cons, ← List.cons_append] at quoted
  exact quoted

/-- A dollar sign that starts no expression in a piece of a template starts none where the piece
is written. -/
theorem escapeTemplateChars_head {piece rest : List Char} (piece_head : piece.head? ≠ some '\x7b')
    (rest_head : rest.head? ≠ some '\x7b') :
    (escapeTemplateChars piece ++ rest).head? ≠ some '\x7b' := by
  cases piece using escapeTemplateChars.fun_cases with
  | case1 => exact rest_head
  | case2 => exact nofun
  | case3 => exact nofun
  | case4 => exact nofun
  | case5 c piece backslash tick hole =>
    rw [escapeTemplateChars]
    · exact piece_head
    · exact backslash
    · exact tick
    · exact hole

/-- A text whose backslashes have been replaced, and then its ticks. -/
def escapeTicks (text : List Char) : List Char :=
  replaceAll ['\x60'] ['\\', '\x60'] (replaceAll ['\\'] ['\\', '\\'] text)

/-- Backslashes and ticks are replaced one by one. -/
theorem escapeTicks_cons (c : Char) (rest : List Char) :
    escapeTicks (c :: rest) =
      (if c = '\\' ∨ c = '\x60' then ['\\', c] else [c]) ++ escapeTicks rest := by
  rw [escapeTicks, replaceAll_singleton]
  by_cases backslash : c = '\\'
  · subst backslash
    simp [replaceAll_singleton, escapeTicks]
  · by_cases tick : c = '\x60' <;> simp [backslash, tick, replaceAll_singleton, escapeTicks]

/-- No brace is first because of a replacement. -/
theorem escapeTicks_head {text : List Char}
    (brace : (escapeTicks text).head? = some '\x7b') : text.head? = some '\x7b' := by
  cases text with
  | nil =>
    rw [escapeTicks, replaceAll_nil (by simp), replaceAll_nil (by simp)] at brace
    exact brace
  | cons c rest =>
    rw [escapeTicks_cons] at brace
    split at brace
    · cases brace
    · exact brace

/-- A piece of a template is written by three replacements one after the other: of backslashes, of
ticks, and of dollar signs with a brace after them. -/
theorem escapeTemplateChars_eq_replaceAll (piece : List Char) :
    escapeTemplateChars piece =
      replaceAll ['$', '\x7b'] ['\\', '$', '\x7b'] (escapeTicks piece) := by
  have stays {c : Char} {rest : List Char} (other : c = '$' → rest.head? ≠ some '\x7b') :
      replaceAll ['$', '\x7b'] ['\\', '$', '\x7b'] (c :: rest) =
        c :: replaceAll ['$', '\x7b'] ['\\', '$', '\x7b'] rest := by
    refine replaceAll_cons (List.cons_ne_nil _ _) ?_
    cases starts : ['$', '\x7b'].isPrefixOf (c :: rest) with
    | false => rfl
    | true =>
      obtain ⟨more, same⟩ := List.isPrefixOf_iff_prefix.mp starts
      cases same
      exact absurd rfl (other rfl)
  have solid {c : Char} {rest : List Char} (other : c ≠ '$') :
      replaceAll ['$', '\x7b'] ['\\', '$', '\x7b'] (c :: rest) =
        c :: replaceAll ['$', '\x7b'] ['\\', '$', '\x7b'] rest :=
    stays fun same => absurd same other
  induction piece using escapeTemplateChars.induct with
  | case1 =>
    rw [escapeTicks, replaceAll_nil (by simp), replaceAll_nil (by simp), replaceAll_nil (by simp)]
    rfl
  | case2 piece ih =>
    rw [escapeTemplateChars, ih, escapeTicks_cons, if_pos (.inl rfl), List.cons_append,
      List.singleton_append, solid (by decide),
      solid (by decide)]
  | case3 piece ih =>
    rw [escapeTemplateChars, ih, escapeTicks_cons, if_pos (.inr rfl), List.cons_append,
      List.singleton_append, solid (by decide),
      solid (by decide)]
  | case4 piece ih =>
    rw [escapeTemplateChars, ih, escapeTicks_cons, escapeTicks_cons, if_neg (by decide),
      if_neg (by decide)]
    have whole : replaceAll ['$', '\x7b'] ['\\', '$', '\x7b']
        (['$', '\x7b'] ++ escapeTicks piece) = _ := replaceAll_append (List.cons_ne_nil _ _)
    exact whole.symm
  | case5 c piece backslash tick hole ih =>
    rw [escapeTemplateChars, ih, escapeTicks_cons, if_neg (not_or.mpr ⟨backslash, tick⟩)]
    · refine (stays fun dollar brace => ?_).symm
      obtain ⟨others, same⟩ := List.head?_eq_some_iff.mp (escapeTicks_head brace)
      exact hole others dollar same
    all_goals assumption

/-- Reading a piece of a template gives the piece back. -/
theorem unescape_escapeTemplateChars (piece : List Char) :
    unescape (escapeTemplateChars piece) = piece := by
  have enough (fuel : Nat) (bound : (escapeTemplateChars piece).length < fuel) :
      unescapeFrom fuel (escapeTemplateChars piece) = piece := by
    induction piece using escapeTemplateChars.induct generalizing fuel with
    | case1 =>
      obtain ⟨fuel, rfl⟩ := Nat.exists_eq_succ_of_ne_zero (Nat.ne_of_gt bound)
      rfl
    | case2 piece ih =>
      obtain ⟨fuel, rfl⟩ := Nat.exists_eq_succ_of_ne_zero (Nat.ne_of_gt (Nat.zero_lt_of_lt bound))
      rw [escapeTemplateChars] at bound ⊢
      rw [unescapeFrom_letter fuel _ (by decide), ih fuel (by simp at bound; omega)]
      rfl
    | case3 piece ih =>
      obtain ⟨fuel, rfl⟩ := Nat.exists_eq_succ_of_ne_zero (Nat.ne_of_gt (Nat.zero_lt_of_lt bound))
      rw [escapeTemplateChars] at bound ⊢
      rw [unescapeFrom_letter fuel _ (by decide), ih fuel (by simp at bound; omega)]
      rfl
    | case4 piece ih =>
      rw [escapeTemplateChars] at bound ⊢
      obtain ⟨fuel, rfl⟩ : ∃ more, fuel = more + 1 + 1 :=
        ⟨fuel - 2, by simp at bound; omega⟩
      rw [unescapeFrom_letter _ _ (by decide), unescapeFrom_plain _ _ (by decide),
        ih fuel (by simp at bound; omega)]
      rfl
    | case5 c piece backslash tick hole ih =>
      obtain ⟨fuel, rfl⟩ := Nat.exists_eq_succ_of_ne_zero (Nat.ne_of_gt (Nat.zero_lt_of_lt bound))
      rw [escapeTemplateChars] at bound ⊢
      · rw [unescapeFrom_plain fuel _ backslash, ih fuel (by simp at bound; omega)]
      all_goals assumption
  exact enough _ (Nat.lt_succ_self _)

/-- What may stand after a piece of a template: its end, or the start of an expression. -/
def endsPiece : List Char → Bool
  | '\x60' :: _ => true
  | '$' :: '\x7b' :: _ => true
  | _ => false

/-- No brace ends a piece of a template. -/
theorem head_of_endsPiece {rest : List Char} (ends : endsPiece rest = true) :
    rest.head? ≠ some '\x7b' := by
  intro brace
  obtain ⟨others, rfl⟩ := List.head?_eq_some_iff.mp brace
  cases ends

/-- Nothing of a template is taken where a piece ends. -/
theorem Rejects.templateUnit_ends {around : Peg.Surroundings} (compact : around.mode ≠ .spaced)
    {rest : List Char} (ends : endsPiece rest = true) :
    Rejects around (.once Syntax.templateUnit) rest := by
  cases rest using endsPiece.fun_cases with
  | case1 rest => exact .templateUnit compact _ (.inr (.inr (.inl ⟨rest, rfl⟩)))
  | case2 rest => exact .templateUnit compact _ (.inr (.inr (.inr ⟨rest, rfl⟩)))
  | case3 => simp_all [endsPiece]

/-- A piece of a template is read to its end. -/
theorem Reads.again_templateUnit {around : Peg.Surroundings} (compact : around.mode ≠ .spaced)
    (piece : List Char) {rest : List Char} (ends : endsPiece rest = true) :
    Reads around (.again templateUnit) (escapeTemplateChars piece ++ rest) rest [] := by
  have step {text middle : List Char} (one : Reads around (.once templateUnit) text middle [])
      (more : Reads around (.again templateUnit) middle rest []) :
      Reads around (.again templateUnit) text rest [] := by
    have padded_one : Reads around (.once templateUnit) (padded around text) middle [] := by
      rw [padded_compact compact]
      exact one
    exact padded_one.again_some more
  induction piece using escapeTemplateChars.induct with
  | case1 =>
    refine .again_none ?_
    rw [padded_compact compact]
    exact .templateUnit_ends compact ends
  | case2 piece ih => exact step (.templateUnit_escape compact _ _) ih
  | case3 piece ih => exact step (.templateUnit_escape compact _ _) ih
  | case4 piece ih =>
    exact step (.templateUnit_escape compact _ _)
      (step (.templateUnit_plain compact _ (by decide) (by decide) (by decide)) ih)
  | case5 c piece backslash tick hole ih =>
    rw [escapeTemplateChars]
    · refine step ?_ ih
      by_cases dollar : c = '$'
      · subst dollar
        refine .templateUnit_dollar compact _ (escapeTemplateChars_head ?_ (head_of_endsPiece ends))
        intro brace
        obtain ⟨others, same⟩ := List.head?_eq_some_iff.mp brace
        exact hole others rfl same
      · exact .templateUnit_plain compact _ tick backslash dollar
    all_goals assumption

/-- A piece of a template that is not empty is not empty where it is written. -/
theorem escapeTemplateChars_ne_nil {piece : List Char} (filled : piece ≠ []) :
    escapeTemplateChars piece ≠ [] := by
  intro empty
  have same := unescape_escapeTemplateChars piece
  rw [empty] at same
  exact filled same.symm

/-- A piece of a template is read whole. -/
theorem Reads.templateChars_body {around : Peg.Surroundings} (compact : around.mode ≠ .spaced)
    {piece rest : List Char} (filled : piece ≠ []) (ends : endsPiece rest = true) :
    Reads around (.once Rule.templateChars.body) (escapeTemplateChars piece ++ rest) rest [] := by
  intro place here
  obtain ⟨stop, trees, derived, leaves, meets⟩ :=
    Reads.again_templateUnit compact piece ends place here
  cases derived with
  | againNone none =>
    have longer := congrArg List.length (here.symm.trans leaves)
    rw [List.length_append] at longer
    exact absurd (List.length_eq_zero_iff.mp (by omega)) (escapeTemplateChars_ne_nil filled)
  | @againSome _ _ _ middle _ _ _ one more =>
    rw [Peg.Grammar.padded, if_neg compact] at one
    refine ⟨stop, _, .seq one ?_, leaves, meets⟩
    rw [Peg.Grammar.padded, if_neg compact]
    cases more with
    | againNone none =>
      rw [Peg.Grammar.padded, if_neg compact] at none
      exact .manyNone none
    | againSome one more =>
      rw [Peg.Grammar.padded, if_neg compact] at one
      exact .manySome one more

/-- A piece of a template stays in the template. -/
theorem Lexes.template {stack : List Bracket} (piece : List Char) {rest : List Char}
    (ends : rest.head? ≠ some '\x7b') (lexes : Lexes (.tick :: stack) rest) :
    Lexes (.tick :: stack) (escapeTemplateChars piece ++ rest) := by
  induction piece using escapeTemplateChars.induct with
  | case1 => exact lexes
  | case2 piece ih => exact .escape _ ih
  | case3 piece ih => exact .escape _ ih
  | case4 piece ih => exact .escape _ (.piece _ (by decide) (by decide) nofun ih)
  | case5 c piece backslash tick hole ih =>
    rw [escapeTemplateChars]
    · refine .piece c tick backslash (fun dollar => escapeTemplateChars_head ?_ ends) ih
      intro brace
      obtain ⟨others, same⟩ := List.head?_eq_some_iff.mp brace
      exact hole others dollar same
    all_goals assumption

end PluginSandbox.Syntax
