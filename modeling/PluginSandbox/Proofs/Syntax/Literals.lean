import PluginSandbox.Proofs.Syntax.Heads

/-!
# Numerals and quoted texts

A run of decimal digits that ends is read as one numeral, and a quoted text is read to the first
quote that no backslash stands before.
-/
namespace PluginSandbox.Syntax

open Peg (Surroundings)
open Peg.Grammar (inside)
open Peg.Expression (firstOf inOrder anyChar)

section

variable {around : Surroundings}

/-- Characters of a class are repeated as long as there are some. -/
theorem Reads.again_oneOf (compact : around.mode ≠ .spaced) (holds : Char → Bool)
    (characters rest : List Char) (all : characters.all holds = true)
    (ends : rest.head?.all fun c => !holds c) :
    Reads around (.again (.oneOf holds)) (characters ++ rest) rest [] := by
  induction characters with
  | nil =>
    refine .again_none ?_
    rw [padded_compact compact]
    exact .oneOf around holds rest ends
  | cons c characters ih =>
    rw [List.all_cons, Bool.and_eq_true] at all
    have one : Reads around (.once (.oneOf holds)) (padded around (c :: characters ++ rest))
        (characters ++ rest) [] := by
      rw [padded_compact compact]
      exact .oneOf around holds c _ all.1
    exact one.again_some (ih all.2)

/-- Characters of a class are read as long as there are some. -/
theorem Reads.many_oneOf (compact : around.mode ≠ .spaced) (holds : Char → Bool)
    (characters rest : List Char) (all : characters.all holds = true)
    (ends : rest.head?.all fun c => !holds c) :
    Reads around (.once (.many (.oneOf holds))) (characters ++ rest) rest [] :=
  .many_compact compact (.again_oneOf compact holds characters rest all ends)

/-- A run of digits that ends is read. -/
theorem Reads.digits (compact : around.mode ≠ .spaced) (digits rest : List Char)
    (filled : digits ≠ []) (all : digits.all Char.isDigit = true)
    (ends : rest.head?.all fun c => !c.isDigit) :
    Reads around (.once (.atLeastOnce Rule.digit)) (digits ++ rest) rest [] := by
  cases digits with
  | nil => exact absurd rfl filled
  | cons c digits =>
    rw [List.all_cons, Bool.and_eq_true] at all
    have first : Reads around (.once Rule.digit) (c :: digits ++ rest) (digits ++ rest) [] :=
      .oneOf around _ c _ all.1
    refine first.seq ?_
    rw [padded_compact compact]
    exact .many_oneOf compact _ digits rest all.2 ends

/-- No exponent is read where no word goes on. -/
theorem Reads.no_exponent {text : List Char}
    (ends : startsWord text = false) (tail : Peg.Expression Rule) :
    Reads around (.once (.maybe (.seq (firstOf ["e", "E"]) tail))) text text [] := by
  exact .maybe_none (.seq (.choice (.literal_word [] (by decide) ends)
    (.literal_word [] (by decide) ends)) tail)

/-- Nothing but digits follows a digit where no word goes on after digits. -/
theorem digits_head {digits rest : List Char} (all : digits.all Char.isDigit = true)
    (ends : startsWord rest = false) (c : Char) (letter : c.isDigit = false)
    (goesOn : isIdentifierChar c = true) (tail : List Char) :
    Rejects around (.once (.literal (c :: tail))) (digits ++ rest) := by
  cases digits with
  | nil => exact .literal_word tail goesOn ends
  | cons d digits =>
    rw [List.all_cons, Bool.and_eq_true] at all
    refine .literal_head around tail _ ?_
    rintro rfl
    exact Bool.false_ne_true (letter.symm.trans all.1)

/-- Where no word goes on, no digit does. -/
theorem no_digit {rest : List Char} (ends : startsWord rest = false) :
    rest.head?.all fun c => !c.isDigit := by
  cases rest with
  | nil => rfl
  | cons c rest =>
    simp only [startsWord, isIdentifierChar, Char.isAlphanum, Bool.or_eq_false_iff] at ends
    simp [ends.1.1.2]

/-- A run of digits that ends is a numeral, unless a point follows it. -/
theorem Reads.number_body (compact : around.mode ≠ .spaced) (digits rest : List Char)
    (filled : digits ≠ []) (all : digits.all Char.isDigit = true)
    (ends : startsWord rest = false) (point : rest.head? ≠ some '.') :
    Reads around (.once Rule.number.body) (digits ++ rest) rest [] := by
  have noHex : Rejects around (.once (inOrder ["0", firstOf ["x", "X"],
      .atLeastOnce Rule.hexDigit])) (digits ++ rest) := by
    cases digits with
    | nil => exact absurd rfl filled
    | cons c digits =>
      rw [List.all_cons, Bool.and_eq_true] at all
      by_cases zero : c = '0'
      · subst zero
        have first : Reads around (.once (.literal ['0'])) ('0' :: digits ++ rest)
            (digits ++ rest) [] := .literal around ['0'] (digits ++ rest)
        refine .seq_late first (.seq (.choice ?_ ?_) _) <;> rw [padded_compact compact]
        · exact digits_head all.2 ends 'x' rfl rfl []
        · exact digits_head all.2 ends 'X' rfl rfl []
      · exact .seq (.literal_head around [] _ zero) _
  have whole : Reads around (.once (.atLeastOnce Rule.digit)) (digits ++ rest) rest [] :=
    .digits compact digits rest filled all (no_digit ends)
  have fraction : Reads around (.once (.maybe (inOrder [".", .many Rule.digit])))
      (padded around rest) rest [] := by
    rw [padded_compact compact]
    refine .maybe_none (.seq ?_ _)
    cases rest with
    | nil => exact .literal around _ _ rfl
    | cons c rest => exact .literal_head around [] rest fun same => point (by rw [same]; rfl)
  have decimal := Reads.choice_first (whole.seq fraction) (inOrder [".", .atLeastOnce Rule.digit])
  refine .choice_second noHex (decimal.seq ?_)
  rw [padded_compact compact]
  exact .no_exponent ends _

/-- A point and a run of digits that ends are a numeral. -/
theorem Reads.number_fraction (compact : around.mode ≠ .spaced) (digits rest : List Char)
    (filled : digits ≠ []) (all : digits.all Char.isDigit = true)
    (ends : startsWord rest = false) :
    Reads around (.once Rule.number.body) ('.' :: digits ++ rest) rest [] := by
  have noHex : Rejects around (.once (inOrder ["0", firstOf ["x", "X"],
      .atLeastOnce Rule.hexDigit])) ('.' :: digits ++ rest) :=
    .seq (.literal_head around [] _ (by decide)) _
  have noWhole : Rejects around (.once (.atLeastOnce Rule.digit)) ('.' :: digits ++ rest) :=
    .seq (.oneOf around _ _ rfl) _
  have point : Reads around (.once (.literal ['.'])) ('.' :: digits ++ rest) (digits ++ rest) [] :=
    .literal around ['.'] (digits ++ rest)
  have fraction : Reads around (.once (inOrder [".", .atLeastOnce Rule.digit]))
      ('.' :: digits ++ rest) rest [] := by
    refine point.seq ?_
    rw [padded_compact compact]
    exact .digits compact digits rest filled all (no_digit ends)
  have decimal := Reads.choice_second (.seq noWhole (.maybe (inOrder [".", .many Rule.digit])))
    fraction
  refine .choice_second noHex (decimal.seq ?_)
  rw [padded_compact compact]
  exact .no_exponent ends _

/-- A text that starts neither with a digit nor with a point and a digit has no numeral. -/
theorem Rejects.number_body (compact : around.mode ≠ .spaced) {c : Char} (rest : List Char)
    (letter : c.isDigit = false)
    (fraction : c = '.' → rest.head?.all fun d => !d.isDigit) :
    Rejects around (.once Rule.number.body) (c :: rest) := by
  have zero : c ≠ '0' := by
    rintro rfl
    cases letter
  have noDigit : Rejects around (.once Rule.digit) (c :: rest) :=
    .oneOf around _ _ (by simpa using letter)
  refine .choice (.seq (.literal_head around [] rest zero) _) (.seq (.choice ?_ ?_) _)
  · exact .seq (.seq noDigit _) _
  · by_cases point : c = '.'
    · subst point
      have first : Reads around (.once (.literal ['.'])) ('.' :: rest) rest [] :=
        .literal around ['.'] rest
      refine .seq_late first (.seq ?_ _)
      rw [padded_compact compact]
      exact .oneOf around _ rest (fraction rfl)
    · exact .seq (.literal_head around [] rest point) _

/-- Whether characters may stand between double quotes: after a backslash any character, and
otherwise no quote and no end of a line. -/
def isQuotable : List Char → Bool
  | [] => true
  | '\\' :: _ :: rest => isQuotable rest
  | c :: rest => c ≠ '"' && c ≠ '\\' && c ≠ '\n' && isQuotable rest

/-- One character between two quotes of a kind, or two of which the first is a backslash. -/
def unitWithin (quote : Char) : Peg.Expression Rule :=
  firstOf [inOrder ["\\", anyChar],
    inOrder [.notAhead (firstOf [.literal [quote], "\\", "\n"]), anyChar]]

/-- A backslash takes the character after it along. -/
theorem Reads.unitWithin_escape (compact : around.mode ≠ .spaced) (quote c : Char)
    (rest : List Char) : Reads around (.once (unitWithin quote)) ('\\' :: c :: rest) rest [] := by
  have first : Reads around (.once (.literal ['\\'])) ('\\' :: c :: rest) (c :: rest) [] :=
    .literal around ['\\'] (c :: rest)
  refine .choice_first (first.seq ?_) _
  rw [padded_compact compact]
  exact .oneOf around _ c rest rfl

/-- Any other character that may stand between quotes is taken alone. -/
theorem Reads.unitWithin_plain (compact : around.mode ≠ .spaced) {quote c : Char}
    (rest : List Char) (other : c ≠ quote) (backslash : c ≠ '\\') (line : c ≠ '\n') :
    Reads around (.once (unitWithin quote)) (c :: rest) rest [] := by
  have free : Reads around (.once (.notAhead (firstOf [.literal [quote], "\\", "\n"])))
      (c :: rest) (c :: rest) [] :=
    .notAhead (.choice (.literal_head _ [] rest other)
      (.choice (.literal_head _ [] rest backslash) (.literal_head _ [] rest line)))
  refine .choice_second (.seq (.literal_head around [] rest backslash) _) (free.seq ?_)
  rw [padded_compact compact]
  exact .oneOf around _ c rest rfl

/-- Nothing is taken at a quote. -/
theorem Rejects.unitWithin {quote : Char} (rest : List Char) (backslash : quote ≠ '\\') :
    Rejects around (.once (Syntax.unitWithin quote)) (quote :: rest) := by
  have listed := (Reads.literal around.refuting [quote] rest).choice_first (firstOf ["\\", "\n"])
  exact .choice (.seq (.literal_head around [] rest backslash) _) (.seq (.notAhead listed) _)

/-- Whether characters may stand between two quotes of a kind: after a backslash any character, and
otherwise no such quote and no end of a line. -/
def isQuotedBy (quote : Char) : List Char → Bool
  | [] => true
  | '\\' :: _ :: rest => isQuotedBy quote rest
  | c :: rest => c ≠ quote && c ≠ '\\' && c ≠ '\n' && isQuotedBy quote rest

/-- What may stand between double quotes is what they may enclose. -/
theorem isQuotable_eq (body : List Char) : isQuotable body = isQuotedBy '"' body := by
  induction body using isQuotable.induct with
  | case1 => rfl
  | case2 c body ih => exact ih
  | case3 c body escape ih =>
    rw [isQuotable, isQuotedBy, ih]
    · exact escape
    · exact escape

/-- Characters that may stand between quotes may follow others that do. -/
theorem isQuotedBy_append {quote : Char} {characters rest : List Char}
    (first : isQuotedBy quote characters = true) (second : isQuotedBy quote rest = true) :
    isQuotedBy quote (characters ++ rest) = true := by
  induction characters using isQuotedBy.induct with
  | case1 => exact second
  | case2 c characters ih => exact ih first
  | case3 c characters escape ih =>
    rw [isQuotedBy] at first
    · rw [Bool.and_eq_true] at first
      rw [List.cons_append, isQuotedBy]
      · rw [first.1, ih first.2]
        rfl
      · rintro d others rfl
        simp at first
    · exact escape

/-- The characters between quotes are repeated up to the quote. -/
theorem Reads.again_unitWithin (compact : around.mode ≠ .spaced) {quote : Char}
    (isQuote : quote ≠ '\\') (body rest : List Char) (within : isQuotedBy quote body = true) :
    Reads around (.again (unitWithin quote)) (body ++ quote :: rest) (quote :: rest) [] := by
  have step {text middle : List Char} (one : Reads around (.once (unitWithin quote)) text middle [])
      (more : Reads around (.again (unitWithin quote)) middle (quote :: rest) []) :
      Reads around (.again (unitWithin quote)) text (quote :: rest) [] := by
    have padded_one : Reads around (.once (unitWithin quote)) (padded around text) middle [] := by
      rw [padded_compact compact]
      exact one
    exact padded_one.again_some more
  induction body using isQuotedBy.induct with
  | case1 =>
    refine .again_none ?_
    rw [padded_compact compact]
    exact .unitWithin rest isQuote
  | case2 c body ih => exact step (.unitWithin_escape compact quote c _) (ih within)
  | case3 c body escape ih =>
    rw [isQuotedBy] at within
    · simp only [Bool.and_eq_true, decide_eq_true_eq, ne_eq] at within
      obtain ⟨⟨⟨other, backslash⟩, line⟩, more⟩ := within
      exact step (.unitWithin_plain compact _ other backslash line) (ih more)
    · exact escape

/-- The characters between double quotes are read up to the quote. -/
theorem Reads.doubleQuoted_body (compact : around.mode ≠ .spaced) (body rest : List Char)
    (quotable : isQuotable body = true) :
    Reads around (.once Rule.doubleQuoted.body) (body ++ '"' :: rest) ('"' :: rest) [] :=
  .many_compact compact
    (.again_unitWithin compact (by decide) body rest (isQuotable_eq body ▸ quotable))

/-- A quoted text is read to its closing quote. -/
theorem Reads.between_quotes (compact : around.mode ≠ .spaced) (quote : Char)
    (body rest : List Char) {rule : Rule} {asked : List Asked}
    (inner : Reads around (.once (.call rule)) (body ++ quote :: rest) (quote :: rest) asked) :
    Reads around (.once (inOrder [.literal [quote], .call rule, .literal [quote]]))
      (quote :: body ++ quote :: rest) rest asked := by
  have opening : Reads around (.once (.literal [quote])) (quote :: body ++ quote :: rest)
      (body ++ quote :: rest) [] := .literal around [quote] (body ++ quote :: rest)
  have closing : Reads around (.once (.literal [quote])) (padded around (quote :: rest)) rest
      [] := by
    rw [padded_compact compact]
    exact .literal around [quote] rest
  have whole : Reads around (.once (inOrder [.literal [quote], .call rule, .literal [quote]]))
      (quote :: body ++ quote :: rest) rest ([] ++ (asked ++ [])) := by
    refine opening.seq ?_
    rw [padded_compact compact]
    exact inner.seq closing
  rw [List.nil_append, List.append_nil] at whole
  exact whole

/-- A text between double quotes is read to its closing quote. -/
theorem Reads.string_body (compact : around.mode ≠ .spaced) (body rest : List Char)
    {asked : List Asked}
    (inner : Reads around (.once (.call .doubleQuoted)) (body ++ '"' :: rest) ('"' :: rest) asked) :
    Reads around (.once Rule.string.body) ('"' :: body ++ '"' :: rest) rest asked :=
  (Reads.between_quotes compact '"' body rest inner).choice_first _

/-- A text between single quotes is read to its closing quote. -/
theorem Reads.string_body_single (compact : around.mode ≠ .spaced) (body rest : List Char)
    {asked : List Asked} (inner : Reads around (.once (.call .singleQuoted))
      (body ++ '\'' :: rest) ('\'' :: rest) asked) :
    Reads around (.once Rule.string.body) ('\'' :: body ++ '\'' :: rest) rest asked :=
  .choice_second (.seq (.literal_head around [] _ (by decide)) _)
    (.between_quotes compact '\'' body rest inner)

/-- A text that starts with no quote has no quoted text. -/
theorem Rejects.string_body {c : Char} (rest : List Char) (double : c ≠ '"') (single : c ≠ '\'') :
    Rejects around (.once Rule.string.body) (c :: rest) :=
  .choice (.seq (.literal_head around [] rest double) _)
    (.seq (.literal_head around [] rest single) _)

/-- One character of a template, or two of which the first is a backslash. -/
def templateUnit : Peg.Expression Rule :=
  firstOf [inOrder ["\\", anyChar], inOrder ["$", .notAhead "\x7b"],
    inOrder [.notAhead (firstOf ["\x60", "\\", "$"]), anyChar]]

/-- A backslash takes the character after it along. -/
theorem Reads.templateUnit_escape (compact : around.mode ≠ .spaced) (c : Char) (rest : List Char) :
    Reads around (.once templateUnit) ('\\' :: c :: rest) rest [] := by
  have first : Reads around (.once (.literal ['\\'])) ('\\' :: c :: rest) (c :: rest) [] :=
    .literal around ['\\'] (c :: rest)
  refine .choice_first (first.seq ?_) _
  rw [padded_compact compact]
  exact .oneOf around _ c rest rfl

/-- A dollar sign that starts no expression stands for itself. -/
theorem Reads.templateUnit_dollar (compact : around.mode ≠ .spaced) (rest : List Char)
    (free : rest.head? ≠ some '\x7b') :
    Reads around (.once templateUnit) ('$' :: rest) rest [] := by
  have dollar : Reads around (.once (.literal ['$'])) ('$' :: rest) rest [] :=
    .literal around ['$'] rest
  have shut : Reads around (.once (.notAhead "\x7b")) (padded around rest) rest [] := by
    rw [padded_compact compact]
    refine .notAhead ?_
    cases rest with
    | nil => exact .literal _ _ _ rfl
    | cons c rest => exact .literal_head _ [] rest fun same => free (by rw [same]; rfl)
  have noEscape : Rejects around (.once (inOrder ["\\", anyChar])) ('$' :: rest) :=
    .seq (.literal_head around [] rest (by decide)) _
  exact .choice_second noEscape ((dollar.seq shut).choice_first _)

/-- Any other character but a tick stands for itself. -/
theorem Reads.templateUnit_plain (compact : around.mode ≠ .spaced) {c : Char} (rest : List Char)
    (tick : c ≠ '\x60') (backslash : c ≠ '\\') (dollar : c ≠ '$') :
    Reads around (.once templateUnit) (c :: rest) rest [] := by
  have free : Reads around (.once (.notAhead (firstOf ["\x60", "\\", "$"]))) (c :: rest)
      (c :: rest) [] :=
    .notAhead (.choice (.literal_head _ [] rest tick)
      (.choice (.literal_head _ [] rest backslash) (.literal_head _ [] rest dollar)))
  refine .choice_second (.seq (.literal_head around [] rest backslash) _)
    (.choice_second (.seq (.literal_head around [] rest dollar) _) (free.seq ?_))
  rw [padded_compact compact]
  exact .oneOf around _ c rest rfl

/-- No character of a template stands at a tick, at the start of an expression, at a backslash
without a character after it, or at the end. -/
theorem Rejects.templateUnit (compact : around.mode ≠ .spaced) (text : List Char)
    (ends : text = [] ∨ text = ['\\'] ∨ (∃ rest, text = '\x60' :: rest) ∨
      ∃ rest, text = '$' :: '\x7b' :: rest) :
    Rejects around (.once templateUnit) text := by
  rcases ends with rfl | rfl | ⟨rest, rfl⟩ | ⟨rest, rfl⟩
  · refine .choice (.seq (.literal _ _ _ rfl) _) (.choice (.seq (.literal _ _ _ rfl) _) ?_)
    have free : Reads around (.once (.notAhead (firstOf ["\x60", "\\", "$"]))) [] [] [] :=
      .notAhead (.choice (.literal _ _ _ rfl) (.choice (.literal _ _ _ rfl) (.literal _ _ _ rfl)))
    refine .seq_late free ?_
    rw [padded_compact compact]
    exact .oneOf _ _ _ rfl
  · have first : Reads around (.once (.literal ['\\'])) ['\\'] [] [] := .literal around ['\\'] []
    have lone : Rejects around (.once (inOrder ["\\", anyChar])) ['\\'] := by
      refine .seq_late first ?_
      rw [padded_compact compact]
      exact .oneOf _ _ _ rfl
    have tick : '\\' ≠ '\x60' := by decide
    have listed := Reads.choice_second (.literal_head around.refuting [] [] tick)
      ((Reads.literal around.refuting ['\\'] []).choice_first (.literal ['$']))
    exact .choice lone (.choice (.seq (.literal_head around [] [] (by decide)) _)
      (.seq (.notAhead listed) _))
  · have listed := (Reads.literal around.refuting ['\x60'] rest).choice_first (firstOf ["\\", "$"])
    exact .choice (.seq (.literal_head around [] rest (by decide)) _)
      (.choice (.seq (.literal_head around [] rest (by decide)) _) (.seq (.notAhead listed) _))
  · have dollar : Reads around (.once (.literal ['$'])) ('$' :: '\x7b' :: rest) ('\x7b' :: rest)
        [] := .literal around ['$'] _
    have hole : Rejects around (.once (inOrder ["$", .notAhead "\x7b"])) ('$' :: '\x7b' :: rest) := by
      refine .seq_late dollar ?_
      rw [padded_compact compact]
      exact .notAhead (.literal around.refuting ['\x7b'] rest)
    have tick : '$' ≠ '\x60' := by decide
    have backslash : '$' ≠ '\\' := by decide
    have listed := Reads.choice_second (.literal_head around.refuting [] ('\x7b' :: rest) tick)
      (Reads.choice_second (.literal_head around.refuting [] ('\x7b' :: rest) backslash)
        (Reads.literal around.refuting ['$'] ('\x7b' :: rest)))
    exact .choice (.seq (.literal_head around [] _ (by decide)) _)
      (.choice hole (.seq (.notAhead listed) _))

end

end PluginSandbox.Syntax
