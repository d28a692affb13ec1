import PluginSandbox.Proofs.Syntax.Reading
import PluginSandbox.Syntax.Printer

/-!
# Words

Names, keywords and reserved words are read to the end of the run of word characters in which they
start. So what a rule for words does at a place depends on that run alone.
-/
namespace PluginSandbox.Syntax

open Peg (Surroundings)
open Peg.Expression (firstOf)
open Peg.Grammar (inside)

/-- The run of word characters that a text starts with. -/
def firstWord (text : List Char) : List Char := text.takeWhile isIdentifierChar

/-- The text after the run of word characters that it starts with. -/
def dropWord (text : List Char) : List Char := text.dropWhile isIdentifierChar

/-- Whether a text starts with a word character. -/
def startsWord : List Char → Bool
  | c :: _ => isIdentifierChar c
  | [] => false

/-- Whether a text starts with a name. -/
def startsName : List Char → Bool
  | c :: _ => isIdentifierStart c
  | [] => false

/-- What holds of each of a list of characters is decided for the list. -/
theorem forall_of_all {p : Char → Prop} [DecidablePred p] {listed : List Char}
    (all : listed.all (fun d => decide (p d)) = true) : ∀ d ∈ listed, p d :=
  fun d member => of_decide_eq_true (List.all_eq_true.mp all d member)

/-- A text is its first word and the rest. -/
theorem firstWord_append_dropWord (text : List Char) : firstWord text ++ dropWord text = text :=
  List.takeWhile_append_dropWhile

/-- A word that ends is the first word of the text. -/
theorem firstWord_append {word rest : List Char} (isWord : word.all isIdentifierChar = true)
    (ends : startsWord rest = false) : firstWord (word ++ rest) = word := by
  rw [firstWord, List.takeWhile_append_of_pos (List.all_eq_true.mp isWord)]
  cases rest with
  | nil => exact List.append_nil word
  | cons c rest =>
    rw [List.takeWhile_cons_of_neg (by simpa [startsWord] using ends), List.append_nil]

/-- What follows a word that ends is the rest of the text. -/
theorem dropWord_append {word rest : List Char} (isWord : word.all isIdentifierChar = true)
    (ends : startsWord rest = false) : dropWord (word ++ rest) = rest := by
  rw [dropWord, List.dropWhile_append_of_pos (List.all_eq_true.mp isWord)]
  cases rest with
  | nil => rfl
  | cons c rest => rw [List.dropWhile_cons_of_neg (by simpa [startsWord] using ends)]

/-- A text that starts with a name does so whatever comes after it. -/
theorem startsName_append {word : List Char} (rest : List Char) (starts : startsName word = true) :
    startsName (word ++ rest) = true := by
  cases word with
  | nil => cases starts
  | cons c others => exact starts

/-- No word goes on after the first word. -/
theorem startsWord_dropWord (text : List Char) : startsWord (dropWord text) = false := by
  induction text with
  | nil => rfl
  | cons c text ih =>
    rw [dropWord, List.dropWhile_cons]
    split
    case isTrue => exact ih
    case isFalse lacks => simpa [startsWord] using lacks

/-- A character that starts names goes on with them. -/
theorem isIdentifierChar_of_start {c : Char} (starts : isIdentifierStart c = true) :
    isIdentifierChar c = true := by
  simp only [isIdentifierStart, isIdentifierChar, Char.isAlphanum, Bool.or_eq_true] at starts ⊢
  rcases starts with (letter | underscore) | dollar
  · exact .inl (.inl (.inl letter))
  · exact .inl (.inr underscore)
  · exact .inr dollar

section

variable {around : Surroundings} {text : List Char}

/-- Between the parts of a word no blanks are passed over. -/
theorem padded_compact (compact : around.mode ≠ .spaced) (text : List Char) :
    padded around text = text := by
  rw [padded, if_neg compact]

/-- Between the parts of a word, the first repetition is like a further one. -/
theorem Reads.many_compact (compact : around.mode ≠ .spaced) {e : Peg.Expression Rule}
    {rest : List Char} {asked : List Asked} (again : Reads around (.again e) text rest asked) :
    Reads around (.once (.many e)) text rest asked := by
  refine .many_of_again (fun place _ => ?_) again
  rw [Peg.Grammar.padded, if_neg compact]

/-- A letter, an underscore or a dollar sign starts a name. -/
theorem Reads.identifierStart {c : Char} (rest : List Char) (starts : isIdentifierStart c = true) :
    Reads around (.once (.call .identifierStart)) (c :: rest) rest [] := by
  refine .hidden rfl ?_
  simp only [isIdentifierStart, Bool.or_eq_true, beq_iff_eq] at starts
  by_cases letter : c.isAlpha = true
  · exact .choice_first (.oneOf around _ c rest letter) _
  · have differs : Rejects around (.once (.oneOf Char.isAlpha)) (c :: rest) :=
      .oneOf around _ _ (by simpa using letter)
    refine .choice_second differs ?_
    rcases starts with (letter' | rfl) | rfl
    · exact absurd letter' letter
    · exact .choice_first (.literal around ['_'] rest) _
    · exact .choice_second (.literal around _ _ rfl) (.literal around ['$'] rest)

/-- Nothing else starts a name. -/
theorem Rejects.identifierStart (other : startsName text = false) :
    Rejects around (.once (.call .identifierStart)) text := by
  refine .call ?_
  cases text with
  | nil => exact .choice (.oneOf _ _ _ rfl) (.choice (.literal _ _ _ rfl) (.literal _ _ _ rfl))
  | cons c rest =>
    simp only [startsName, isIdentifierStart, Bool.or_eq_false_iff, beq_eq_false_iff_ne] at other
    obtain ⟨⟨letter, underscore⟩, dollar⟩ := other
    refine .choice (.oneOf _ _ _ (by simpa using letter)) (.choice ?_ ?_)
    · exact .literal_head _ _ _ underscore
    · exact .literal_head _ _ _ dollar

/-- A word character goes on with a name. -/
theorem Reads.identifierChar {c : Char} (rest : List Char) (goesOn : isIdentifierChar c = true) :
    Reads around (.once (.call .identifierChar)) (c :: rest) rest [] := by
  refine .hidden rfl ?_
  simp only [isIdentifierChar, Bool.or_eq_true, beq_iff_eq] at goesOn
  by_cases letter : c.isAlphanum = true
  · exact .choice_first (.oneOf around _ c rest letter) _
  · have differs : Rejects around (.once (.oneOf Char.isAlphanum)) (c :: rest) :=
      .oneOf around _ _ (by simpa using letter)
    refine .choice_second differs ?_
    rcases goesOn with (letter' | rfl) | rfl
    · exact absurd letter' letter
    · exact .choice_first (.literal around ['_'] rest) _
    · exact .choice_second (.literal around _ _ rfl) (.literal around ['$'] rest)

/-- Nothing else goes on with a name. -/
theorem Rejects.identifierChar (other : startsWord text = false) :
    Rejects around (.once (.call .identifierChar)) text := by
  refine .call ?_
  cases text with
  | nil => exact .choice (.oneOf _ _ _ rfl) (.choice (.literal _ _ _ rfl) (.literal _ _ _ rfl))
  | cons c rest =>
    simp only [startsWord, isIdentifierChar, Bool.or_eq_false_iff, beq_eq_false_iff_ne] at other
    obtain ⟨⟨letter, underscore⟩, dollar⟩ := other
    refine .choice (.oneOf _ _ _ (by simpa using letter)) (.choice ?_ ?_)
    · exact .literal_head _ _ _ underscore
    · exact .literal_head _ _ _ dollar

/-- A literal that starts with a word character rejects a text that does not. -/
theorem Rejects.literal_word {c : Char} (characters : List Char)
    (goesOn : isIdentifierChar c = true) (other : startsWord text = false) :
    Rejects around (.once (.literal (c :: characters))) text := by
  cases text with
  | nil => exact .literal around _ _ rfl
  | cons d rest =>
    refine .literal_head around characters rest ?_
    rintro rfl
    exact Bool.false_ne_true (other.symm.trans goesOn)

/-- Word characters are repeated to the end of the word. -/
theorem Reads.again_identifierChar (compact : around.mode ≠ .spaced) (text : List Char) :
    Reads around (.again (.call .identifierChar)) text (dropWord text) [] := by
  induction text with
  | nil =>
    refine .again_none ?_
    rw [padded_compact compact]
    exact .identifierChar rfl
  | cons c rest ih =>
    by_cases goesOn : isIdentifierChar c = true
    · rw [dropWord, List.dropWhile_cons_of_pos goesOn]
      have one : Reads around (.once (.call .identifierChar)) (padded around (c :: rest)) rest [] := by
        rw [padded_compact compact]
        exact .identifierChar rest goesOn
      exact one.again_some ih
    · rw [dropWord, List.dropWhile_cons_of_neg goesOn]
      refine .again_none ?_
      rw [padded_compact compact]
      exact .identifierChar (by simpa [startsWord] using goesOn)

/-- Word characters are read to the end of the word. -/
theorem Reads.many_identifierChar (compact : around.mode ≠ .spaced) (text : List Char) :
    Reads around (.once (.many (.call .identifierChar))) text (dropWord text) [] :=
  .many_compact compact (.again_identifierChar compact text)

/-- A list of words in which no word starts with one that comes before it. -/
def IsLexicon (words : List (List Char)) : Prop :=
  words ≠ [] ∧ (∀ word ∈ words, word ≠ [] ∧ word.all isIdentifierChar = true) ∧
    words.Pairwise fun earlier later => earlier.isPrefixOf later = false

instance (words : List (List Char)) : Decidable (IsLexicon words) := by
  unfold IsLexicon
  infer_instance

/-- A word that a text starts with starts the first word of the text. -/
theorem isPrefixOf_firstWord {word : List Char} (isWord : word.all isIdentifierChar = true)
    (starts : word.isPrefixOf text = true) : word.isPrefixOf (firstWord text) = true := by
  obtain ⟨rest, rfl⟩ := List.isPrefixOf_iff_prefix.mp starts
  rw [firstWord, List.takeWhile_append_of_pos (List.all_eq_true.mp isWord)]
  exact List.isPrefixOf_iff_prefix.mpr (List.prefix_append _ _)

/-- One of several words is read if it is the first word of the text. -/
theorem Reads.word (compact : around.mode ≠ .spaced) (spellings : List String)
    (lexicon : IsLexicon (spellings.map String.toList))
    (known : firstWord text ∈ spellings.map String.toList) :
    Reads around (.once (Rule.word spellings)) text (dropWord text) [] := by
  obtain ⟨before, after, split⟩ := List.append_of_mem known
  have earlier : ∀ other ∈ before, other.isPrefixOf text = false := by
    intro other member
    cases starts : other.isPrefixOf text with
    | false => rfl
    | true =>
      have listed : other ∈ spellings.map String.toList := by
        rw [split]
        exact List.mem_append_left _ member
      have within := isPrefixOf_firstWord (lexicon.2.1 other listed).2 starts
      have distinct := lexicon.2.2
      rw [split, List.pairwise_append] at distinct
      rw [distinct.2.2 other member _ List.mem_cons_self] at within
      cases within
  have literals : (spellings.map fun spelling => (.literal spelling.toList : Peg.Expression Rule))
      = before.map .literal ++ .literal (firstWord text) :: after.map .literal := by
    rw [← List.map_cons, ← List.map_append, ← split, List.map_map]
    rfl
  have first : Reads around (.once (firstOf (spellings.map fun spelling =>
      .literal spelling.toList))) text (dropWord text) [] := by
    have here := Reads.literal around (firstWord text) (dropWord text)
    rw [firstWord_append_dropWord] at here
    rw [literals]
    refine .firstOf_split (fun other member => ?_) here
    obtain ⟨word, listed, rfl⟩ := List.mem_map.mp member
    exact .literal around word text (earlier word listed)
  have ends : Reads around (.once (.notAhead (.call .identifierChar)))
      (padded around (dropWord text)) (dropWord text) [] := by
    rw [padded_compact compact]
    exact .notAhead (.identifierChar (startsWord_dropWord text))
  exact first.seq ends

/-- Every other text is rejected. -/
theorem Rejects.word (compact : around.mode ≠ .spaced) (spellings : List String)
    (lexicon : IsLexicon (spellings.map String.toList))
    (unknown : firstWord text ∉ spellings.map String.toList) :
    Rejects around (.once (Rule.word spellings)) text := by
  have literals : (spellings.map fun spelling => (.literal spelling.toList : Peg.Expression Rule))
      = (spellings.map String.toList).map .literal := by
    rw [List.map_map]
    rfl
  cases found : (spellings.map String.toList).find? fun word => word.isPrefixOf text with
  | none =>
    refine .seq ?_ _
    rw [literals]
    refine .firstOf_all (by simpa using lexicon.1) fun other member => ?_
    obtain ⟨word, listed, rfl⟩ := List.mem_map.mp member
    exact .literal around word text (eq_false_of_ne_true (List.find?_eq_none.mp found word listed))
  | some word =>
    obtain ⟨starts, before, after, split, earlier⟩ := List.find?_eq_some_iff_append.mp found
    obtain ⟨rest, here⟩ := List.isPrefixOf_iff_prefix.mp starts
    have listed : word ∈ spellings.map String.toList := List.mem_of_find?_eq_some found
    have first : Reads around (.once (firstOf (spellings.map fun spelling =>
        .literal spelling.toList))) text rest [] := by
      rw [literals, split, List.map_append, List.map_cons, ← here]
      refine .firstOf_split (fun other member => ?_) (.literal around word rest)
      obtain ⟨spelling, listed, rfl⟩ := List.mem_map.mp member
      exact .literal around spelling _ (by simpa [here] using earlier spelling listed)
    refine .seq_late first ?_
    rw [padded_compact compact]
    cases goesOn : startsWord rest with
    | false =>
      have isWord := (lexicon.2.1 word listed).2
      rw [← here, firstWord_append isWord goesOn] at unknown
      exact absurd listed unknown
    | true =>
      cases rest with
      | nil => cases goesOn
      | cons c rest => exact .notAhead (.identifierChar rest goesOn)

end

/-- The words that no variable may have as its name. -/
def reservedWords : List String :=
  ["await", "break", "case", "catch", "class", "const", "continue", "debugger", "default",
    "delete", "do", "else", "enum", "export", "extends", "false", "finally", "for", "function",
    "if", "import", "instanceof", "in", "let", "new", "null", "return", "super", "switch", "this",
    "throw", "true", "try", "typeof", "var", "void", "while", "with", "yield"]

/-- The words that a rule consists of, if it is a choice of words. -/
def Rule.words : Rule → List String
  | .reservedWord => reservedWords
  | .keyword word => [word.spelling]
  | .nullLiteral => ["null"]
  | .booleanLiteral => ["true", "false"]
  | .thisExpression => ["this"]
  | .declarationKind => ["const", "let", "var"]
  | .typeOperator => ["keyof", "typeof", "readonly", "unique"]
  | .operator (.binary .instanceOf) => ["instanceof"]
  | .operator (.binary .isIn) => ["in"]
  | _ => []

/-- What a rule that is a choice of words looks like. -/
structure Rule.IsWords (rule : Rule) : Prop where
  /-- It has words. -/
  some : rule.words ≠ []
  /-- It is the choice of its words. -/
  body : rule.body = Rule.word rule.words
  /-- No blanks are passed over inside it. -/
  kind : rule.kind = .atomic
  /-- A word comes before those that it starts. -/
  lexicon : IsLexicon (rule.words.map String.toList)

/-- The rules that have words are choices of words. -/
theorem Rule.isWords {rule : Rule} (some : rule.words ≠ []) : rule.IsWords := by
  cases rule with
  | keyword word => cases word <;> exact ⟨some, rfl, rfl, by decide⟩
  | operator op =>
    rcases op with op | op
    · cases op <;> first | exact ⟨some, rfl, rfl, by decide⟩ | exact absurd rfl some
    · exact absurd rfl some
  | reservedWord | nullLiteral | booleanLiteral | thisExpression | declarationKind | typeOperator =>
    exact ⟨some, rfl, rfl, by decide⟩
  | _ => exact absurd rfl some

section

variable {around : Surroundings} {text : List Char} {rule : Rule}

/-- Inside a rule that is read as a whole no blanks are passed over. -/
theorem inside_atomic (around : Surroundings) : (inside .atomic around).mode ≠ .spaced := nofun

/-- The body of a choice of words reads the first word of the text. -/
theorem Reads.words_body (known : firstWord text ∈ rule.words.map String.toList) :
    Reads (inside rule.kind around) (.once rule.body) text (dropWord text) [] := by
  have some : rule.words ≠ [] := fun none => by rw [none] at known; cases known
  have isWords := Rule.isWords some
  rw [isWords.body, isWords.kind]
  exact .word (inside_atomic around) _ isWords.lexicon known

/-- A choice of words rejects every other text. -/
theorem Rejects.words (some : rule.words ≠ [])
    (unknown : firstWord text ∉ rule.words.map String.toList) :
    Rejects around (.once (.call rule)) text := by
  have isWords := Rule.isWords some
  refine .call ?_
  rw [isWords.body, isWords.kind]
  exact .word (inside_atomic around) _ isWords.lexicon unknown

/-- Whether a word is reserved. -/
def isReserved (word : List Char) : Bool := (reservedWords.map String.toList).contains word

/-- A word that is not reserved is none of the reserved words. -/
theorem not_mem_of_not_isReserved {word : List Char} (free : isReserved word = false) :
    word ∉ Rule.reservedWord.words.map String.toList :=
  fun member => Bool.false_ne_true (free.symm.trans (List.contains_iff_mem.mpr member))

/-- Tests make no nodes. -/
theorem makesNodes_refuting (around : Surroundings) : around.refuting.makesNodes = false := by
  obtain ⟨mode, lookahead⟩ := around
  cases lookahead <;> rfl

/-- The test that a name is not reserved passes at the other names. -/
theorem Reads.notAhead_reservedWord (free : isReserved (firstWord text) = false) :
    Reads around (.once (.notAhead (.call .reservedWord))) text text [] :=
  .notAhead (.words (by decide) (not_mem_of_not_isReserved free))

/-- The test that a name is not reserved fails at a reserved word. -/
theorem Rejects.notAhead_reservedWord (reserved : isReserved (firstWord text) = true) :
    Rejects around (.once (.notAhead (.call .reservedWord))) text :=
  .notAhead (.silent nofun (makesNodes_refuting around)
    (.words_body (List.contains_iff_mem.mp reserved)))

/-- The body of a name is read to the end of its word. -/
theorem Reads.identifierName_body (compact : around.mode ≠ .spaced)
    (starts : startsName text = true) :
    Reads around (.once Rule.identifierName.body) text (dropWord text) [] := by
  cases text with
  | nil => cases starts
  | cons c rest =>
    have goesOn := isIdentifierChar_of_start starts
    have first : Reads around (.once (.call .identifierStart)) (c :: rest) rest [] :=
      .identifierStart rest starts
    refine first.seq ?_
    rw [padded_compact compact, dropWord, List.dropWhile_cons_of_pos goesOn]
    exact .many_identifierChar compact rest

/-- A name that is not reserved is read to the end of its word. -/
theorem Reads.identifier_body (compact : around.mode ≠ .spaced) (starts : startsName text = true)
    (free : isReserved (firstWord text) = false) :
    Reads around (.once Rule.identifier.body) text (dropWord text) [] := by
  refine (Reads.notAhead_reservedWord free).seq ?_
  rw [padded_compact compact]
  exact .identifierName_body compact starts

/-- A text that starts with no name is rejected. -/
theorem Rejects.identifierName (none : startsName text = false) :
    Rejects around (.once (.call .identifierName)) text :=
  .call (.seq (.identifierStart none) _)

/-- A text that starts with no name, or with a reserved word, is rejected. -/
theorem Rejects.identifier (none : startsName text = false ∨ isReserved (firstWord text) = true) :
    Rejects around (.once (.call .identifier)) text := by
  refine .call ?_
  cases reserved : isReserved (firstWord text) with
  | true => exact .seq (.notAhead_reservedWord reserved) _
  | false =>
    refine .seq_late (.notAhead_reservedWord reserved) ?_
    have compact : (inside Rule.identifier.kind around).mode ≠ .spaced := nofun
    rw [padded_compact compact]
    rw [reserved] at none
    exact .seq (.identifierStart (none.resolve_right Bool.false_ne_true)) _

end

end PluginSandbox.Syntax
