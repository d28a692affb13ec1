import PluginSandbox.Proofs.Syntax.Literals

/-!
# Tokens and brackets

A text falls into tokens, and a stack of open brackets says how the next one is to be read: inside
a template its characters stand for themselves, and elsewhere they form words, quoted texts and
marks. Whatever a rule of the grammar matches is a run of whole tokens that closes the brackets it
opens. So no rule, however odd the way in which it reads a text, finds a mark in the middle of a
token, and a text without `=>` among its tokens has no arrow function in it.
-/
namespace PluginSandbox.Syntax

open Peg (Place Surroundings Derives Tree)
open Peg.Grammar (inside)

/-- A bracket that is open. -/
inductive Bracket where
  /-- A parenthesis. -/
  | round
  /-- A square bracket. -/
  | square
  /-- A brace. -/
  | curly
  /-- The start of an expression inside a template. -/
  | hole
  /-- The start of a template. -/
  | tick
  deriving DecidableEq, Repr

/-- Whether characters after these open brackets, the innermost first, form tokens; in a template
they stand for themselves. -/
def inCode : List Bracket → Bool
  | .tick :: _ => false
  | _ => true

/-- The marks that are no brackets. -/
def plainMarks : List Char := ",;:.?!~+-*/%<>=&|^".toList

/-- The bracket that a character opens outside templates. -/
def Bracket.opened (c : Char) : Option Bracket :=
  match c with
  | '(' => some .round
  | '[' => some .square
  | '\x7b' => some .curly
  | '\x60' => some .tick
  | _ => none

/-- The character that closes a bracket. -/
def Bracket.closing : Bracket → Char
  | .round => ')'
  | .square => ']'
  | .curly | .hole => '\x7d'
  | .tick => '\x60'

/-- The open brackets after a bracket that opens, or else after the innermost one closes. -/
def afterBracket (c : Char) : Option Bracket → List Bracket → Option (List Bracket)
  | some bracket, stack => some (bracket :: stack)
  | none, bracket :: others => if bracket.closing = c then some others else none
  | none, [] => none

/-- The open brackets after a mark, if the mark may stand there. -/
def afterMark (stack : List Bracket) (c : Char) : Option (List Bracket) :=
  if plainMarks.contains c then if inCode stack then some stack else none
  else afterBracket c (if inCode stack then Bracket.opened c else none) stack

/-- Whether a mark may stand before a text: no comment and no arrow begins there. -/
def standsBefore (c : Char) (rest : List Char) : Bool :=
  match c, rest with
  | '=', '>' :: _ => false
  | '/', '/' :: _ => false
  | '/', '*' :: _ => false
  | _, _ => true

/-- A text is a run of tokens that closes the given brackets, the innermost first. -/
inductive Lexes : List Bracket → List Char → Prop where
  /-- Nothing is left, and nothing is open. -/
  | done : Lexes [] []
  /-- A blank. -/
  | blank {stack rest} (c : Char) (code : inCode stack = true) (blank : isSpace c = true)
      (lexes : Lexes stack rest) : Lexes stack (c :: rest)
  /-- A word, or a numeral that no point follows. -/
  | word {stack rest} (word : List Char) (code : inCode stack = true) (filled : word ≠ [])
      (isWord : word.all isIdentifierChar = true) (ends : startsWord rest = false)
      (numeral : startsName word = true ∨ (word.all Char.isDigit = true ∧ rest.head? ≠ some '.'))
      (lexes : Lexes stack rest) : Lexes stack (word ++ rest)
  /-- A quoted text. -/
  | quoted {stack rest} (body : List Char) (code : inCode stack = true)
      (quotable : isQuotable body = true) (lexes : Lexes stack rest) :
    Lexes stack ('"' :: body ++ '"' :: rest)
  /-- A mark, which may open or close a bracket. -/
  | mark {stack after rest} (c : Char) (marked : afterMark stack c = some after)
      (stands : standsBefore c rest = true) (lexes : Lexes after rest) : Lexes stack (c :: rest)
  /-- The start of an expression inside a template. -/
  | hole {stack rest} (lexes : Lexes (.hole :: .tick :: stack) rest) :
    Lexes (.tick :: stack) ('$' :: '\x7b' :: rest)
  /-- A character of a template. -/
  | piece {stack rest} (c : Char) (tick : c ≠ '\x60') (backslash : c ≠ '\\')
      (hole : c = '$' → rest.head? ≠ some '\x7b') (lexes : Lexes (.tick :: stack) rest) :
    Lexes (.tick :: stack) (c :: rest)
  /-- A backslash in a template and the character after it. -/
  | escape {stack rest} (c : Char) (lexes : Lexes (.tick :: stack) rest) :
    Lexes (.tick :: stack) ('\\' :: c :: rest)

/-- A character that is a mark somewhere. -/
def marks : List Char := "()[]\x7b\x7d\x60,;:.?!~+-*/%<>=&|^".toList

/-- Only marks open and close brackets. -/
theorem mem_marks {stack after : List Bracket} {c : Char} (marked : afterMark stack c = some after) :
    c ∈ marks := by
  have plain : ∀ d ∈ plainMarks, d ∈ marks := forall_of_all (by decide)
  rw [afterMark] at marked
  split at marked
  case isTrue listed => exact plain c (List.contains_iff_mem.mp listed)
  case isFalse =>
    cases opened : if inCode stack = true then Bracket.opened c else none with
    | some bracket =>
      split at opened
      · unfold Bracket.opened at opened
        split at opened <;> first | decide | cases opened
      · cases opened
    | none =>
      rw [opened] at marked
      cases stack with
      | nil => cases marked
      | cons bracket stack =>
        rw [afterBracket] at marked
        split at marked
        · rename_i closes
          subst closes
          cases bracket <;> decide
        · cases marked

/-- No mark is a word character, a blank, a quote, a backslash or a dollar sign. -/
theorem mark_distinct {c : Char} (marked : c ∈ marks) :
    isIdentifierChar c = false ∧ isSpace c = false ∧ c ≠ '"' ∧ c ≠ '\\' ∧ c ≠ '$' := by
  have distinct : ∀ d ∈ marks,
      isIdentifierChar d = false ∧ isSpace d = false ∧ d ≠ '"' ∧ d ≠ '\\' ∧ d ≠ '$' :=
    forall_of_all (by decide)
  exact distinct c marked

/-- No blank starts at a word character. -/
theorem settled_of_word {c : Char} {rest : List Char} (isWord : isIdentifierChar c = true) :
    startsBlank (c :: rest) = false := by
  have slash : c ≠ '/' := by
    rintro rfl
    cases isWord
  have space : isSpace c = false := by
    cases blank : isSpace c with
    | false => rfl
    | true =>
      simp only [isSpace, Bool.or_eq_true, decide_eq_true_eq] at blank
      rcases blank with ((((rfl | rfl) | rfl) | rfl) | rfl) | rfl <;> cases isWord
  rw [startsBlank]
  · exact space
  · exact fun _ same => absurd same slash
  · exact fun _ same => absurd same slash

/-- No blank starts at a mark that may stand there. -/
theorem settled_of_mark {c : Char} {rest : List Char} (marked : c ∈ marks)
    (stands : standsBefore c rest = true) : startsBlank (c :: rest) = false := by
  rw [startsBlank]
  · exact (mark_distinct marked).2.1
  · rintro others rfl rfl
    cases stands
  · rintro others rfl rfl
    cases stands

section

variable {stack after base : List Bracket} {text rest : List Char}

/-- Brackets below those that a mark concerns do not matter to it. -/
theorem afterMark_append {c : Char} (marked : afterMark stack c = some after)
    (code : inCode base = true) : afterMark (stack ++ base) c = some (after ++ base) := by
  have same : inCode (stack ++ base) = inCode stack := by
    cases stack with
    | nil => exact code
    | cons bracket stack => cases bracket <;> rfl
  rw [afterMark] at marked ⊢
  rw [same]
  split at marked
  case isTrue listed =>
    rw [if_pos listed]
    split at marked
    case isTrue here =>
      rw [if_pos here, Option.some.inj marked]
    case isFalse => cases marked
  case isFalse listed =>
    rw [if_neg listed]
    cases opened : if inCode stack = true then Bracket.opened c else none with
    | some bracket =>
      rw [opened] at marked
      cases marked
      rfl
    | none =>
      rw [opened] at marked
      cases stack with
      | nil => cases marked
      | cons bracket stack =>
        rw [afterBracket] at marked
        split at marked
        case isTrue closes =>
          cases marked
          exact if_pos closes
        case isFalse => cases marked

/-- A mark leads from one stack to the next. -/
theorem Lexes.after_mark {c : Char} (lexes : Lexes stack (c :: rest))
    (marked : afterMark stack c = some after) :
    Lexes after rest ∧ standsBefore c rest = true := by
  obtain ⟨word, space, quote, backslash, dollar⟩ := mark_distinct (mem_marks marked)
  generalize here : c :: rest = text at lexes
  cases lexes with
  | done => cases here
  | blank d code blank lexes =>
    cases here
    exact absurd blank (by rw [space]; exact Bool.false_ne_true)
  | word run code filled isWord ends numeral lexes =>
    cases run with
    | nil => exact absurd rfl filled
    | cons d run =>
      cases here
      rw [List.all_cons, word, Bool.false_and] at isWord
      cases isWord
  | quoted body code quotable lexes =>
    cases here
    exact absurd rfl quote
  | mark d same stands lexes =>
    cases here
    cases marked.symm.trans same
    exact ⟨lexes, stands⟩
  | hole lexes =>
    cases here
    exact absurd rfl dollar
  | piece d tick _ _ lexes =>
    cases here
    rw [afterMark] at marked
    split at marked
    · cases marked
    · rw [inCode, if_neg Bool.false_ne_true, afterBracket] at marked
      split at marked
      · rename_i closes
        exact absurd closes.symm tick
      · cases marked
  | escape d lexes =>
    cases here
    exact absurd rfl backslash

/-- A template leads into an expression. -/
theorem Lexes.after_hole (lexes : Lexes (.tick :: stack) ('$' :: '\x7b' :: rest)) :
    Lexes (.hole :: .tick :: stack) rest := by
  generalize here : '$' :: '\x7b' :: rest = text at lexes
  cases lexes with
  | blank _ code => cases code
  | word _ code => cases code
  | quoted _ code => cases code
  | hole lexes =>
    cases here
    exact lexes
  | mark c marked =>
    cases here
    exact absurd rfl (mark_distinct (mem_marks marked)).2.2.2.2
  | piece c tick backslash hole =>
    cases here
    exact absurd rfl (hole rfl)
  | escape c => cases here

/-- Blanks lead from a token to the next one. -/
theorem Lexes.after_blanks (lexes : Lexes stack text) (code : inCode stack = true) :
    Lexes stack (afterBlanks text) := by
  have here := lexes
  induction lexes with
  | done => exact here
  | blank c _ blank lexes ih =>
    rw [afterBlanks_blank _ blank]
    exact ih code lexes
  | word run _ filled isWord =>
    rw [afterBlanks_settled]
    · exact here
    · cases run with
      | nil => exact absurd rfl filled
      | cons c run =>
        rw [List.all_cons, Bool.and_eq_true] at isWord
        exact settled_of_word isWord.1
  | quoted body =>
    rw [afterBlanks_settled rfl]
    exact here
  | mark c marked stands =>
    rw [afterBlanks_settled]
    · exact here
    · exact settled_of_mark (mem_marks marked) stands
  | hole | piece | escape => cases code

/-- A word leads to the token after it, and a word that starts no name is a numeral. -/
theorem Lexes.after_word (lexes : Lexes stack text) (code : inCode stack = true)
    (starts : startsWord text = true) :
    Lexes stack (dropWord text) ∧ (startsName text = true ∨
      ((firstWord text).all Char.isDigit = true ∧ (dropWord text).head? ≠ some '.')) := by
  cases lexes with
  | done => cases starts
  | blank c _ blank =>
    rw [startsWord] at starts
    have blank_starts : startsBlank [c] = false := settled_of_word starts
    simp [startsBlank, blank] at blank_starts
  | word run _ filled isWord ends numeral lexes =>
    rw [dropWord_append isWord ends, firstWord_append isWord ends]
    refine ⟨lexes, numeral.imp_left fun name => ?_⟩
    cases run with
    | nil => cases name
    | cons c run => exact name
  | quoted body => cases starts
  | mark c marked =>
    rw [startsWord, (mark_distinct (mem_marks marked)).1] at starts
    cases starts
  | hole | piece | escape => cases code

/-- A quote leads to the token after the quoted text. -/
theorem Lexes.after_quoted (lexes : Lexes stack ('"' :: text)) (code : inCode stack = true) :
    ∃ body rest, text = body ++ '"' :: rest ∧ isQuotable body = true ∧ Lexes stack rest := by
  generalize here : '"' :: text = whole at lexes
  cases lexes with
  | done => cases here
  | blank c _ blank =>
    cases here
    cases blank
  | word run _ filled isWord =>
    cases run with
    | nil => exact absurd rfl filled
    | cons c run =>
      cases here
      rw [List.all_cons, Bool.and_eq_true] at isWord
      exact absurd isWord.1 (by decide)
  | quoted body _ quotable lexes =>
    cases here
    exact ⟨body, _, rfl, quotable, lexes⟩
  | mark c marked =>
    cases here
    exact absurd rfl (mark_distinct (mem_marks marked)).2.2.1
  | hole | piece | escape => cases code

/-- Outside templates no token starts with a single quote. -/
theorem Lexes.not_single_quote (lexes : Lexes stack ('\'' :: text)) (code : inCode stack = true) :
    False := by
  generalize here : '\'' :: text = whole at lexes
  cases lexes with
  | done => cases here
  | blank c _ blank =>
    cases here
    cases blank
  | word run _ filled isWord =>
    cases run with
    | nil => exact filled rfl
    | cons c run =>
      cases here
      rw [List.all_cons, Bool.and_eq_true] at isWord
      exact absurd isWord.1 (by decide)
  | quoted body => cases here
  | mark c marked =>
    cases here
    exact absurd (mem_marks marked) (by decide)
  | hole | piece | escape => cases code

/-- In a template, a backslash leads past the character after it. -/
theorem Lexes.after_escape {c : Char} (lexes : Lexes (.tick :: stack) ('\\' :: c :: rest)) :
    Lexes (.tick :: stack) rest := by
  generalize here : '\\' :: c :: rest = whole at lexes
  cases lexes with
  | blank _ code => cases code
  | word _ code => cases code
  | quoted _ code => cases code
  | hole => cases here
  | mark d marked =>
    cases here
    exact absurd rfl (mark_distinct (mem_marks marked)).2.2.2.1
  | piece d tick backslash =>
    cases here
    exact absurd rfl backslash
  | escape d lexes =>
    cases here
    exact lexes

/-- In a template, every other character but a tick and the start of an expression leads to the
next one. -/
theorem Lexes.after_piece {c : Char} (lexes : Lexes (.tick :: stack) (c :: rest))
    (tick : c ≠ '\x60') (backslash : c ≠ '\\') (hole : c = '$' → rest.head? ≠ some '\x7b') :
    Lexes (.tick :: stack) rest := by
  generalize here : c :: rest = whole at lexes
  cases lexes with
  | blank _ code => cases code
  | word _ code => cases code
  | quoted _ code => cases code
  | hole =>
    cases here
    exact absurd rfl (hole rfl)
  | mark d marked =>
    cases here
    rw [afterMark] at marked
    split at marked
    · cases marked
    · rw [inCode, if_neg Bool.false_ne_true, afterBracket] at marked
      split at marked
      · rename_i closes
        exact absurd closes.symm tick
      · cases marked
  | piece d _ _ _ lexes =>
    cases here
    exact lexes
  | escape d =>
    cases here
    exact absurd rfl backslash

/-- No arrow is found among the tokens. -/
theorem Lexes.not_arrow (lexes : Lexes stack ('=' :: '>' :: rest)) (code : inCode stack = true) :
    False := by
  have marked : afterMark stack '=' = some stack := by
    rw [afterMark, if_pos (by decide), if_pos code]
  exact Bool.false_ne_true (lexes.after_mark marked).2

end

end PluginSandbox.Syntax
