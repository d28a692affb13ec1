import PluginSandbox.Proofs.Syntax.Alignment

/-!
# Nested texts

Which brackets are open after some characters of code can be told from the characters alone, once
comments, quoted texts and the pieces of templates are set apart. A nested text closes the brackets
that are open before it and those that it opens itself. Nothing inside it closes more than that, so
a brace after it ends whatever the text stands in, and passing over the blanks that it starts with
leads to a nested text again.
-/
namespace PluginSandbox.Syntax

open Peg (Place)

/-- The characters at which a bracket, a quoted text or a comment may start or end. -/
def delimiters : List Char := "()[]\x7b\x7d\x60\"'/".toList

/-- Whether a character in code starts and ends nothing. -/
def isInert (c : Char) : Bool := !delimiters.contains c

/-- The open brackets after a character that is no part of a quoted text or a comment. -/
def afterChar (stack : List Bracket) (c : Char) : Option (List Bracket) :=
  if isInert c then if inCode stack then some stack else none else afterMark stack c

/-- The open brackets after characters that are read one by one. -/
def afterChars : List Bracket → List Char → Option (List Bracket)
  | stack, [] => some stack
  | .tick :: stack, ['$', '\x7b'] => some (.hole :: .tick :: stack)
  | stack, c :: characters => (afterChar stack c).bind (afterChars · characters)

/-- Whether a text starts with a comment. -/
def startsComment : List Char → Bool
  | '/' :: '*' :: _ => true
  | '/' :: '/' :: _ => true
  | _ => false

/-- A comment that ends with its last two characters, whatever follows. -/
def Closes (body : List Char) : Prop :=
  ∀ rest offset, ∃ stop, blockCommentEnd (body ++ rest) offset = some ⟨rest, stop⟩

/-- A text closes the given brackets, the innermost first, and those that it opens. -/
inductive Nested : List Bracket → List Char → Prop where
  /-- Nothing is left, and nothing is open. -/
  | done : Nested [] []
  /-- A character, which may open or close a bracket. -/
  | char {stack after rest} (c : Char) (next : afterChar stack c = some after)
      (free : startsComment (c :: rest) = false) (nested : Nested after rest) :
    Nested stack (c :: rest)
  /-- A comment with an end. -/
  | block {stack rest} (body : List Char) (code : inCode stack = true) (closes : Closes body)
      (nested : Nested stack rest) : Nested stack ('/' :: '*' :: (body ++ rest))
  /-- A comment that runs to the end of its line. -/
  | line {stack rest} (body : List Char) (code : inCode stack = true) (inLine : '\n' ∉ body)
      (nested : Nested stack ('\n' :: rest)) : Nested stack ('/' :: '/' :: (body ++ '\n' :: rest))
  /-- A quoted text. -/
  | quoted {stack rest} (quote : Char) (isQuote : quote = '"' ∨ quote = '\'') (body : List Char)
      (code : inCode stack = true) (within : isQuotedBy quote body = true)
      (nested : Nested stack rest) : Nested stack (quote :: body ++ quote :: rest)
  /-- The start of an expression inside a template. -/
  | hole {stack rest} (nested : Nested (.hole :: .tick :: stack) rest) :
    Nested (.tick :: stack) ('$' :: '\x7b' :: rest)
  /-- A character of a template. -/
  | piece {stack rest} (c : Char) (tick : c ≠ '\x60') (backslash : c ≠ '\\')
      (hole : c = '$' → rest.head? ≠ some '\x7b') (nested : Nested (.tick :: stack) rest) :
    Nested (.tick :: stack) (c :: rest)
  /-- A backslash in a template and the character after it. -/
  | escape {stack rest} (c : Char) (nested : Nested (.tick :: stack) rest) :
    Nested (.tick :: stack) ('\\' :: c :: rest)

/-- What may follow a nested text: nothing, or a brace that closes what the text stands in. -/
def Shuts (tail : List Char) : Prop := tail = [] ∨ tail.head? = some '\x7d'

section

variable {stack after base : List Bracket} {text rest : List Char} {c : Char}

/-- An inert character of code leaves the brackets alone. -/
theorem afterChar_inert (code : inCode stack = true) (inert : isInert c = true) :
    afterChar stack c = some stack := by
  rw [afterChar, if_pos inert, if_pos code]

/-- Of the characters of a template only the tick changes the brackets by itself. -/
theorem tick_of_afterChar (next : afterChar (.tick :: stack) c = some after) : c = '\x60' := by
  rw [afterChar] at next
  split at next
  case isTrue => cases next
  case isFalse =>
    rw [afterMark] at next
    split at next
    case isTrue => cases next
    case isFalse =>
      rw [inCode, if_neg Bool.false_ne_true, afterBracket] at next
      split at next
      case isTrue closes => exact closes.symm
      case isFalse => cases next

/-- A quote changes no brackets by itself. -/
theorem afterChar_quote {quote : Char} (isQuote : quote = '"' ∨ quote = '\'') :
    afterChar stack quote = none := by
  have unmarked : quote ∉ marks ∧ isInert quote = false := by
    rcases isQuote with rfl | rfl <;> decide
  rw [afterChar, unmarked.2, if_neg Bool.false_ne_true]
  cases next : afterMark stack quote with
  | none => rfl
  | some after => exact absurd (mem_marks next) unmarked.1

/-- A character that may follow code leads on from code. -/
theorem inCode_of_afterChar {c : Char} (next : afterChar stack c = some after) (tick : c ≠ '\x60') :
    inCode stack = true := by
  cases stack with
  | nil => rfl
  | cons bracket stack =>
    cases bracket with
    | tick => exact absurd (tick_of_afterChar next) tick
    | _ => rfl

/-- Brackets below those that a character concerns do not matter to it. -/
theorem afterChar_append (next : afterChar stack c = some after) (code : inCode base = true) :
    afterChar (stack ++ base) c = some (after ++ base) := by
  rw [afterChar] at next ⊢
  rw [inCode_append code]
  split at next
  case isTrue inert =>
    rw [if_pos inert]
    split at next
    case isTrue here =>
      cases next
      rw [if_pos here]
    case isFalse => cases next
  case isFalse marked =>
    rw [if_neg marked]
    exact afterMark_append next code

/-- Only a slash starts a comment. -/
theorem startsComment_of_ne (slash : c ≠ '/') : startsComment (c :: rest) = false := by
  rw [startsComment]
  · rintro others ⟨⟩
    exact slash rfl
  · rintro others ⟨⟩
    exact slash rfl

/-- A comment that starts a text starts it in front of another text, too. -/
theorem startsComment_append (starts : startsComment text = true) :
    startsComment (text ++ rest) = true := by
  unfold startsComment at starts
  split at starts
  · rfl
  · rfl
  · cases starts

/-- No comment starts where none starts in front of another text. -/
theorem startsComment_of_append (free : startsComment (text ++ rest) = false) :
    startsComment text = false := by
  cases starts : startsComment text with
  | false => rfl
  | true => rw [startsComment_append starts] at free; cases free

/-- A comment is one of the things that are passed over. -/
theorem startsComment_of_settled (settled : startsBlank text = false) :
    startsComment text = false := by
  unfold startsComment
  split
  · cases settled
  · cases settled
  · rfl

/-- A blank in code leaves the brackets alone. -/
theorem inert_of_blank (blank : isSpace c = true) : isInert c = true := by
  simp only [isSpace, Bool.or_eq_true, decide_eq_true_eq] at blank
  rcases blank with ((((rfl | rfl) | rfl) | rfl) | rfl) | rfl <;> decide

/-- An inert character starts no comment. -/
theorem startsComment_of_inert (inert : isInert c = true) : startsComment (c :: rest) = false := by
  refine startsComment_of_ne ?_
  rintro rfl
  cases inert

/-- A nested text that is empty closes nothing. -/
theorem Nested.stack_eq_nil (nested : Nested stack []) : stack = [] := by
  cases nested
  rfl

/-- A character leads on to a nested text. -/
theorem Nested.after_char (nested : Nested stack (c :: rest))
    (next : afterChar stack c = some after) (free : startsComment (c :: rest) = false) :
    Nested after rest := by
  generalize here : c :: rest = text at nested
  cases nested with
  | done => cases here
  | char d other _ nested =>
    cases here
    cases next.symm.trans other
    exact nested
  | block | line =>
    cases here
    cases free
  | quoted quote isQuote =>
    cases here
    rw [afterChar_quote isQuote] at next
    cases next
  | hole | escape =>
    cases here
    cases tick_of_afterChar next
  | piece d tick =>
    cases here
    exact absurd (tick_of_afterChar next) tick

/-- A quote in code leads on to the text after the quoted text. -/
theorem Nested.after_quoted {quote : Char} (nested : Nested stack (quote :: text))
    (isQuote : quote = '"' ∨ quote = '\'') (code : inCode stack = true) :
    ∃ body rest, text = body ++ quote :: rest ∧ isQuotedBy quote body = true ∧
      Nested stack rest := by
  generalize here : quote :: text = whole at nested
  cases nested with
  | done => cases here
  | char d next =>
    cases here
    rw [afterChar_quote isQuote] at next
    cases next
  | block | line =>
    cases here
    rcases isQuote with same | same <;> cases same
  | quoted other _ body _ within nested =>
    cases here
    exact ⟨body, _, rfl, within, nested⟩
  | hole | piece | escape => cases code

/-- A template leads into an expression. -/
theorem Nested.after_hole (nested : Nested (.tick :: stack) ('$' :: '\x7b' :: rest)) :
    Nested (.hole :: .tick :: stack) rest := by
  generalize here : '$' :: '\x7b' :: rest = text at nested
  cases nested with
  | char d next =>
    cases here
    cases tick_of_afterChar next
  | block _ code | line _ code | quoted _ _ _ code => cases code
  | hole nested =>
    cases here
    exact nested
  | piece d _ _ hole =>
    cases here
    exact absurd rfl (hole rfl)
  | escape => cases here

/-- In a template, a backslash leads past the character after it. -/
theorem Nested.after_escape (nested : Nested (.tick :: stack) ('\\' :: c :: rest)) :
    Nested (.tick :: stack) rest := by
  generalize here : '\\' :: c :: rest = text at nested
  cases nested with
  | char d next =>
    cases here
    cases tick_of_afterChar next
  | block _ code | line _ code | quoted _ _ _ code => cases code
  | hole => cases here
  | piece d _ backslash =>
    cases here
    exact absurd rfl backslash
  | escape d nested =>
    cases here
    exact nested

/-- A backslash of a template stands before another character. -/
theorem Nested.escape_ne_nil (nested : Nested (.tick :: stack) ('\\' :: rest)) : rest ≠ [] := by
  rintro rfl
  generalize here : ['\\'] = text at nested
  cases nested with
  | char d next =>
    cases here
    cases tick_of_afterChar next
  | block _ code | line _ code | quoted _ _ _ code => cases code
  | piece d _ backslash =>
    cases here
    exact backslash rfl
  | hole | escape => cases here

/-- In a template, every other character but a tick and the start of an expression leads to the
next one. -/
theorem Nested.after_piece (nested : Nested (.tick :: stack) (c :: rest)) (tick : c ≠ '\x60')
    (backslash : c ≠ '\\') (hole : c = '$' → rest.head? ≠ some '\x7b') :
    Nested (.tick :: stack) rest := by
  generalize here : c :: rest = text at nested
  cases nested with
  | char d next =>
    cases here
    exact absurd (tick_of_afterChar next) tick
  | block _ code | line _ code | quoted _ _ _ code => cases code
  | hole =>
    cases here
    exact absurd rfl (hole rfl)
  | piece d _ _ _ nested =>
    cases here
    exact nested
  | escape =>
    cases here
    exact absurd rfl backslash

/-- Characters of code that a nested text starts with lead on to a nested text. -/
theorem Nested.after_chars {characters tail : List Char} (nested : Nested (stack ++ base) text)
    (code : inCode base = true) (next : afterChars stack characters = some after)
    (free : '/' ∈ characters → startsComment text = false) (lone : '/' ∉ characters.tail)
    (shuts : Shuts tail) (starts : characters <+: text ++ tail) :
    ∃ rest, text = characters ++ rest ∧ Nested (after ++ base) rest := by
  induction stack, characters using afterChars.induct generalizing text with
  | case1 stack =>
    cases next
    exact ⟨text, rfl, nested⟩
  | case2 stack =>
    cases next
    rcases text with _ | ⟨c, _ | ⟨d, rest⟩⟩
    · cases nested.stack_eq_nil
    · obtain ⟨rfl, _⟩ := List.cons_prefix_cons.mp starts
      cases (nested.after_piece (by decide) (by decide) nofun).stack_eq_nil
    · obtain ⟨rfl, later⟩ := List.cons_prefix_cons.mp starts
      obtain ⟨rfl, _⟩ := List.cons_prefix_cons.mp later
      exact ⟨rest, rfl, nested.after_hole⟩
  | case3 stack c characters hole ih =>
    rw [afterChars] at next
    · obtain ⟨middle, first, later⟩ := Option.bind_eq_some_iff.mp next
      cases text with
      | nil =>
        -- A brace after the text would close a bracket, but none is open there.
        obtain ⟨closed, _⟩ := List.append_eq_nil_iff.mp nested.stack_eq_nil
        rcases shuts with rfl | brace
        · cases List.prefix_nil.mp starts
        · obtain ⟨more, rfl⟩ := List.head?_eq_some_iff.mp brace
          obtain ⟨rfl, _⟩ := List.cons_prefix_cons.mp starts
          rw [closed] at first
          cases first
      | cons d rest =>
        obtain ⟨rfl, startsLater⟩ := List.cons_prefix_cons.mp starts
        have here : startsComment (c :: rest) = false := by
          by_cases slash : c = '/'
          · exact free (slash ▸ List.mem_cons_self)
          · exact startsComment_of_ne slash
        obtain ⟨others, rfl, inner⟩ := ih middle
          (nested.after_char (afterChar_append first code) here) later
          (fun member => absurd member lone) (fun member => lone (List.mem_of_mem_tail member))
          startsLater
        exact ⟨others, rfl, inner⟩
    · exact hole

/-- A text falls into a nested part and a tail. -/
def NestedTo (tail : List Char) (stack : List Bracket) (text : List Char) : Prop :=
  ∃ inner, text = inner ++ tail ∧ Nested stack inner

/-- Characters of code in front of a nested part belong to a nested part. -/
theorem NestedTo.before_chars {characters tail : List Char}
    (nested : NestedTo tail (after ++ base) rest) (code : inCode base = true)
    (next : afterChars stack characters = some after)
    (free : '/' ∈ characters → startsComment (characters ++ rest) = false)
    (lone : '/' ∉ characters.tail) : NestedTo tail (stack ++ base) (characters ++ rest) := by
  obtain ⟨inner, rfl, nested⟩ := nested
  refine ⟨characters ++ inner, (List.append_assoc _ _ _).symm, ?_⟩
  have here : '/' ∈ characters → startsComment (characters ++ inner) = false := by
    intro member
    have outer := free member
    rw [← List.append_assoc] at outer
    exact startsComment_of_append outer
  clear free
  induction stack, characters using afterChars.induct with
  | case1 stack =>
    cases next
    exact nested
  | case2 stack =>
    cases next
    exact .hole nested
  | case3 stack c characters hole ih =>
    rw [afterChars] at next
    · obtain ⟨middle, first, later⟩ := Option.bind_eq_some_iff.mp next
      refine .char c (afterChar_append first code) ?_ ?_
      · by_cases slash : c = '/'
        · exact here (slash ▸ List.mem_cons_self)
        · exact startsComment_of_ne slash
      · exact ih middle later (fun member => lone (List.mem_of_mem_tail member))
          (fun member => absurd member lone)
    · exact hole

end

section

variable {stack : List Bracket} {text rest : List Char}

/-- A comment that has an end is a part of the text before its end. -/
theorem closes_of_blockCommentEnd {offset : Nat} {stop : Place}
    (ends : blockCommentEnd text offset = some stop) :
    ∃ body, text = body ++ stop.rest ∧ Closes body := by
  induction text, offset using blockCommentEnd.induct with
  | case1 offset => cases ends
  | case2 text offset =>
    cases ends
    exact ⟨['*', '/'], rfl, fun rest offset => ⟨_, rfl⟩⟩
  | case3 c text offset other ih =>
    rw [blockCommentEnd] at ends
    · obtain ⟨body, rfl, closes⟩ := ih ends
      refine ⟨c :: body, rfl, fun rest offset => ?_⟩
      rw [List.cons_append, blockCommentEnd]
      · exact closes rest _
      · rintro others rfl same
        cases body with
        | nil =>
          obtain ⟨_, none⟩ := closes [] 0
          cases none
        | cons d body =>
          cases same
          exact other _ rfl rfl
    · exact other

/-- A comment that runs to the end of its line is a part of the text before that end. -/
theorem line_of_lineCommentEnd (text : List Char) (offset : Nat) :
    ∃ body, text = body ++ (lineCommentEnd text offset).rest ∧ '\n' ∉ body ∧
      (lineCommentEnd text offset).rest.head?.all (· = '\n') := by
  induction text generalizing offset with
  | nil => exact ⟨[], rfl, List.not_mem_nil, rfl⟩
  | cons c text ih =>
    rw [lineCommentEnd]
    split
    case isTrue line => exact ⟨[], rfl, List.not_mem_nil, by simpa using line⟩
    case isFalse other =>
      obtain ⟨body, same, inLine, ends⟩ := ih (offset + c.utf8Size)
      refine ⟨c :: body, congrArg (c :: ·) same, ?_, ends⟩
      rw [List.mem_cons, not_or]
      exact ⟨fun line => other line.symm, inLine⟩

/-- A comment runs up to the end of its line. -/
theorem lineCommentEnd_append {body : List Char} (offset : Nat) (inLine : '\n' ∉ body) :
    (lineCommentEnd (body ++ '\n' :: rest) offset).rest = '\n' :: rest := by
  induction body generalizing offset with
  | nil => rfl
  | cons c body ih =>
    rw [List.mem_cons, not_or] at inLine
    rw [List.cons_append, lineCommentEnd, if_neg (Ne.symm inLine.1)]
    exact ih _ inLine.2

/-- What is passed over does not depend on the fuel, if it is enough. -/
theorem skipSpace_eq {fuel more : Nat} {place : Place} (enough : place.rest.length < fuel)
    (also : place.rest.length < more) : skipSpace fuel place = skipSpace more place := by
  induction fuel generalizing more place with
  | zero => exact absurd enough (Nat.not_lt_zero _)
  | succ fuel ih =>
    obtain ⟨more, rfl⟩ := Nat.exists_eq_succ_of_ne_zero (Nat.ne_of_gt (Nat.zero_lt_of_lt also))
    obtain ⟨text, offset⟩ := place
    unfold skipSpace
    split
    case h_1 comment =>
      cases ends : blockCommentEnd comment (offset + 2) with
      | none => rfl
      | some stop =>
        obtain ⟨taken, takes⟩ := blockCommentEnd_takes comment _ stop ends
        have lengths := takes.length
        simp only [List.length_cons] at enough also lengths
        exact ih (by omega) (by omega)
    case h_2 comment =>
      obtain ⟨taken, takes⟩ := lineCommentEnd_takes comment (offset + 2)
      have lengths := takes.length
      simp only [List.length_cons] at enough also lengths
      exact ih (by omega) (by omega)
    case h_3 c others _ _ =>
      simp only [List.length_cons] at enough also
      split
      · exact ih (Nat.lt_of_succ_lt_succ enough) (Nat.lt_of_succ_lt_succ also)
      · rfl
    case h_4 => rfl

/-- What is left after blanks is what is left with enough fuel. -/
theorem skipSpace_enough {fuel : Nat} {place : Place} (enough : place.rest.length < fuel) :
    (skipSpace fuel place).rest = afterBlanks place.rest := by
  rw [← skipBlanks_rest, skipSpace_eq enough (Nat.lt_succ_self _)]
  rfl

/-- A comment with an end is passed over. -/
theorem afterBlanks_block {body : List Char} (closes : Closes body) :
    afterBlanks ('/' :: '*' :: (body ++ rest)) = afterBlanks rest := by
  obtain ⟨stop, ends⟩ := closes rest 2
  change (skipSpace (('/' :: '*' :: (body ++ rest)).length + 1) ⟨_, 0⟩).rest = _
  simp only [skipSpace, ends]
  refine skipSpace_enough ?_
  simp only [List.length_cons, List.length_append]
  omega

/-- A comment is passed over to the end of its line. -/
theorem afterBlanks_line {body : List Char} (inLine : '\n' ∉ body) :
    afterBlanks ('/' :: '/' :: (body ++ '\n' :: rest)) = afterBlanks ('\n' :: rest) := by
  have ends : (lineCommentEnd (body ++ '\n' :: rest) 2).rest = '\n' :: rest :=
    lineCommentEnd_append 2 inLine
  have shorter : (lineCommentEnd (body ++ '\n' :: rest) 2).rest.length <
      ('/' :: '/' :: (body ++ '\n' :: rest)).length := by
    rw [ends]
    simp only [List.length_cons, List.length_append]
    omega
  have later := skipSpace_enough shorter
  rw [ends] at later
  exact later

/-- In front of a brace or at the end, a text starts with a blank if it does so by itself. -/
theorem startsBlank_of_shuts {tail : List Char} (shuts : Shuts tail) :
    startsBlank (text ++ tail) = startsBlank text := by
  rcases shuts with rfl | brace
  · rw [List.append_nil]
  · obtain ⟨more, rfl⟩ := List.head?_eq_some_iff.mp brace
    by_cases filled : text = []
    · rw [filled]
      rfl
    · by_cases lone : text = ['/']
      · rw [lone]
        rfl
      · exact startsBlank_append filled lone _

/-- Passing over the blanks of a nested text leads to a nested text, whatever shuts it. -/
theorem Nested.after_blanks (nested : Nested stack text) (code : inCode stack = true) :
    ∃ rest, Nested stack rest ∧ startsBlank rest = false ∧
      ∀ tail : List Char, Shuts tail →
        afterBlanks (text ++ tail) = rest ++ tail := by
  have stays {stack : List Bracket} {text : List Char} (nested : Nested stack text)
      (settled : startsBlank text = false) :
      ∃ rest, Nested stack rest ∧ startsBlank rest = false ∧
        ∀ tail : List Char, Shuts tail →
          afterBlanks (text ++ tail) = rest ++ tail :=
    ⟨text, nested, settled, fun tail shuts =>
      afterBlanks_settled ((startsBlank_of_shuts shuts).trans settled)⟩
  induction nested with
  | done => exact stays .done rfl
  | @char stack after rest c next free nested ih =>
    cases blank : isSpace c with
    | true =>
      have same := afterChar_inert code (inert_of_blank blank)
      rw [next] at same
      cases same
      obtain ⟨others, inner, settled, passes⟩ := ih code
      exact ⟨others, inner, settled, fun tail shuts =>
        (afterBlanks_blank (rest ++ tail) blank).trans (passes tail shuts)⟩
    | false =>
      refine stays (.char c next free nested) ?_
      rw [startsBlank]
      · exact blank
      · rintro others rfl rfl
        cases free
      · rintro others rfl rfl
        cases free
  | block body _ closes nested ih =>
    obtain ⟨others, inner, settled, passes⟩ := ih code
    refine ⟨others, inner, settled, fun tail shuts => ?_⟩
    rw [← passes tail shuts, List.cons_append, List.cons_append, List.append_assoc]
    exact afterBlanks_block closes
  | line body _ inLine nested ih =>
    obtain ⟨others, inner, settled, passes⟩ := ih code
    refine ⟨others, inner, settled, fun tail shuts => ?_⟩
    rw [← passes tail shuts, List.cons_append, List.cons_append, List.append_assoc]
    exact afterBlanks_line inLine
  | quoted quote isQuote body _ within nested =>
    refine stays (.quoted quote isQuote body code within nested) ?_
    rcases isQuote with rfl | rfl <;> rfl
  | hole | piece | escape => cases code

/-- What is passed over in front of a nested part belongs to a nested part. -/
theorem NestedTo.before_skipSpace {tail : List Char} (brace : tail.head? = some '\x7d')
    (code : inCode stack = true) (fuel : Nat) (place : Place)
    (nested : NestedTo tail stack (skipSpace fuel place).rest) :
    NestedTo tail stack place.rest := by
  induction fuel generalizing place with
  | zero => exact nested
  | succ fuel ih =>
    obtain ⟨text, offset⟩ := place
    unfold skipSpace at nested
    split at nested
    case h_1 comment =>
      cases ends : blockCommentEnd comment (offset + 2) with
      | none =>
        rw [ends] at nested
        exact nested
      | some stop =>
        rw [ends] at nested
        change NestedTo tail stack (skipSpace fuel stop).rest at nested
        obtain ⟨inner, same, nested⟩ := ih stop nested
        obtain ⟨body, rfl, closes⟩ := closes_of_blockCommentEnd ends
        refine ⟨'/' :: '*' :: (body ++ inner), ?_, .block body code closes nested⟩
        simp [same]
    case h_2 comment =>
      obtain ⟨inner, same, nested⟩ := ih _ nested
      obtain ⟨body, split, inLine, ends⟩ := line_of_lineCommentEnd comment (offset + 2)
      rw [same] at split ends
      cases inner with
      | nil =>
        rw [List.nil_append, brace] at ends
        cases ends
      | cons c inner =>
        obtain rfl : c = '\n' := by simpa using ends
        refine ⟨'/' :: '/' :: (body ++ '\n' :: inner), ?_, .line body code inLine nested⟩
        simp [split]
    case h_3 c others _ _ =>
      split at nested
      case isTrue blank =>
        obtain ⟨inner, same, nested⟩ := ih _ nested
        have inert := inert_of_blank blank
        exact ⟨c :: inner, congrArg (c :: ·) same,
          .char c (afterChar_inert code inert) (startsComment_of_inert inert) nested⟩
      case isFalse => exact nested
    case h_4 => exact nested

/-- Blanks in front of a nested part belong to a nested part. -/
theorem NestedTo.before_blanks {tail : List Char} (brace : tail.head? = some '\x7d')
    (nested : NestedTo tail stack (afterBlanks text)) (code : inCode stack = true) :
    NestedTo tail stack text :=
  .before_skipSpace brace code _ ⟨text, 0⟩ nested

end

end PluginSandbox.Syntax
