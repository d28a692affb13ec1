import PluginSandbox.Proofs.Syntax.Alignment
import PluginSandbox.Proofs.Syntax.Printing

/-!
# Printed operations fall into tokens

Before a text that falls into whole tokens, the characters of an operation do so too, as long as
no word runs over the seam. No operation is printed with an arrow in it.
-/
namespace PluginSandbox.Syntax

/-- Whether marks one after another stand where they are, before a text. -/
def marksStand : List Char → List Char → Bool
  | [], _ => true
  | c :: others, rest =>
    plainMarks.contains c && standsBefore c (others ++ rest) && marksStand others rest

section

variable {stack : List Bracket} {rest : List Char}

/-- Marks that begin neither a comment nor an arrow stand before every text. -/
theorem standsBefore_of_ne {c : Char} (equals : c ≠ '=') (slash : c ≠ '/') (rest : List Char) :
    standsBefore c rest = true := by
  unfold standsBefore
  split
  · exact absurd rfl equals
  · exact absurd rfl slash
  · exact absurd rfl slash
  · rfl

/-- Whether a mark stands before a text depends on the first character of the text. -/
theorem standsBefore_head (c d : Char) (rest others : List Char) :
    standsBefore c (d :: rest) = standsBefore c (d :: others) := by
  unfold standsBefore
  split <;> split <;> simp_all

/-- Plain marks in order are tokens. -/
theorem Lexes.marks {characters : List Char} {d : Char} (code : inCode stack = true)
    (stand : marksStand characters [d] = true) (lexes : Lexes stack (d :: rest)) :
    Lexes stack (characters ++ d :: rest) := by
  induction characters with
  | nil => exact lexes
  | cons c characters ih =>
    simp only [marksStand, Bool.and_eq_true] at stand
    obtain ⟨⟨plain, stands⟩, more⟩ := stand
    refine .mark c (afterMark_plain code (List.contains_iff_mem.mp plain)) ?_ (ih more)
    cases characters with
    | nil => exact (standsBefore_head c d rest []).trans stands
    | cons e others => exact (standsBefore_head c e _ _).trans stands

/-- A word that starts like a name is a token before a blank. -/
theorem Lexes.name {word : List Char} (code : inCode stack = true)
    (starts : startsName word = true) (isWord : word.all isIdentifierChar = true)
    (ends : startsWord rest = false) (lexes : Lexes stack rest) : Lexes stack (word ++ rest) := by
  have filled : word ≠ [] := by
    rintro rfl
    cases starts
  exact .word word code filled isWord ends (.inl starts) lexes

/-- The spelling of an infix operator before a blank is made of tokens. -/
theorem Lexes.infixOperator (operator : InfixOperator) (code : inCode stack = true)
    (lexes : Lexes stack (' ' :: rest)) :
    Lexes stack (operator.spelling.toList ++ ' ' :: rest) := by
  rcases operator with operator | operator
  · cases operator with
    | isIn => exact .name code rfl (by decide) rfl lexes
    | instanceOf => exact .name code rfl (by decide) rfl lexes
    | _ => exact .marks code (by decide) lexes
  · cases operator <;> exact .marks code (by decide) lexes

/-- The spelling of an assignment operator before a blank is made of tokens. -/
theorem Lexes.assignmentOperator (operator : AssignmentOperator) (code : inCode stack = true)
    (lexes : Lexes stack (' ' :: rest)) :
    Lexes stack (operator.spelling.toList ++ ' ' :: rest) := by
  cases operator <;> exact .marks code (by decide) lexes

/-- A mark that begins neither a comment nor an arrow is a token. -/
theorem Lexes.plain {c : Char} (code : inCode stack = true) (plain : c ∈ plainMarks)
    (equals : c ≠ '=') (slash : c ≠ '/') (lexes : Lexes stack rest) : Lexes stack (c :: rest) :=
  .mark c (afterMark_plain code plain) (standsBefore_of_ne equals slash rest) lexes

/-- A bracket that opens is a token. -/
theorem Lexes.opened {c : Char} {bracket : Bracket} (code : inCode stack = true)
    (mark : plainMarks.contains c = false) (opens : Bracket.opened c = some bracket)
    (equals : c ≠ '=') (slash : c ≠ '/') (lexes : Lexes (bracket :: stack) rest) :
    Lexes stack (c :: rest) := by
  refine .mark c ?_ (standsBefore_of_ne equals slash rest) lexes
  rw [afterMark, mark, if_neg Bool.false_ne_true, if_pos code, opens]
  rfl

/-- A bracket that closes is a token. -/
theorem Lexes.closed (bracket : Bracket) (lexes : Lexes stack rest) :
    Lexes (bracket :: stack) (bracket.closing :: rest) := by
  have marked : afterMark (bracket :: stack) bracket.closing = some stack := by
    cases bracket <;> rfl
  exact .mark _ marked (standsBefore_of_ne (by cases bracket <;> decide)
    (by cases bracket <;> decide) rest) lexes

/-- The characters of an operation are tokens before a text that falls into tokens. -/
def Expr.IsTokens (e : Expr) : Prop :=
  ∀ {stack : List Bracket} {rest : List Char}, inCode stack = true → Lexes stack rest →
    startsWord rest = false → (rest.head? = some '.' → e.isWrappedObject = false) →
    Lexes stack (e.characters ++ rest)

/-- Parentheses around tokens are tokens. -/
theorem Expr.IsTokens.wrapped {e : Expr} (tokens : e.IsTokens) (code : inCode stack = true)
    (lexes : Lexes stack rest) : Lexes stack (inParentheses e.characters ++ rest) := by
  have inner : Lexes (.round :: stack) (e.characters ++ ')' :: rest) :=
    tokens rfl (.closed .round lexes) rfl nofun
  rw [inParentheses]
  simp only [List.append_assoc, List.cons_append, List.nil_append]
  exact .opened code rfl rfl (by decide) (by decide) inner

/-- An operand is made of tokens, in parentheses or not. -/
theorem Expr.IsTokens.wrappedIf {e : Expr} (tokens : e.IsTokens) (wrapped : Bool)
    (code : inCode stack = true) (lexes : Lexes stack rest) (ends : startsWord rest = false)
    (point : rest.head? = some '.' → wrapped = false → e.isWrappedObject = false) :
    Lexes stack (e.wrappedIf wrapped ++ rest) := by
  cases wrapped with
  | true => exact tokens.wrapped code lexes
  | false => exact tokens code lexes ends fun here => point here rfl

/-- An item of a list is made of tokens. -/
theorem lexes_element {element : Element} (tokens : element.value.IsTokens)
    (code : inCode stack = true) (lexes : Lexes stack rest) (ends : startsWord rest = false)
    (point : rest.head? ≠ some '.') : Lexes stack (element.characters ++ rest) := by
  have inner : Lexes stack (element.value.characters ++ rest) :=
    tokens code lexes ends fun here => absurd here point
  cases element with
  | item value => exact inner
  | spread source =>
    have dot {rest : List Char} (lexes : Lexes stack rest) : Lexes stack ('.' :: rest) :=
      .plain code (by decide) (by decide) (by decide) lexes
    exact dot (dot (dot inner))

/-- After an item of a list no word goes on, nor does a point follow. -/
theorem laterCharacters_head (elements : List Element) (ends : startsWord rest = false)
    (point : rest.head? ≠ some '.') :
    startsWord (laterCharacters elements ++ rest) = false ∧
      (laterCharacters elements ++ rest).head? ≠ some '.' := by
  cases elements with
  | nil => exact ⟨ends, point⟩
  | cons => exact ⟨rfl, nofun⟩

/-- The items after the first one of a list are made of tokens. -/
theorem lexes_later {elements : List Element}
    (parts : ∀ element ∈ elements, element.value.IsTokens) (code : inCode stack = true)
    (lexes : Lexes stack rest) (ends : startsWord rest = false) (point : rest.head? ≠ some '.') :
    Lexes stack (laterCharacters elements ++ rest) := by
  induction elements with
  | nil => exact lexes
  | cons element others ih =>
    have more := ih fun other member => parts other (.tail element member)
    obtain ⟨ends, point⟩ := laterCharacters_head others ends point
    have first := lexes_element (parts element List.mem_cons_self) code more ends point
    rw [laterCharacters]
    simp only [List.append_assoc, List.cons_append]
    exact .plain code (by decide) (by decide) (by decide) (.blank ' ' code rfl first)

/-- The items of a list are made of tokens, up to the bracket that closes it. -/
theorem lexes_list {elements : List Element} (parts : ∀ element ∈ elements, element.value.IsTokens)
    (code : inCode stack = true) (lexes : Lexes stack rest) (ends : startsWord rest = false)
    (point : rest.head? ≠ some '.') :
    Lexes stack (listCharacters elements ++ rest) := by
  cases elements with
  | nil => exact lexes
  | cons element others =>
    have more := lexes_later (fun other member => parts other (.tail element member)) code lexes
      ends point
    obtain ⟨ends, point⟩ := laterCharacters_head others ends point
    rw [listCharacters, List.append_assoc]
    exact lexes_element (parts element List.mem_cons_self) code more ends point

/-- What stands between the ticks of a template is made of tokens. -/
theorem lexes_template {quasis : List String} {expressions : List Expr}
    (pieces : quasis.length = expressions.length + 1) (parts : ∀ e ∈ expressions, e.IsTokens)
    (lexes : Lexes stack rest) :
    Lexes (.tick :: stack) (templateCharacters quasis expressions ++ '\x60' :: rest) := by
  have closing : Lexes (.tick :: stack) ('\x60' :: rest) := .closed .tick lexes
  induction quasis generalizing expressions with
  | nil => cases pieces
  | cons piece quasis ih =>
    cases expressions with
    | nil =>
      cases quasis with
      | cons => cases pieces
      | nil =>
        rw [templateCharacters, templateCharacters, List.append_nil]
        exact .template _ (by simp) closing
    | cons value values =>
      have more := ih (Nat.succ.inj pieces) fun e member => parts e (.tail value member)
      have inner : Lexes (.hole :: .tick :: stack)
          (value.characters ++ '\x7d' :: (templateCharacters quasis values ++ '\x60' :: rest)) :=
        parts value List.mem_cons_self rfl (.closed .hole more) rfl (by simp)
      rw [templateCharacters]
      simp only [List.append_assoc, List.cons_append]
      exact .template _ (by simp) (.hole inner)

/-- The spelling of a prefix operator is made of tokens. -/
theorem Lexes.unaryOperator (operator : UnaryOperator) (code : inCode stack = true)
    (lexes : Lexes stack rest) :
    Lexes stack (operator.spelling.toList ++ operator.gap ++ rest) := by
  rw [List.append_assoc]
  cases operator with
  | typeOf | void | delete =>
    exact .name code rfl (by decide) rfl (.blank ' ' code rfl lexes)
  | minus | plus | logicalNot | bitwiseNot =>
    exact .plain code (by decide) (by decide) (by decide) lexes

/-- The spelling of a change by one is made of tokens. -/
theorem Lexes.updateOperator (operator : UpdateOperator) (code : inCode stack = true)
    (lexes : Lexes stack rest) : Lexes stack (operator.spelling.toList ++ rest) := by
  cases operator with
  | increment | decrement =>
    exact .plain code (by decide) (by decide) (by decide)
      (.plain code (by decide) (by decide) (by decide) lexes)

/-- The mark of an access that may give up is made of tokens. -/
theorem Lexes.optionalMark (optional : Bool) (code : inCode stack = true)
    (lexes : Lexes stack rest) : Lexes stack (optionalMark optional ++ rest) := by
  cases optional with
  | false => exact lexes
  | true =>
    exact .plain code (by decide) (by decide) (by decide)
      (.plain code (by decide) (by decide) (by decide) lexes)

/-- What is printed inside an access or a call is made of tokens. -/
def Suffix.IsTokens : Suffix → Prop
  | .member name _ => isIdentifierName name = true
  | .index key _ => key.IsTokens
  | .call arguments _ => ∀ element ∈ arguments, element.value.IsTokens

/-- An access or a call is made of tokens. -/
theorem lexes_suffix {suffix : Suffix} (tokens : suffix.IsTokens) (code : inCode stack = true)
    (lexes : Lexes stack rest) (ends : startsWord rest = false) :
    Lexes stack (suffix.characters ++ rest) := by
  cases suffix with
  | member name optional =>
    obtain ⟨starts, isWord⟩ := isIdentifierName_word tokens
    have named := Lexes.name code starts isWord ends lexes
    rw [Suffix.characters, List.append_assoc]
    cases optional with
    | false => exact .plain code (by decide) (by decide) (by decide) named
    | true => exact .optionalMark true code named
  | index key optional =>
    have inner : Lexes (.square :: stack) (key.characters ++ ']' :: rest) :=
      tokens rfl (.closed .square lexes) rfl nofun
    rw [Suffix.characters]
    simp only [List.append_assoc, List.cons_append]
    exact .optionalMark optional code (.opened code rfl rfl (by decide) (by decide) inner)
  | call arguments optional =>
    have inner : Lexes (.round :: stack) (listCharacters arguments ++ ')' :: rest) :=
      lexes_list tokens rfl (.closed .round lexes) rfl nofun
    rw [Suffix.characters, inParentheses]
    simp only [List.append_assoc, List.cons_append]
    exact .optionalMark optional code (.opened code rfl rfl (by decide) (by decide) inner)

/-- No word goes on where an access or a call starts. -/
theorem startsWord_suffix (suffix : Suffix) (rest : List Char) :
    startsWord (suffix.characters ++ rest) = false := by
  rcases suffix with ⟨_, optional⟩ | ⟨_, optional⟩ | ⟨_, optional⟩ <;> cases optional <;> rfl

/-- An access or a call is made of tokens together with its object. -/
theorem Expr.IsTokens.suffixed {object : Expr} (tokens : object.IsTokens) {suffix : Suffix}
    (parts : suffix.IsTokens) : (suffix.apply object).IsTokens := by
  intro stack rest code lexes ends _
  rw [characters_suffix, List.append_assoc]
  exact tokens.wrappedIf _ code (lexes_suffix parts code lexes ends) (startsWord_suffix suffix rest)
    fun _ bare => bare

end

/-- An operation is printed in whole tokens. -/
theorem Expr.IsOperation.isTokens {e : Expr} (operation : e.IsOperation) : e.IsTokens := by
  induction operation with
  | identifier named =>
    intro stack rest code lexes ends point
    obtain ⟨starts, isWord, _⟩ := isVariable_word named
    exact .name code starts isWord ends lexes
  | this | null =>
    intro stack rest code lexes ends point
    exact .name code rfl (by decide) ends lexes
  | boolean value =>
    intro stack rest code lexes ends point
    cases value <;> exact .name code rfl (by decide) ends lexes
  | text value =>
    intro stack rest code lexes ends point
    rw [characters_text]
    exact .text _ code lexes
  | @number n small =>
    intro stack rest code lexes ends point
    obtain ⟨filled, all⟩ := Number.digitsOf_all n
    rw [characters_number small]
    have isWord : (Number.digitsOf n).all isIdentifierChar = true := by
      refine List.all_eq_true.mpr fun c member => ?_
      simp [isIdentifierChar, Char.isAlphanum, List.all_eq_true.mp all c member]
    have pointless : rest.head? ≠ some '.' := fun here =>
      absurd (point here).symm Bool.false_ne_true
    exact .word _ code filled isWord ends (.inr ⟨all, pointless⟩) lexes
  | template pieces parts ih =>
    intro stack rest code lexes ends point
    rw [characters_template]
    simp only [List.append_assoc, List.cons_append, List.nil_append]
    exact .opened code rfl rfl (by decide) (by decide) (lexes_template pieces ih lexes)
  | array parts ih =>
    intro stack rest code lexes ends point
    rw [characters_array]
    simp only [List.append_assoc, List.cons_append, List.nil_append]
    exact .opened code rfl rfl (by decide) (by decide)
      (lexes_list ih rfl (.closed .square lexes) rfl (by simp))
  | unary operator part ih =>
    intro stack rest code lexes ends point
    rw [characters_unary, List.append_assoc]
    exact .unaryOperator operator code
      (ih.wrappedIf _ code lexes ends fun here => absurd (point here).symm Bool.false_ne_true)
  | @await operand part ih =>
    intro stack rest code lexes ends point
    rw [characters_await, List.append_assoc]
    have inner := ih.wrappedIf (operand.strength < unaryStrength) code lexes ends
      fun here => absurd (point here).symm Bool.false_ne_true
    have word : Lexes stack ("await".toList ++ ' ' ::
        (operand.wrappedIf (operand.strength < unaryStrength) ++ rest)) :=
      .name code rfl (by decide) rfl (.blank ' ' code rfl inner)
    exact word
  | update operator isPrefix writable part ih =>
    intro stack rest code lexes ends point
    rw [characters_update operator isPrefix writable]
    cases isPrefix with
    | true =>
      rw [if_pos rfl, List.append_assoc]
      have changed := ih code lexes ends fun here => absurd (point here).symm Bool.false_ne_true
      exact .updateOperator operator code changed
    | false =>
      rw [if_neg Bool.false_ne_true, List.append_assoc]
      exact ih code (.updateOperator operator code lexes) (by cases operator <;> rfl)
        (by cases operator <;> simp [UpdateOperator.spelling])
  | @operation operator left right first second firstIH secondIH =>
    intro stack rest code lexes ends point
    have weak : (operator.apply left right).isWrappedObject = false → False := fun bare => by
      have strong := strength_of_object bare
      rw [strength_apply] at strong
      exact absurd (Nat.le_trans strong operator.strength_le) (by decide)
    rw [characters_apply, List.append_assoc, List.append_assoc]
    have later := secondIH.wrappedIf (right.strength < operator.rightNeed) code lexes ends
      fun here => (weak (point here)).elim
    exact firstIH.wrappedIf _ code
      (.blank ' ' code rfl (.infixOperator operator code (.blank ' ' code rfl later))) rfl (by simp)
  | conditional first second third firstIH secondIH thirdIH =>
    intro stack rest code lexes ends point
    rw [characters_conditional]
    simp only [List.append_assoc, List.cons_append]
    have third := thirdIH code lexes ends fun here => absurd (point here).symm Bool.false_ne_true
    have colon := Lexes.plain (c := ':') code (by decide) (by decide) (by decide)
      (.blank ' ' code rfl third)
    have second := secondIH code (.blank ' ' code rfl colon) rfl (by simp)
    have question := Lexes.plain (c := '?') code (by decide) (by decide) (by decide)
      (.blank ' ' code rfl second)
    exact firstIH.wrappedIf _ code (.blank ' ' code rfl question) rfl (by simp)
  | assign operator writable first second firstIH secondIH =>
    intro stack rest code lexes ends point
    rw [characters_assign operator _ writable]
    simp only [List.append_assoc, List.cons_append]
    have later := secondIH code lexes ends fun here => absurd (point here).symm Bool.false_ne_true
    exact firstIH code (.blank ' ' code rfl (.assignmentOperator operator code
      (.blank ' ' code rfl later))) rfl (by simp)
  | @member object name optional part named ih =>
    exact @Expr.IsTokens.suffixed object ih (.member name optional) named
  | @index object key optional first second firstIH secondIH =>
    exact @Expr.IsTokens.suffixed object firstIH (.index key optional) secondIH
  | @call callee arguments optional first parts firstIH partsIH =>
    exact @Expr.IsTokens.suffixed callee firstIH (.call arguments optional) partsIH

end PluginSandbox.Syntax
