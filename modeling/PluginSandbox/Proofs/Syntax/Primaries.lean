import PluginSandbox.Proofs.Syntax.Chains
import PluginSandbox.Proofs.Syntax.PrintedTokens

/-!
# Reading constants, variables and lists

Each printed operation that needs no parentheses anywhere is read as a primary expression, as long
as nothing after it goes on with it. Lists and templates are read part by part, where the parts
are known to be read back.
-/
namespace PluginSandbox.Syntax

open Peg (Surroundings Node)
open Peg.Grammar (outermost inside)
open Peg.Expression (firstOf inOrder)

/-- A text falls into whole tokens. -/
def Lexed (text : List Char) : Prop :=
  ∃ stack, inCode stack = true ∧ Lexes stack text

/-- What comes after a name: an access, a call, or what comes after those. -/
def afterName : List Head :=
  [.marks ['.'], .marks ['?', '.'], .marks ['['], .marks ['(']] ++ afterObject

/-- A text may come after the characters of an operation, where it starts in one of several ways
after blanks. -/
structure Seam (heads : List Head) (rest : List Char) : Prop where
  /-- The text falls into tokens. -/
  lexed : Lexed rest
  /-- No word goes on. -/
  ends : startsWord rest = false
  /-- What comes next is what may come after the operation. -/
  starts : StartsIn heads (afterBlanks rest)

/-- An operation is read back as an expression wherever it is printed as one. -/
structure Expr.IsRead (e : Expr) : Prop where
  /-- It is an operation. -/
  operation : e.IsOperation
  /-- It is read up to the mark that closes what it stands in. -/
  reads : ∀ {rest : List Char}, Seam closers rest →
    Reads outermost (.once (.call .assignmentExpression)) (e.characters ++ rest) (afterBlanks rest)
      [Denotes .assignmentExpression e]

section

variable {heads others : List Head} {text rest : List Char} {e : Expr}

/-- Between tokens, the padding is that of blanks. -/
theorem padded_outermost (text : List Char) : padded outermost text = afterBlanks text :=
  if_pos rfl

/-- A text without blanks first is not padded. -/
theorem padded_settled (settled : startsBlank text = false) : padded outermost text = text := by
  rw [padded_outermost, afterBlanks_settled settled]

/-- Whatever comes after an operation comes after names. -/
theorem afterName_settled : afterName.all Head.isSettled = true := by decide

/-- A text that may come after some operations may come after more of them. -/
theorem Seam.mono (seam : Seam heads rest) (all : heads ⊆ others) : Seam others rest :=
  ⟨seam.lexed, seam.ends, seam.starts.mono all⟩

/-- What comes after a blank or none does so at once. -/
theorem Seam.settled (seam : Seam heads rest) (all : heads ⊆ afterName) :
    startsBlank (afterBlanks rest) = false :=
  (seam.starts.mono all).settled afterName_settled

/-- A bracket that closes may come after an operation. -/
theorem Lexed.closed (lexed : Lexed rest) (bracket : Bracket)
    (inside : inCode [bracket] = true) : Lexed (bracket.closing :: rest) := by
  obtain ⟨stack, code, lexes⟩ := lexed
  refine ⟨bracket :: stack, ?_, .closed bracket lexes⟩
  cases bracket <;> first | rfl | exact inside

/-- A mark without blanks before it may come after an operation. -/
theorem Seam.mark {c : Char} (lexed : Lexed (c :: rest)) (word : isIdentifierChar c = false)
    (settled : startsBlank (c :: rest) = false) (member : .marks [c] ∈ heads) :
    Seam heads (c :: rest) := by
  have fits : (Head.marks [c]).Fits ([c] ++ rest) :=
    Head.marks_fits (show startsWord [c] = false from word) (List.cons_ne_nil _ _) rest
  refine ⟨lexed, word, ?_⟩
  rw [afterBlanks_settled settled]
  exact ⟨_, member, fits⟩

/-- No point comes after the operations that are not accessed. -/
theorem Seam.point (seam : Seam afterObject rest) : rest.head? ≠ some '.' := by
  intro point
  obtain ⟨others, rfl⟩ := List.head?_eq_some_iff.mp point
  have none : ∀ head ∈ afterObject, head.maySpell ['.'] = false := by decide
  obtain ⟨head, member, fits⟩ := seam.starts
  rw [afterBlanks_settled rfl] at fits
  have spelled := Head.maySpell_of_starts fits (List.cons_ne_nil '.' []) ⟨others, rfl⟩
  rw [none head member] at spelled
  cases spelled

/-- An operation is printed in tokens before what may come after it. -/
theorem Expr.IsOperation.lexed (operation : e.IsOperation) (seam : Seam afterObject rest) :
    Lexed (e.characters ++ rest) := by
  obtain ⟨stack, code, lexes⟩ := seam.lexed
  exact ⟨stack, code, operation.isTokens code lexes seam.ends fun here => absurd here seam.point⟩

/-- A printed operation starts with no blank. -/
theorem Expr.IsOperation.settled (operation : e.IsOperation) (ends : startsWord rest = false) :
    startsBlank (e.characters ++ rest) = false := by
  have all : (headsFrom 0).all Head.isSettled = true := by decide
  exact ((operation.startsIn ends).mono (headsFrom_subset (Nat.zero_le _))).settled all

end

section

variable {text rest : List Char} {name : String} {e : Expr}

/-- A variable or a function name is read as its characters. -/
theorem Reads.identifier (named : isVariable name = true) (ends : startsWord rest = false) :
    Reads outermost (.once (.call .identifier)) (name.toList ++ rest) rest
      [Stands (.identifier name)] := by
  obtain ⟨starts, isWord, free⟩ := isVariable_word named
  have body : Reads (inside .atomic outermost) (.once Rule.identifier.body) (name.toList ++ rest)
      rest [] := by
    have read := Reads.identifier_body (inside_atomic outermost) (startsName_append rest starts)
      (by rw [firstWord_append isWord ends, free])
    rwa [dropWord_append isWord ends] at read
  refine .node nofun rfl body fun node children same spelled _ => ?_
  have text : node.text = name := by
    rw [Node.text, List.append_cancel_right spelled, String.ofList_toList]
  obtain ⟨_, place, stop⟩ := node
  cases same
  refine ⟨rfl, spanOf ⟨.identifier, place, stop⟩, ?_⟩
  change Except.ok (Expr.identifier (Node.text ⟨Rule.identifier, place, stop⟩), _) = _
  rw [text]

/-- A name, reserved or not, is read as its characters. -/
theorem Reads.identifierName (named : isIdentifierName name = true)
    (ends : startsWord rest = false) :
    Reads outermost (.once (.call .identifierName)) (name.toList ++ rest) rest
      [SpellsName name] := by
  obtain ⟨starts, isWord⟩ := isIdentifierName_word named
  have body : Reads (inside .atomic outermost) (.once Rule.identifierName.body)
      (name.toList ++ rest) rest [] := by
    have read := Reads.identifierName_body (inside_atomic outermost) (startsName_append rest starts)
    rwa [dropWord_append isWord ends] at read
  refine .node nofun rfl body fun node children same spelled _ => ?_
  have text : node.text = name := by
    rw [Node.text, List.append_cancel_right spelled, String.ofList_toList]
  obtain ⟨_, place, stop⟩ := node
  cases same
  exact ⟨rfl, text, rfl⟩

/-- A keyword is read if the first word of a text is the keyword, and else it is not. -/
theorem keyword_cases (word : Keyword) (text : List Char) :
    Reads outermost (.once (.call (.keyword word))) text (dropWord text) [Marks (.keyword word)] ∨
      Rejects outermost (.once (.call (.keyword word))) text := by
  by_cases known : firstWord text ∈ (Rule.keyword word).words.map String.toList
  · exact .inl (.words_node (.keyword word) text (show outermost.makesNodes = true from rfl) known)
  · exact .inr (.words (List.cons_ne_nil _ _) known)

/-- What starts with one keyword, or perhaps with another one before it, does not start with a
name that no such thing comes after. -/
theorem Rejects.after_keyword (word : Keyword) {e : Peg.Expression Rule}
    (plain : Head.plain.Fits text)
    (later : Rejects outermost (.once e) (afterBlanks (dropWord text)))
    (first : Rejects outermost (.once e) text) :
    Rejects outermost (.once (.seq (.maybe (.call (.keyword word))) e)) text := by
  rcases keyword_cases word text with reads | rejects
  · refine .seq_late reads.maybe_some ?_
    rw [padded_outermost]
    exact later
  · refine .seq_late (.maybe_none rejects) ?_
    rw [padded_settled (settled_of_name plain.1)]
    exact first

/-- No function starts with a name that something other than a function comes after. -/
theorem Rejects.function (plain : Head.plain.Fits text)
    (next : StartsIn afterName (afterBlanks (dropWord text))) (others : Peg.Expression Rule) :
    Rejects outermost (.once (.seq (.maybe (.call (.keyword .async)))
      (.seq (.call (.keyword .function)) others))) text := by
  have starts : StartsIn [.plain] text := ⟨_, List.mem_singleton_self _, plain⟩
  refine .after_keyword .async plain (.seq ?_ others) (.seq ?_ others)
  · exact .of_heads next (by decide) rfl rfl
  · exact .of_heads starts (by decide) rfl rfl

/-- What primary expressions are tried as, in order, before variables. -/
def primaryRules : List Rule :=
  [.functionExpression, .thisExpression, .nullLiteral, .booleanLiteral, .number, .string,
    .templateLiteral, .arrayLiteral, .objectLiteral, .parenthesizedExpression]

/-- A variable is read as a primary expression. -/
theorem Reads.variable (named : isVariable name = true) (seam : Seam afterName rest) :
    Reads outermost (.once (.call .primaryExpression)) (name.toList ++ rest) rest
      [Stands (.identifier name)] := by
  obtain ⟨name_starts, isWord, free⟩ := isVariable_word named
  have plain : Head.plain.Fits (name.toList ++ rest) := by
    refine ⟨startsName_append rest name_starts, ?_⟩
    rw [firstWord_append isWord seam.ends, free]
  have next : StartsIn afterName (afterBlanks (dropWord (name.toList ++ rest))) := by
    rw [dropWord_append isWord seam.ends]
    exact seam.starts
  have starts : StartsIn [.plain] (name.toList ++ rest) := ⟨_, List.mem_singleton_self _, plain⟩
  refine .hidden rfl ?_
  change Reads outermost (.once (firstOf (primaryRules.map .call ++ [.call Rule.identifier]))) _ _ _
  refine .firstOf_split (fun other member => ?_) (.identifier named seam.ends)
  obtain ⟨rule, listed, rfl⟩ := List.mem_map.mp member
  rcases List.mem_cons.mp listed with rfl | later
  · exact .call (.function plain next _)
  · have shut : ∀ rule ∈ primaryRules.tail, ([Head.plain].all fun head =>
        head.isSettled && !head.opens 64 (.call rule)) = true ∧
          Peg.Expression.isNullable ranking (.call rule) = false := by decide
    exact .of_heads starts (shut rule later).1 rfl (shut rule later).2

/-- What only one of the rules for primary expressions opens with is read by that rule. -/
theorem Reads.primary {heads : List Head} {text : List Char} {asked : List Asked}
    (before : List Rule) {rule : Rule} {after : List Rule}
    (split : primaryRules ++ [.identifier] = before ++ rule :: after) (starts : StartsIn heads text)
    (shut : (before.all fun other => !Peg.Expression.isNullable ranking (.call other) &&
      heads.all fun head => head.isSettled && !head.opens 64 (.call other)) = true)
    (one : Reads outermost (.once (.call rule)) text rest asked) :
    Reads outermost (.once (.call .primaryExpression)) text rest asked := by
  refine .hidden rfl ?_
  change Reads outermost (.once (firstOf ((primaryRules ++ [Rule.identifier]).map .call))) _ _ _
  rw [split, List.map_append, List.map_cons]
  refine .firstOf_split (fun other member => ?_) one
  obtain ⟨rule, listed, rfl⟩ := List.mem_map.mp member
  have facts := List.all_eq_true.mp shut rule listed
  rw [Bool.and_eq_true, Bool.not_eq_true'] at facts
  exact .of_heads starts facts.2 rfl facts.1

/-- A constant that is a word is read as a primary expression. -/
theorem Reads.word_constant (before : List Rule) {rule : Rule} {after : List Rule} {word : String}
    (split : primaryRules ++ [.identifier] = before ++ rule :: after)
    (known : word.toList ∈ rule.words.map String.toList)
    (isWord : word.toList.all isIdentifierChar = true) (starts : startsName word.toList = true)
    (ends : startsWord rest = false)
    (shut : (before.all fun other => !Peg.Expression.isNullable ranking (.call other) &&
      [Head.named word.toList].all fun head => head.isSettled && !head.opens 64 (.call other)) = true)
    (meaning : ∀ node : Node Rule, node.rule = rule → node.text = word →
      Stands e (node, assemble node [])) :
    Reads outermost (.once (.call .primaryExpression)) (word.toList ++ rest) rest [Stands e] := by
  have some : rule.words ≠ [] := fun none => by rw [none] at known; cases known
  have kind := (Rule.isWords some).kind
  have first : firstWord (word.toList ++ rest) = word.toList := firstWord_append isWord ends
  have body : Reads (inside rule.kind outermost) (.once rule.body) (word.toList ++ rest) rest [] := by
    have read := @Reads.words_body outermost (word.toList ++ rest) rule (by rw [first]; exact known)
    rwa [dropWord_append isWord ends] at read
  have here : StartsIn [.named word.toList] (word.toList ++ rest) :=
    ⟨_, List.mem_singleton_self _, Head.named_fits isWord starts ends⟩
  refine .primary before split here shut (.node ?_ ?_ body ?_)
  · rw [kind]
    exact nofun
  · rw [kind]
    rfl
  · intro node children same spelled meets
    cases meets
    refine meaning node same ?_
    rw [Node.text, List.append_cancel_right spelled, String.ofList_toList]

/-- The receiver of the running call is read. -/
theorem Reads.this (ends : startsWord rest = false) :
    Reads outermost (.once (.call .primaryExpression)) ("this".toList ++ rest) rest
      [Stands .this] := by
  refine .word_constant [.functionExpression] rfl (by decide) (by decide) rfl ends
    (by decide) fun node same _ => ?_
  obtain ⟨_, place, stop⟩ := node
  cases same
  exact ⟨rfl, _, rfl⟩

/-- The null value is read. -/
theorem Reads.null (ends : startsWord rest = false) :
    Reads outermost (.once (.call .primaryExpression)) ("null".toList ++ rest) rest
      [Stands (.literal .null)] := by
  refine .word_constant [.functionExpression, .thisExpression] rfl (by decide) (by decide) rfl ends
    (by decide) fun node same _ => ?_
  obtain ⟨_, place, stop⟩ := node
  cases same
  exact ⟨rfl, _, rfl⟩

/-- A truth value is read. -/
theorem Reads.boolean (value : Bool) (ends : startsWord rest = false) :
    Reads outermost (.once (.call .primaryExpression))
      ((Expr.literal (.boolean value)).characters ++ rest) rest
      [Stands (.literal (.boolean value))] := by
  have meaning (word : String) (told : decide (word = "true") = value) (node : Node Rule)
      (same : node.rule = .booleanLiteral) (text : node.text = word) :
      Stands (.literal (.boolean value)) (node, assemble node []) := by
    obtain ⟨_, place, stop⟩ := node
    cases same
    refine ⟨rfl, spanOf ⟨.booleanLiteral, place, stop⟩, ?_⟩
    change Except.ok (Expr.literal (.boolean
      (decide (Node.text ⟨Rule.booleanLiteral, place, stop⟩ = "true"))), _) = _
    rw [text, told]
  rw [characters_boolean]
  cases value with
  | true =>
    exact .word_constant [.functionExpression, .thisExpression, .nullLiteral] rfl (by decide)
      (by decide) rfl ends (by decide) (meaning "true" rfl)
  | false =>
    exact .word_constant [.functionExpression, .thisExpression, .nullLiteral] rfl (by decide)
      (by decide) rfl ends (by decide) (meaning "false" rfl)

/-- What is asked of the node of a quoted text: that it is the whole text, and what it stands for. -/
def Quotes (value : String) : Asked := fun child =>
  child.rule = .string ∧ child.text = Text.Quoted.encode value ∧ child.2 = .ok (.text value)

/-- The characters of a quoted text. -/
theorem toList_encode (value : String) :
    (Text.Quoted.encode value).toList = '"' :: quotedBody value.toList ++ ['"'] := by
  rw [Text.Quoted.encode, String.toList_ofList]
  rfl

/-- A quoted text is read as one string that stands for the text. -/
theorem Reads.string (value : String) (rest : List Char) :
    Reads outermost (.once (.call .string)) ((Text.Quoted.encode value).toList ++ rest) rest
      [Quotes value] := by
  have compact : (inside .compact outermost).mode ≠ .spaced := nofun
  have inner : Reads (inside .compact outermost) (.once (.call .doubleQuoted))
      (quotedBody value.toList ++ '"' :: rest) ('"' :: rest)
      [fun child => child.rule = .doubleQuoted ∧ child.1.characters = quotedBody value.toList] :=
    .node nofun rfl
      (.doubleQuoted_body (inside_atomic _) _ rest (isQuotable_quotedBody value.toList))
      fun node children same spelled _ => ⟨same, List.append_cancel_right spelled⟩
  have whole : (Text.Quoted.encode value).toList ++ rest =
      '"' :: quotedBody value.toList ++ '"' :: rest := by
    rw [toList_encode, List.append_assoc]
    rfl
  have body := Reads.string_body compact _ rest inner
  rw [← whole] at body
  refine .node nofun rfl body ?_
  intro node children same spelled meets
  have parts := filter_noise_all meets
    (show Shown _ from fun child asks => by rw [asks.1]; rfl)
  cases meets with
  | @cons raw _ _ _ asks none =>
  cases none with
  | nil =>
    obtain ⟨_, place, stop⟩ := node
    cases same
    refine ⟨rfl, ?_, ?_⟩
    · change String.ofList (Node.characters _) = _
      rw [List.append_cancel_right spelled, String.ofList_toList]
    unfold assemble
    rw [parts]
    change Except.ok (Part.text (String.ofList (unescape raw.1.characters))) = _
    rw [asks.2, unescape_quotedBody, String.ofList_toList]

/-- A text is read. -/
theorem Reads.quoted (value : String) (rest : List Char) :
    Reads outermost (.once (.call .primaryExpression))
      ((Expr.literal (.text value)).characters ++ rest) rest [Stands (.literal (.text value))] := by
  have starts : StartsIn [.marks ['"']] ((Expr.literal (.text value)).characters ++ rest) := by
    rw [characters_text]
    exact ⟨_, List.mem_singleton_self _, Head.marks_fits rfl (List.cons_ne_nil _ _) _⟩
  refine .primary [.functionExpression, .thisExpression, .nullLiteral, .booleanLiteral, .number]
    rfl starts (by decide) ((Reads.string value rest).imp fun child denotes => ?_)
  obtain ⟨same, _, text⟩ := denotes
  refine ⟨by rw [same]; rfl, spanOf child.1, ?_⟩
  rw [Child.spannedExpr, text]
  rfl

/-- A run of digits is read as one numeral, which stands for the double nearest to it, unless a
point comes after it. -/
theorem Reads.numeral {digits : List Char} (filled : digits ≠ [])
    (all : digits.all Char.isDigit = true) (ends : startsWord rest = false)
    (point : rest.head? ≠ some '.') :
    Reads outermost (.once (.call .number)) (digits ++ rest) rest
      [fun child => child.rule = .number ∧
        child.2 = .ok (.numeral (some (Number.Decimal.toFloat ⟨Number.ofDigits digits, 0⟩)))] := by
  refine .node nofun rfl (.number_body (inside_atomic _) _ rest filled all ends point) ?_
  intro node children same spelled _
  have characters : node.characters = digits := List.append_cancel_right spelled
  obtain ⟨_, place, stop⟩ := node
  cases same
  refine ⟨rfl, ?_⟩
  change Except.ok (Part.numeral (Number.readLiteral? (Node.characters _))) = _
  rw [characters, Number.readLiteral?_digits filled (List.all_eq_true.mp all)]

/-- A natural number is read, unless a point comes after it. -/
theorem Reads.number {n : Nat} (small : n < 2 ^ 53) (ends : startsWord rest = false)
    (point : rest.head? ≠ some '.') :
    Reads outermost (.once (.call .primaryExpression))
      ((Expr.literal (.number (Float.ofNat n))).characters ++ rest) rest
      [Stands (.literal (.number (Float.ofNat n)))] := by
  obtain ⟨filled, all⟩ := Number.digitsOf_all n
  rw [characters_number small]
  have starts : StartsIn [.digit] (Number.digitsOf n ++ rest) := by
    cases spelling : Number.digitsOf n with
    | nil => exact absurd spelling filled
    | cons c others =>
      rw [spelling, List.all_cons, Bool.and_eq_true] at all
      exact ⟨_, List.mem_singleton_self _, c, _, rfl, mem_digits all.1⟩
  refine .primary [.functionExpression, .thisExpression, .nullLiteral, .booleanLiteral] rfl starts
    (by decide) ((Reads.numeral filled all ends point).imp fun child denotes => ?_)
  obtain ⟨same, value⟩ := denotes
  rw [Number.ofDigits_digitsOf, Number.toFloat_ofNat small] at value
  refine ⟨by rw [same]; rfl, spanOf child.1, ?_⟩
  rw [Child.spannedExpr, value]
  rfl

end

end PluginSandbox.Syntax
