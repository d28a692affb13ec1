import PluginSandbox.Proofs.Syntax.Primaries

/-!
# Reading what stands in brackets

Operations that are read back are so in parentheses, in lists, in templates and in the brackets of
accesses and calls. In each of these, marks on both sides keep an operation apart from the rest.
-/
namespace PluginSandbox.Syntax

open Peg (Surroundings Node)
open Peg.Grammar (outermost inside)
open Peg.Expression (firstOf inOrder)

/-- The marks that come right after an operation and close what it stands in. -/
def closingMarks : List Char := [')', ']', '\x7d', ',', ';', ':']

/-- What is read inside an access or a call is read back. -/
def Suffix.IsRead : Suffix → Prop
  | .member name _ => isIdentifierName name = true
  | .index key _ => key.IsRead
  | .call arguments _ => ∀ element ∈ arguments, element.value.IsRead

/-- What accesses and calls are tried as, in order. -/
def suffixRules : List Rule :=
  [.arguments, .memberDot, .optionalCall, .optionalBracket, .optionalMember, .memberBracket,
    .nonNullAssertion]

section

variable {rest : List Char} {c : Char} {e : Expr} {elements : List Element}

/-- A closing mark may come after an operation, which is left there. -/
theorem Seam.closing (lexed : Lexed (c :: rest)) (closes : c ∈ closingMarks) :
    Seam closers (c :: rest) ∧ afterBlanks (c :: rest) = c :: rest := by
  have facts : ∀ d ∈ closingMarks, isIdentifierChar d = false ∧ d ≠ '/' ∧ isSpace d = false ∧
      Head.marks [d] ∈ closers := forall_of_all (by decide)
  obtain ⟨word, slash, space, listed⟩ := facts c closes
  have settled : startsBlank (c :: rest) = false := (startsBlank_of_ne rest slash).trans space
  exact ⟨.mark lexed word settled listed, afterBlanks_settled settled⟩

/-- An expression is read as the operation that it is. -/
theorem Expr.IsRead.reads_expression (read : e.IsRead) (seam : Seam closers rest) :
    Reads outermost (.once (.call .expression)) (e.characters ++ rest) (afterBlanks rest)
      [Denotes .expression e] := by
  refine .node nofun rfl (read.reads seam) fun node children same _ meets => ?_
  exact denotes_passes rfl (fun child denotes => denotes.stands rfl) same meets

/-- An operation between marks is read. -/
theorem Expr.IsRead.reads_enclosed (read : e.IsRead) (opening : List Char)
    (lexed : Lexed (c :: rest)) (closes : c ∈ closingMarks) :
    Reads outermost (.once (inOrder [.literal opening, .call .expression, .literal [c]]))
      (opening ++ (e.characters ++ c :: rest)) rest [Denotes .expression e] := by
  obtain ⟨seam, stays⟩ := Seam.closing lexed closes
  have inner := read.reads_expression seam
  rw [stays] at inner
  have closing : Reads outermost (.once (.literal [c])) (padded outermost (c :: rest)) rest [] := by
    rw [padded_outermost, stays]
    exact .literal outermost [c] rest
  refine (Reads.literal outermost opening (e.characters ++ c :: rest)).seq ?_
  rw [padded_settled (read.operation.settled seam.ends)]
  exact inner.seq closing

/-- An operation in parentheses is read. -/
theorem Reads.parenthesized (read : e.IsRead) (lexed : Lexed rest) :
    Reads outermost (.once (.call .primaryExpression)) (inParentheses e.characters ++ rest) rest
      [Stands e] := by
  have whole : inParentheses e.characters ++ rest = ['('] ++ (e.characters ++ ')' :: rest) := by
    simp [inParentheses]
  have starts : StartsIn [.marks ['(']] (['('] ++ (e.characters ++ ')' :: rest)) :=
    ⟨_, List.mem_singleton_self _, Head.marks_fits rfl (List.cons_ne_nil _ _) _⟩
  rw [whole]
  refine .primary (primaryRules.take 9) rfl starts (by decide)
    (.node (by decide) rfl (read.reads_enclosed ['('] (lexed.closed .round rfl) (by decide)) ?_)
  intro node children same _ meets
  have denotes : Denotes .parenthesizedExpression e (node, assemble node children) :=
    denotes_passes rfl (fun child denotes => denotes.stands rfl) same meets
  exact denotes.stands rfl

/-- An item of a list is read. -/
theorem Reads.listElement {element : Element} (read : element.value.IsRead)
    (seam : Seam closers rest) :
    Reads outermost (.once (.call .listElement)) (element.characters ++ rest) (afterBlanks rest)
      [Lists element] := by
  have inner := read.reads seam
  refine .hidden rfl ?_
  cases element with
  | item value =>
    have starts : StartsIn (headsFrom 0) (value.characters ++ rest) :=
      (read.operation.startsIn seam.ends).mono (headsFrom_subset (Nat.zero_le _))
    exact .choice_second (.of_heads starts (by decide) rfl rfl)
      (inner.imp fun child denotes => denotes.lists)
  | spread source =>
    have settled : startsBlank (source.characters ++ rest) = false :=
      read.operation.settled seam.ends
    have body : Reads (inside Rule.spreadElement.kind outermost) (.once Rule.spreadElement.body)
        ("...".toList ++ (source.characters ++ rest)) (afterBlanks rest)
        [Denotes .assignmentExpression source] := by
      refine (Reads.literal outermost "...".toList _).seq ?_
      rw [padded_settled settled]
      exact inner
    have spread : Reads outermost (.once (.call .spreadElement))
        ("...".toList ++ (source.characters ++ rest)) (afterBlanks rest) [Lists (.spread source)] :=
      .node nofun rfl body fun node children same _ meets => lists_spread same meets
    exact spread.choice_first _

/-- The items after the first one of a list may come after an item. -/
theorem seam_later (parts : ∀ element ∈ elements, element.value.IsRead)
    (lexed : Lexed (c :: rest)) (closes : c ∈ closingMarks) :
    Seam closers (laterCharacters elements ++ c :: rest) ∧
      afterBlanks (laterCharacters elements ++ c :: rest) = laterCharacters elements ++ c :: rest := by
  obtain ⟨stack, code, lexes⟩ := lexed
  have facts : ∀ d ∈ closingMarks, isIdentifierChar d = false ∧ d ≠ '.' :=
    forall_of_all (by decide)
  have point : (c :: rest).head? ≠ some '.' := fun same => (facts c closes).2 (Option.some.inj same)
  have later : Lexes stack (laterCharacters elements ++ c :: rest) :=
    lexes_later (fun element member => (parts element member).operation.isTokens) code lexes
      (facts c closes).1 point
  cases elements with
  | nil => exact Seam.closing ⟨stack, code, lexes⟩ closes
  | cons => exact Seam.closing ⟨stack, code, later⟩ (by decide)

/-- The items after the first one of a list are read. -/
theorem repeats_later (parts : ∀ element ∈ elements, element.value.IsRead)
    (lexed : Lexed (c :: rest)) (closes : c ∈ closingMarks) :
    Repeats outermost (.seq (.literal [',']) (.call .listElement))
      (laterCharacters elements ++ c :: rest) (c :: rest) (elements.map Lists) := by
  induction elements with
  | nil => exact .done _
  | cons element others ih =>
    have partsLater : ∀ other ∈ others, other.value.IsRead :=
      fun other member => parts other (.tail element member)
    have read := parts element List.mem_cons_self
    obtain ⟨seam, stays⟩ := seam_later partsLater lexed closes
    have item := Reads.listElement read seam
    rw [stays] at item
    have starts : startsBlank (element.characters ++ (laterCharacters others ++ c :: rest)) = false := by
      cases element with
      | item value => exact read.operation.settled seam.ends
      | spread source => rfl
    have one : Reads outermost (.once (.seq (.literal [',']) (.call .listElement)))
        (laterCharacters (element :: others) ++ c :: rest) (laterCharacters others ++ c :: rest)
        [Lists element] := by
      rw [laterCharacters]
      simp only [List.append_assoc, List.cons_append]
      refine (Reads.literal outermost [','] _).seq ?_
      rw [padded_outermost, afterBlanks_spaced starts]
      exact item
    have padded_one := one
    rw [← (seam_later parts lexed closes).2, ← padded_outermost] at padded_one
    exact .more padded_one (ih partsLater)

/-- The items of a list are read, up to the bracket that closes it. -/
theorem Reads.list (parts : ∀ element ∈ elements, element.value.IsRead)
    (lexed : Lexed (c :: rest)) (closes : c = ')' ∨ c = ']') :
    Reads outermost (.once (Rule.listOf .listElement)) (listCharacters elements ++ c :: rest)
      (c :: rest) (elements.map Lists) := by
  have member : c ∈ closingMarks := by rcases closes with rfl | rfl <;> decide
  obtain ⟨seam, stays⟩ := Seam.closing lexed member
  have starts : StartsIn [.marks [')'], .marks [']']] (c :: rest) := by
    rcases closes with rfl | rfl
    · exact ⟨_, List.mem_cons_self, Head.marks_fits rfl (List.cons_ne_nil ')' []) rest⟩
    · exact ⟨_, .tail _ List.mem_cons_self, Head.marks_fits rfl (List.cons_ne_nil ']' []) rest⟩
  cases elements with
  | nil => exact .maybe_none (.seq (.seq (.of_heads starts (by decide) rfl rfl) _) _)
  | cons element others =>
    have partsLater : ∀ other ∈ others, other.value.IsRead :=
      fun other member => parts other (.tail element member)
    obtain ⟨seamLater, staysLater⟩ := seam_later partsLater lexed member
    have item := Reads.listElement (parts element List.mem_cons_self) seamLater
    have comma : Rejects outermost (.once (.literal [','])) (c :: rest) :=
      .of_heads starts (by decide) rfl rfl
    have noMore : Rejects outermost (.once (.seq (.literal [',']) (.call .listElement)))
        (padded outermost (c :: rest)) := by
      rw [padded_outermost, stays]
      exact .seq comma _
    obtain ⟨left, ends, more⟩ := (repeats_later partsLater lexed member).reads_many noMore
    have same : left = c :: rest := by
      rcases ends with rfl | rfl
      · rfl
      · rw [padded_outermost, stays]
    subst same
    rw [padded_outermost, ← staysLater] at more
    have last : Reads outermost (.once (.maybe (.literal [',']))) (padded outermost (c :: rest))
        (c :: rest) [] := by
      rw [padded_outermost, stays]
      exact .maybe_none comma
    have whole := ((item.seq more).seq last).maybe_some
    rw [List.append_nil] at whole
    rw [listCharacters, List.append_assoc]
    exact whole

/-- A list in brackets is read. -/
theorem Reads.enclosed_list (opening : Char) (parts : ∀ element ∈ elements, element.value.IsRead)
    (lexed : Lexed (c :: rest)) (closes : c = ')' ∨ c = ']') :
    Reads outermost (.once (inOrder [.literal [opening], Rule.listOf .listElement, .literal [c]]))
      (opening :: (listCharacters elements ++ c :: rest)) rest (elements.map Lists) := by
  have member : c ∈ closingMarks := by rcases closes with rfl | rfl <;> decide
  have settled : startsBlank (listCharacters elements ++ c :: rest) = false := by
    cases elements with
    | nil => rcases closes with rfl | rfl <;> rfl
    | cons element others =>
      have read := parts element List.mem_cons_self
      have ends := (seam_later (fun other member => parts other (.tail element member)) lexed
        member).1.ends
      rw [listCharacters, List.append_assoc]
      cases element with
      | item value => exact read.operation.settled ends
      | spread source => rfl
  have closing : Reads outermost (.once (.literal [c])) (padded outermost (c :: rest)) rest [] := by
    rw [padded_outermost, (Seam.closing lexed member).2]
    exact .literal outermost [c] rest
  have inner := (Reads.list parts lexed closes).seq closing
  rw [List.append_nil] at inner
  refine (Reads.literal outermost [opening] (listCharacters elements ++ c :: rest)).seq ?_
  rw [padded_settled settled]
  exact inner

/-- A list is read as a primary expression. -/
theorem Reads.array (parts : ∀ element ∈ elements, element.value.IsRead) (lexed : Lexed rest) :
    Reads outermost (.once (.call .primaryExpression)) ((Expr.array elements).characters ++ rest)
      rest [Stands (.array elements)] := by
  have whole : (Expr.array elements).characters ++ rest =
      '[' :: (listCharacters elements ++ ']' :: rest) := by
    rw [characters_array]
    simp
  have starts : StartsIn [.marks ['[']] ('[' :: (listCharacters elements ++ ']' :: rest)) :=
    ⟨_, List.mem_singleton_self _, Head.marks_fits rfl (List.cons_ne_nil '[' []) _⟩
  rw [whole]
  exact .primary (primaryRules.take 7) rfl starts (by decide)
    (.node nofun rfl (.enclosed_list '[' parts (lexed.closed .square rfl) (.inr rfl))
      fun node children same _ meets => (denotes_array same meets).stands rfl)

/-- Arguments in parentheses are read. -/
theorem Reads.arguments (parts : ∀ element ∈ elements, element.value.IsRead) (lexed : Lexed rest) :
    Reads outermost (.once (.call .arguments)) (inParentheses (listCharacters elements) ++ rest)
      rest [(Suffix.call elements false).Asks] := by
  have whole : inParentheses (listCharacters elements) ++ rest =
      '(' :: (listCharacters elements ++ ')' :: rest) := by
    simp [inParentheses]
  rw [whole]
  exact .node (by decide) rfl (.enclosed_list '(' parts (lexed.closed .round rfl) (.inl rfl))
    fun node children same _ meets => denotes_arguments same meets

/-- A mark rejects a text that starts with a name. -/
theorem Rejects.mark_of_name {around : Surroundings} {text : List Char} (characters : List Char)
    (word : isIdentifierChar c = false) (starts : startsName text = true) :
    Rejects around (.once (.literal (c :: characters))) text := by
  cases text with
  | nil => cases starts
  | cons d others =>
    refine .literal_head around characters others ?_
    rintro rfl
    exact Bool.false_ne_true (word.symm.trans (isIdentifierChar_of_start starts))

/-- An access or a call is read by one rule if the rules before it do not fit. -/
theorem Reads.callSuffix {text : List Char} {asked : List Asked} (before : List Rule) {rule : Rule}
    {after : List Rule} (split : suffixRules = before ++ rule :: after)
    (earlier : ∀ other ∈ before, Rejects outermost (.once (.call other)) text)
    (one : Reads outermost (.once (.call rule)) text rest asked) :
    Reads outermost (.once (.call .callSuffix)) text rest asked := by
  refine .hidden rfl ?_
  change Reads outermost (.once (firstOf (suffixRules.map .call))) _ _ _
  rw [split, List.map_append, List.map_cons]
  refine .firstOf_split (fun other member => ?_) one
  obtain ⟨rule, listed, rfl⟩ := List.mem_map.mp member
  exact earlier rule listed

/-- An access to a property with a fixed name is read. -/
theorem Reads.member {name : String} (named : isIdentifierName name = true) (optional : Bool)
    (ends : startsWord rest = false) :
    Reads outermost (.once (.call .callSuffix)) ((Suffix.member name optional).characters ++ rest)
      rest [(Suffix.member name optional).Asks] := by
  have starts : startsName (name.toList ++ rest) = true :=
    startsName_append rest (isIdentifierName_word named).1
  have settled : startsBlank (name.toList ++ rest) = false := settled_of_name starts
  have body (mark : List Char) : Reads outermost
      (.once (inOrder [.literal mark, .call .identifierName])) (mark ++ (name.toList ++ rest)) rest
      [SpellsName name] := by
    refine (Reads.literal outermost mark _).seq ?_
    rw [padded_settled settled]
    exact .identifierName named ends
  rw [Suffix.characters, List.append_assoc]
  cases optional with
  | false =>
    have here : StartsIn [.marks ['.']] (['.'] ++ (name.toList ++ rest)) :=
      ⟨_, List.mem_singleton_self _, Head.marks_fits rfl (List.cons_ne_nil _ _) _⟩
    refine .callSuffix [.arguments] rfl (fun other member => ?_)
      (.node (by decide) rfl (body ['.']) fun node children same _ meets => denotes_member same meets)
    rw [List.mem_singleton.mp member]
    exact .of_heads here (by decide) rfl rfl
  | true =>
    have here : StartsIn [.marks ['?', '.']] (['?', '.'] ++ (name.toList ++ rest)) :=
      ⟨_, List.mem_singleton_self _, Head.marks_fits rfl (List.cons_ne_nil _ _) _⟩
    have late {e : Peg.Expression Rule} (none : Rejects outermost (.once e) (name.toList ++ rest)) :
        Rejects outermost (.once (.seq (.literal ['?', '.']) e)) (['?', '.'] ++ (name.toList ++ rest)) := by
      refine .seq_late (.literal outermost ['?', '.'] _) ?_
      rw [padded_settled settled]
      exact none
    refine .callSuffix [.arguments, .memberDot, .optionalCall, .optionalBracket] rfl
      (fun other member => ?_)
      (.node (by decide) rfl (body ['?', '.']) fun node children same _ meets => denotes_member same meets)
    simp only [List.mem_cons, List.not_mem_nil, or_false] at member
    rcases member with rfl | rfl | rfl | rfl
    · exact .of_heads here (by decide) rfl rfl
    · exact .of_heads here (by decide) rfl rfl
    · exact .call (late (.call (.seq (.mark_of_name [] rfl starts) _)))
    · exact .call (late (.seq (.mark_of_name [] rfl starts) _))

/-- An access to a property whose key is computed is read. -/
theorem Reads.index {key : Expr} (read : key.IsRead) (optional : Bool) (lexed : Lexed rest) :
    Reads outermost (.once (.call .callSuffix)) ((Suffix.index key optional).characters ++ rest)
      rest [(Suffix.index key optional).Asks] := by
  have inner := read.reads_enclosed ['['] (lexed.closed .square rfl) (by decide)
  have whole : (Suffix.index key optional).characters ++ rest =
      optionalMark optional ++ (['['] ++ (key.characters ++ ']' :: rest)) := by
    rw [Suffix.characters]
    simp
  rw [whole]
  cases optional with
  | false =>
    have here : StartsIn [.marks ['[']] (['['] ++ (key.characters ++ ']' :: rest)) :=
      ⟨_, List.mem_singleton_self _, Head.marks_fits rfl (List.cons_ne_nil _ _) _⟩
    have shut : ∀ rule ∈ suffixRules.take 5, ([Head.marks ['[']].all fun head =>
        head.isSettled && !head.opens 64 (.call rule)) = true ∧
          Peg.Expression.isNullable ranking (.call rule) = false := by decide
    exact .callSuffix (suffixRules.take 5) rfl
      (fun other member => .of_heads here (shut other member).1 rfl (shut other member).2)
      (.node (by decide) rfl inner fun node children same _ meets => denotes_index same meets)
  | true =>
    have here : StartsIn [.marks ['?', '.', '[']]
        (['?', '.'] ++ (['['] ++ (key.characters ++ ']' :: rest))) :=
      ⟨_, List.mem_singleton_self _,
        Head.marks_fits rfl (List.cons_ne_nil _ _) (key.characters ++ ']' :: rest)⟩
    have mark := Reads.literal outermost ['?', '.'] (['['] ++ (key.characters ++ ']' :: rest))
    have body := mark.seq (by rw [padded_settled rfl]; exact inner)
    refine .callSuffix [.arguments, .memberDot, .optionalCall] rfl (fun other member => ?_)
      (.node (by decide) rfl body fun node children same _ meets => denotes_index same meets)
    simp only [List.mem_cons, List.not_mem_nil, or_false] at member
    rcases member with rfl | rfl | rfl
    · exact .of_heads here (by decide) rfl rfl
    · exact .of_heads here (by decide) rfl rfl
    · have none : Rejects outermost (.once (.call .arguments)) (['['] ++ (key.characters ++ ']' :: rest)) :=
        .call (.seq (.literal_head _ [] _ (by decide)) _)
      have late : Rejects outermost (.once (.seq (.literal ['?', '.']) (.call .arguments)))
          (['?', '.'] ++ (['['] ++ (key.characters ++ ']' :: rest))) :=
        .seq_late mark (by rw [padded_settled rfl]; exact none)
      exact .call late

/-- A call is read. -/
theorem Reads.call (parts : ∀ element ∈ elements, element.value.IsRead) (optional : Bool)
    (lexed : Lexed rest) :
    Reads outermost (.once (.call .callSuffix)) ((Suffix.call elements optional).characters ++ rest)
      rest [(Suffix.call elements optional).Asks] := by
  have inner := Reads.arguments parts lexed
  rw [Suffix.characters, List.append_assoc]
  cases optional with
  | false => exact .callSuffix [] rfl (by simp) inner
  | true =>
    have here : StartsIn [.marks ['?', '.']]
        (['?', '.'] ++ (inParentheses (listCharacters elements) ++ rest)) :=
      ⟨_, List.mem_singleton_self _, Head.marks_fits rfl (List.cons_ne_nil _ _) _⟩
    have mark := Reads.literal outermost ['?', '.'] (inParentheses (listCharacters elements) ++ rest)
    have body := mark.seq (by rw [padded_settled rfl]; exact inner)
    refine .callSuffix [.arguments, .memberDot] rfl (fun other member => ?_)
      (.node (by decide) rfl body fun node children same _ meets => denotes_optionalCall same meets)
    simp only [List.mem_cons, List.not_mem_nil, or_false] at member
    rcases member with rfl | rfl
    · exact .of_heads here (by decide) rfl rfl
    · exact .of_heads here (by decide) rfl rfl

/-- An access or a call is read as what it is. -/
theorem Reads.suffix {suffix : Suffix} (read : suffix.IsRead) (lexed : Lexed rest)
    (ends : startsWord rest = false) :
    Reads outermost (.once (.call .callSuffix)) (suffix.characters ++ rest) rest [suffix.Asks] := by
  cases suffix with
  | member name optional => exact .member read optional ends
  | index key optional => exact .index read optional lexed
  | call arguments optional => exact .call read optional lexed

end

section

variable {rest : List Char} {e : Expr}

/-- The surroundings between the ticks of a template. -/
def inTicks : Surroundings := inside .compact outermost

/-- A piece of a template or an expression in it. -/
def templatePart : Peg.Expression Rule := firstOf [.call .templateChars, .call .templateSubstitution]

/-- No piece of a template is read where one ends. -/
theorem Rejects.templateChars_ends (ends : endsPiece rest = true) :
    Rejects inTicks (.once (.call .templateChars)) rest :=
  .call (.seq (.templateUnit_ends (inside_atomic inTicks) ends) _)

/-- A piece of a template is read, unless it is empty. -/
theorem repeats_piece (piece : String) (ends : endsPiece rest = true) :
    Repeats inTicks templatePart (escapeTemplateChars piece.toList ++ rest) rest
      (pieceAsked piece) := by
  rw [pieceAsked]
  split
  case isTrue empty =>
    rw [empty]
    exact .done rest
  case isFalse filled =>
    have one : Reads inTicks (.once (.call .templateChars))
        (escapeTemplateChars piece.toList ++ rest) rest
        [fun child => child.rule = .templateChars ∧
          unescape child.1.characters = piece.toList] := by
      refine .node (by decide) rfl (.templateChars_body (inside_atomic inTicks) filled ends) ?_
      intro node children same spelled _
      refine ⟨same, ?_⟩
      have characters : node.characters = escapeTemplateChars piece.toList :=
        List.append_cancel_right spelled
      change unescape node.characters = piece.toList
      rw [characters, unescape_escapeTemplateChars]
    have padded_one := one.choice_first (.call .templateSubstitution)
    exact .more padded_one (.done rest)

/-- An expression in a template is read. -/
theorem Reads.templateSubstitution (read : e.IsRead) (lexed : Lexed ('\x7d' :: rest)) :
    Reads inTicks (.once templatePart) ('$' :: '\x7b' :: (e.characters ++ '\x7d' :: rest)) rest
      [Denotes .templateSubstitution e] := by
  have body : Reads (inside Rule.templateSubstitution.kind inTicks)
      (.once Rule.templateSubstitution.body)
      ('$' :: '\x7b' :: (e.characters ++ '\x7d' :: rest)) rest [Denotes .expression e] :=
    read.reads_enclosed ['$', '\x7b'] lexed (by decide)
  have one : Reads inTicks (.once (.call .templateSubstitution))
      ('$' :: '\x7b' :: (e.characters ++ '\x7d' :: rest)) rest [Denotes .templateSubstitution e] :=
    .node nofun rfl body fun node children same _ meets =>
      denotes_passes rfl (fun child denotes => denotes.stands rfl) same meets
  exact one.choice_second (.templateChars_ends rfl)

/-- What stands between the ticks of a template is read. -/
theorem repeats_template {stack : List Bracket} {quasis : List String} {expressions : List Expr}
    (pieces : quasis.length = expressions.length + 1) (parts : ∀ e ∈ expressions, e.IsRead)
    (lexes : Lexes stack rest) :
    Repeats inTicks templatePart (templateCharacters quasis expressions ++ '\x60' :: rest)
      ('\x60' :: rest) (templateAsked quasis expressions) := by
  induction quasis generalizing expressions with
  | nil => cases pieces
  | cons piece quasis ih =>
    cases expressions with
    | nil =>
      cases quasis with
      | cons => cases pieces
      | nil =>
        rw [templateCharacters, templateCharacters, List.append_nil]
        exact repeats_piece piece rfl
    | cons value values =>
      have partsLater : ∀ e ∈ values, e.IsRead := fun e member => parts e (.tail value member)
      have more := ih (Nat.succ.inj pieces) partsLater
      have later : Lexes (.tick :: stack) (templateCharacters quasis values ++ '\x60' :: rest) :=
        lexes_template (Nat.succ.inj pieces) (fun e member => (partsLater e member).operation.isTokens)
          lexes
      have one := Reads.templateSubstitution (parts value List.mem_cons_self)
        ⟨_, rfl, .closed .hole later⟩
      rw [templateCharacters]
      simp only [List.append_assoc, List.cons_append]
      exact (repeats_piece piece rfl).append (.more one more)

/-- A template is read as a primary expression. -/
theorem Reads.template {quasis : List String} {expressions : List Expr}
    (pieces : quasis.length = expressions.length + 1) (parts : ∀ e ∈ expressions, e.IsRead)
    (lexed : Lexed rest) :
    Reads outermost (.once (.call .primaryExpression))
      ((Expr.template quasis expressions).characters ++ rest) rest
      [Stands (.template quasis expressions)] := by
  obtain ⟨stack, code, lexes⟩ := lexed
  have whole : (Expr.template quasis expressions).characters ++ rest =
      '\x60' :: (templateCharacters quasis expressions ++ '\x60' :: rest) := by
    rw [characters_template]
    simp
  have starts : StartsIn [.marks ['\x60']]
      ('\x60' :: (templateCharacters quasis expressions ++ '\x60' :: rest)) :=
    ⟨_, List.mem_singleton_self _, Head.marks_fits rfl (List.cons_ne_nil '\x60' []) _⟩
  have compact : inTicks.mode ≠ .spaced := nofun
  have none : Rejects inTicks (.once templatePart) ('\x60' :: rest) :=
    .choice (.templateChars_ends rfl) (.call (.seq (.literal_head _ _ rest (by decide)) _))
  have inner := Reads.many_compact compact ((repeats_template pieces parts lexes).reads_again none)
  have closing := Reads.literal inTicks ['\x60'] rest
  have opening := Reads.literal inTicks ['\x60']
    (templateCharacters quasis expressions ++ '\x60' :: rest)
  have body := opening.seq (inner.seq closing)
  rw [List.append_nil] at body
  rw [whole]
  exact .primary (primaryRules.take 6) rfl starts (by decide)
    (.node nofun rfl body fun node children same _ meets =>
      (denotes_template pieces same meets).stands rfl)

end

end PluginSandbox.Syntax
