import PluginSandbox.Proofs.Syntax.Locality
import PluginSandbox.Proofs.Syntax.Operands

/-!
# Printed texts and templates

A text that is printed between quotes is one token, and undoing the escapes of its characters gives
the text back. A template is printed piece by piece with the texts of its expressions between the
pieces. Whatever those texts are, as long as each of them is an expression by itself and does not
end in a comment that hides the closing brace, the template is read as one node again, and its
pieces are what they were.
-/
namespace PluginSandbox.Syntax

open Peg (Place Derives Node)
open Peg.Grammar (outermost inside)

/-- A text is an expression by itself: after the blanks that it starts with, it is read whole. -/
def IsExpressionText (text : String) : Prop :=
  ∃ stop trees, Derives grammar outermost (.once (.call .expression))
    (grammar.skipBlanks (Place.start text)) (some (stop, trees)) ∧ stop.rest = []

/-- A text may stand in a template: it is read whole as an expression in front of the brace that
closes what it stands in. -/
def IsSubstituted (text : String) : Prop :=
  ∃ stop trees, Derives grammar outermost (.once (.call .expression))
    (grammar.skipBlanks (Place.start (text ++ "\x7d"))) (some (stop, trees)) ∧
      stop.rest = ['\x7d']

/-- What is asked of the node of an expression in a template with this text. -/
def Substitutes (text : String) : Asked := fun child =>
  child.rule = .templateSubstitution ∧ child.text = "$\x7b" ++ text ++ "\x7d"

/-- The nodes of the expressions among the nodes between the ticks of a template. -/
def substitutionsOf (children : List Child) : List Child :=
  children.filter fun child => child.rule = .templateSubstitution

/-- What is asked of the node of a template: its text, the nodes of its pieces and expressions, and
that it denotes the given pieces with whatever its expressions denote between them. -/
def IsTemplateOf (quasis texts : List String) : Asked := fun child =>
  child.rule = .templateLiteral ∧ child.text = "`" ++ templateBody quasis texts ++ "`" ∧
    ∃ parts, Meets parts (partsAsked quasis (texts.map Substitutes)) ∧
      child.2 = (fun values => .expression (.template quasis values) (spanOf child.1)) <$>
        (substitutionsOf parts).mapM Child.expr

section

variable {text : String} {quasis texts : List String} {rest : List Char}

/-- A text may stand in a template just if it is an expression by itself and ends in no comment that
would take the closing brace along. -/
theorem isSubstituted_iff : IsSubstituted text ↔ IsExpressionText text ∧ Nested [] text.toList := by
  have start : (Place.start text).rest = text.toList ++ [] := (List.append_nil _).symm
  have closed : (Place.start (text ++ "\x7d")).rest = text.toList ++ ['\x7d'] :=
    String.toList_append
  constructor
  · rintro ⟨stop, trees, derived, leaves⟩
    have nested := nested_of_expression rfl derived closed leaves
    refine ⟨?_, nested⟩
    exact nested.expression_alike (.inr rfl) (.inl rfl) derived closed leaves
      (by rw [skipBlanks_rest, start])
  · rintro ⟨⟨stop, trees, derived, leaves⟩, nested⟩
    exact nested.expression_alike (.inl rfl) (.inr rfl) derived start leaves
      (by rw [skipBlanks_rest, closed])

/-- An expression is read in a template whatever follows its closing brace. -/
theorem IsSubstituted.reads (read : IsSubstituted text) (rest : List Char) :
    Reads outermost (.once (.call .expression)) (padded outermost (text.toList ++ '\x7d' :: rest))
      ('\x7d' :: rest) [fun child => child.rule = .expression] := by
  obtain ⟨⟨stop, trees, derived, leaves⟩, nested⟩ := isSubstituted_iff.mp read
  intro place here
  obtain ⟨stop, others, twin, ends⟩ := nested.expression_alike (.inl rfl) (.inr rfl) derived
    (List.append_nil _).symm leaves here
  refine ⟨stop, others, twin, ends, ?_⟩
  cases twin with
  | callHidden hidden => cases hidden
  | callShown => exact .cons rfl .nil

/-- An expression in a template is read with its text. -/
theorem IsSubstituted.reads_substitution (read : IsSubstituted text) (rest : List Char) :
    Reads inTicks (.once templatePart) ('$' :: '\x7b' :: (text.toList ++ '\x7d' :: rest)) rest
      [Substitutes text] := by
  have closing : Reads outermost (.once (.literal ['\x7d'])) (padded outermost ('\x7d' :: rest))
      rest [] := by
    rw [padded_settled rfl]
    exact .literal outermost ['\x7d'] rest
  have opening := Reads.literal outermost ['$', '\x7b'] (text.toList ++ '\x7d' :: rest)
  have body : Reads (inside Rule.templateSubstitution.kind inTicks)
      (.once Rule.templateSubstitution.body)
      ('$' :: '\x7b' :: (text.toList ++ '\x7d' :: rest)) rest
      [fun child => child.rule = .expression] := by
    have whole := opening.seq ((read.reads rest).seq closing)
    rw [List.append_nil] at whole
    exact whole
  have one : Reads inTicks (.once (.call .templateSubstitution))
      ('$' :: '\x7b' :: (text.toList ++ '\x7d' :: rest)) rest [Substitutes text] := by
    refine .node nofun rfl body fun node children same spelled _ => ⟨same, ?_⟩
    have characters : node.characters = '$' :: '\x7b' :: (text.toList ++ ['\x7d']) := by
      refine List.append_cancel_right (spelled.trans ?_)
      simp
    change String.ofList node.characters = _
    rw [characters]
    simp [← String.toList_inj]
  exact one.choice_second (.templateChars_ends rfl)

/-- The characters between the ticks of a template. -/
theorem toList_templateBody (piece : String) (quasis : List String) :
    (templateBody (piece :: quasis) []).toList =
        escapeTemplateChars piece.toList ++ (templateBody quasis []).toList ∧
      ∀ text texts, (templateBody (piece :: quasis) (text :: texts)).toList =
        escapeTemplateChars piece.toList ++
          '$' :: '\x7b' :: (text.toList ++ '\x7d' :: (templateBody quasis texts).toList) := by
  refine ⟨?_, fun text texts => ?_⟩
  · rw [templateBody, String.toList_append, escapeTemplate, String.toList_ofList]
  · simp [templateBody, escapeTemplate]

/-- What stands between the ticks of a template is read. -/
theorem repeats_templateBody (pieces : quasis.length = texts.length + 1)
    (all : ∀ text ∈ texts, IsSubstituted text) :
    Repeats inTicks templatePart ((templateBody quasis texts).toList ++ '\x60' :: rest)
      ('\x60' :: rest) (partsAsked quasis (texts.map Substitutes)) := by
  induction quasis generalizing texts with
  | nil => cases pieces
  | cons piece quasis ih =>
    cases texts with
    | nil =>
      cases quasis with
      | cons => cases pieces
      | nil =>
        have last : (templateBody [] []).toList = [] := rfl
        rw [(toList_templateBody piece []).1, last, List.append_nil]
        exact repeats_piece piece rfl
    | cons text texts =>
      have more := ih (Nat.succ.inj pieces) fun other member => all other (.tail text member)
      have one := (all text List.mem_cons_self).reads_substitution
        ((templateBody quasis texts).toList ++ '\x60' :: rest)
      rw [(toList_templateBody piece quasis).2]
      simp only [List.append_assoc, List.cons_append]
      exact (repeats_piece piece rfl).append (.more one more)

/-- The nodes between the ticks of a template give its pieces back, with whatever the nodes of its
expressions denote. -/
theorem assembleTemplate_parts {nodes : List Child} (pieces : quasis.length = texts.length + 1)
    (meets : Meets nodes (partsAsked quasis (texts.map Substitutes))) :
    assembleTemplate nodes = Prod.mk quasis <$> (substitutionsOf nodes).mapM Child.expr := by
  -- The nodes of a piece are no expressions.
  have skips {piece : String} {nodes : List Child} (meets : Meets nodes (pieceAsked piece))
      (others : List Child) : substitutionsOf (nodes ++ others) = substitutionsOf others := by
    rw [pieceAsked] at meets
    split at meets
    case isTrue =>
      cases meets
      rfl
    case isFalse =>
      cases meets with
      | cons asks none =>
        cases none
        exact List.filter_cons_of_neg (by rw [asks.1]; decide)
  induction quasis generalizing texts nodes with
  | nil => cases pieces
  | cons piece quasis ih =>
    cases texts with
    | nil =>
      cases quasis with
      | cons => cases pieces
      | nil =>
        have none : assembleTemplate [] = Prod.mk [""] <$> .ok [] := rfl
        have whole := assembleTemplate_piece meets none
        have alone := skips meets []
        rw [List.append_nil, String.append_empty] at whole
        rw [List.append_nil] at alone
        rw [whole, alone]
        rfl
    | cons text texts =>
      obtain ⟨nodes, more, first, second, rfl⟩ := Meets.split meets
      cases second with
      | @cons child _ others _ asks later =>
        have rest := ih (Nat.succ.inj pieces) later
        have other : child.rule ≠ .templateChars := by
          rw [asks.1]
          decide
        have here : substitutionsOf (child :: others) = child :: substitutionsOf others :=
          List.filter_cons_of_pos (by rw [asks.1]; rfl)
        have whole : assembleTemplate (child :: others) =
            Prod.mk ("" :: quasis) <$> (substitutionsOf (child :: others)).mapM Child.expr := by
          rw [assembleTemplate, if_neg other, rest, here, List.mapM_cons]
          cases child.expr with
          | error problem => rfl
          | ok value =>
            cases (substitutionsOf others).mapM Child.expr <;> rfl
        have all := assembleTemplate_piece first whole
        rw [String.append_empty] at all
        rw [all, skips first]

/-- A node of a template denotes the pieces that were printed, with whatever its expressions denote
between them. -/
theorem assemble_template {node : Node Rule} {children : List Child}
    (pieces : quasis.length = texts.length + 1) (same : node.rule = .templateLiteral)
    (meets : Meets children (partsAsked quasis (texts.map Substitutes))) :
    assemble node children =
      (fun values => .expression (.template quasis values) (spanOf node)) <$>
        (substitutionsOf children).mapM Child.expr := by
  have shown : ∀ ask ∈ texts.map Substitutes, Shown ask := by
    intro ask member
    obtain ⟨text, _, rfl⟩ := List.mem_map.mp member
    intro child asks
    rw [asks.1]
    rfl
  have parts := filter_noise meets (partsAsked_shown quasis shown)
  obtain ⟨_, place, stop⟩ := node
  cases same
  unfold assemble
  rw [parts]
  change (do
    let found ← (do
      let read ← assembleTemplate children
      return (Expr.template read.1 read.2, spanOf _))
    return Part.expression found.1 found.2) = _
  rw [assembleTemplate_parts pieces meets]
  cases (substitutionsOf children).mapM Child.expr <;> rfl

/-- A template is read as one node whose pieces are those that were printed. -/
theorem Reads.templateLiteral (pieces : quasis.length = texts.length + 1)
    (all : ∀ text ∈ texts, IsSubstituted text) (rest : List Char) :
    Reads outermost (.once (.call .templateLiteral))
      (("`" ++ templateBody quasis texts ++ "`").toList ++ rest) rest
      [IsTemplateOf quasis texts] := by
  have whole : ("`" ++ templateBody quasis texts ++ "`").toList ++ rest =
      '\x60' :: ((templateBody quasis texts).toList ++ '\x60' :: rest) := by
    simp
  have compact : inTicks.mode ≠ .spaced := nofun
  have none : Rejects inTicks (.once templatePart) ('\x60' :: rest) :=
    .choice (.templateChars_ends rfl) (.call (.seq (.literal_head _ _ rest (by decide)) _))
  have inner := Reads.many_compact compact ((repeats_templateBody pieces all).reads_again none)
  have closing := Reads.literal inTicks ['\x60'] rest
  have opening := Reads.literal inTicks ['\x60']
    ((templateBody quasis texts).toList ++ '\x60' :: rest)
  have body := opening.seq (inner.seq closing)
  rw [List.append_nil] at body
  rw [whole]
  refine .node nofun rfl body fun node children same spelled meets =>
    ⟨same, ?_, children, meets, assemble_template pieces same meets⟩
  have characters : node.characters = ("`" ++ templateBody quasis texts ++ "`").toList := by
    refine List.append_cancel_right (spelled.trans ?_)
    simp
  change String.ofList node.characters = _
  rw [characters, String.ofList_toList]

end

/-- The text of a printed operation is an expression by itself. -/
theorem Expr.IsOperation.isSubstituted {e : Expr} (operation : e.IsOperation) :
    IsSubstituted (e.render 0) := by
  have lexed : Lexed ['\x7d'] := ⟨[.hole], rfl, .mark '\x7d' rfl rfl .done⟩
  obtain ⟨seam, stays⟩ := Seam.closing lexed (show '\x7d' ∈ closingMarks by decide)
  have reads := operation.isReadByAll.read.reads_expression seam
  rw [stays] at reads
  have start : (Place.start (e.render 0 ++ "\x7d")).rest = e.characters ++ ['\x7d'] :=
    String.toList_append
  have settled : startsBlank (Place.start (e.render 0 ++ "\x7d")).rest = false := by
    rw [start]
    exact operation.settled seam.ends
  obtain ⟨stop, trees, derived, leaves, _⟩ := reads (Place.start (e.render 0 ++ "\x7d")) start
  refine ⟨stop, trees, ?_, leaves⟩
  rw [skipBlanks_settled _ settled]
  exact derived

/-- Text survives printing. A text between quotes is read as one string from its first character to
its last, and undoing the escapes between the quotes gives the text back. A template with any texts
for its expressions that are expressions up to the closing brace is read as one template from its
first character to its last, with those texts as its expressions, and its pieces are what they
were. -/
theorem printed_texts_read_back :
    (∀ (value : String) (rest : List Char),
      (∃ raw, (Text.Quoted.encode value).toList = '"' :: raw ++ ['"'] ∧
        unescape raw = value.toList) ∧
      Reads outermost (.once (.call .string)) ((Text.Quoted.encode value).toList ++ rest) rest
        [Quotes value]) ∧
    ∀ quasis texts : List String, quasis.length = texts.length + 1 →
      (∀ text ∈ texts, IsSubstituted text) → ∀ rest : List Char,
        Reads outermost (.once (.call .templateLiteral))
          (("`" ++ templateBody quasis texts ++ "`").toList ++ rest) rest
          [IsTemplateOf quasis texts] :=
  ⟨fun value rest => ⟨⟨_, toList_encode value, unescape_quotedBody value.toList⟩,
    .string value rest⟩, fun _ _ pieces all rest => .templateLiteral pieces all rest⟩

/-- A dollar sign before an expression, and the start of one, a tick and a backslash after it, come
back as they were. -/
theorem printed_texts_read_back_dollar :
    ["$", "$\x7b\x60\\"].length = ["(-a) ** b"].length + 1 ∧
      (∀ text ∈ ["(-a) ** b"], IsSubstituted text) ∧
      "`" ++ templateBody ["$", "$\x7b\x60\\"] ["(-a) ** b"] ++ "`" =
        "\x60$$\x7b(-a) ** b\x7d\\$\x7b\\\x60\\\\\x60" ∧
      Reads outermost (.once (.call .templateLiteral))
        (("`" ++ templateBody ["$", "$\x7b\x60\\"] ["(-a) ** b"] ++ "`").toList ++ [';']) [';']
        [IsTemplateOf ["$", "$\x7b\x60\\"] ["(-a) ** b"]] := by
  have power := Expr.IsOperation.operation (.binary .exponent)
    (.unary .minus (.identifier (show isVariable "a" = true by decide)))
    (.identifier (show isVariable "b" = true by decide))
  have all : ∀ text ∈ ["(-a) ** b"], IsSubstituted text := by
    intro text member
    have printed : Expr.render 0 (.binary .exponent (.unary .minus (.identifier "a"))
        (.identifier "b")) = "(-a) ** b" := by decide +kernel
    rw [List.mem_singleton.mp member, ← printed]
    exact power.isSubstituted
  exact ⟨rfl, all, by decide, printed_texts_read_back.2 _ _ rfl all _⟩

/-- A text that is parsed as a rule, from its first character to its last, is read whole. -/
theorem derives_of_whole (rule : Rule) {text : String} (shown : grammar.kind rule ≠ .hidden)
    (whole : (parseTree rule text).toOption.any (·.root.characters = text.toList) = true) :
    ∃ stop trees, Derives grammar outermost (.once (.call rule)) (Place.start text)
      (some (stop, trees)) ∧ stop.rest = [] := by
  cases parsed : parseTree rule text with
  | error problem =>
    rw [parsed] at whole
    cases whole
  | ok tree =>
    rw [parsed] at whole
    obtain ⟨stop, children, rfl, derived⟩ := derives_of_parseTree shown parsed
    obtain ⟨taken, takes⟩ := derived.takes ranking_fits.forward
    have same : taken = text.toList :=
      (characters_of_takes rule takes).symm.trans (of_decide_eq_true whole)
    refine ⟨stop, _, .callShown shown derived, ?_⟩
    have rest := takes.rest
    rw [same] at rest
    exact List.append_right_eq_self.mp rest.symm

/-- A comment that an expression ends in hides the closing brace: the text is an expression by
itself, but no template is read where it stands in one. -/
theorem comment_hides_brace :
    ["", ""].length = ["a//c"].length + 1 ∧ (∀ text ∈ ["a//c"], IsExpressionText text) ∧
      "`" ++ templateBody ["", ""] ["a//c"] ++ "`" = "\x60$\x7ba//c\x7d\x60" ∧
      ¬ ∃ stop trees, Derives grammar outermost (.once (.call .templateLiteral))
        (Place.start ("`" ++ templateBody ["", ""] ["a//c"] ++ "`")) (some (stop, trees)) := by
  refine ⟨rfl, ?_, by decide, ?_⟩
  · intro text member
    rw [List.mem_singleton.mp member]
    exact derives_of_whole .expression nofun (by decide +kernel)
  · rintro ⟨stop, trees, derived⟩
    have refused : (parseTree .templateLiteral
        ("`" ++ templateBody ["", ""] ["a//c"] ++ "`")).isOk = false := by decide +kernel
    have shown : grammar.kind .templateLiteral ≠ .hidden := nofun
    obtain ⟨children, rfl, _⟩ := derived.node_of_call shown (makesNodes_outermost _)
    rw [parseTree_eq derived] at refused
    cases refused

end PluginSandbox.Syntax
