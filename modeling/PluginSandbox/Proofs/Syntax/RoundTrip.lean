import PluginSandbox.Proofs.Syntax.Operands
import PluginSandbox.Syntax.Printer

/-!
# Printing and parsing operations

A script that consists of one operation is printed as a text that parses to that script. No other
kind of statement takes the text, because an operation starts with no word that starts one, except
for words that are also names; and what comes after a name in an operation starts none.
-/
namespace PluginSandbox.Syntax

open Peg (Place Derives Node)
open Peg.Grammar (outermost inside)
open Peg.Expression (firstOf inOrder)

section

variable {e : Expr} {text rest : List Char} {heads : List Head}

/-- Whether what comes after the name that a text starts with is what comes after names. -/
def GoesOn (text : List Char) : Prop :=
  Head.plain.Fits text → StartsIn afterName (afterBlanks (dropWord text))

/-- A text that starts with no name goes on as it likes. -/
theorem GoesOn.of_heads (starts : StartsIn heads text)
    (shut : (heads.all fun head => !head.mayBeFree) = true) : GoesOn text := by
  intro plain
  obtain ⟨head, member, fits⟩ := starts
  have free := Head.mayBeFree_of_startsName fits plain.1 plain.2
  have none := List.all_eq_true.mp shut head member
  rw [free] at none
  cases none

/-- A printed text goes on in parentheses or not. -/
theorem GoesOn.wrappedIf (wrapped : Bool) (goesOn : GoesOn (e.characters ++ rest)) :
    GoesOn (e.wrappedIf wrapped ++ rest) := by
  cases wrapped with
  | true =>
    have starts : StartsIn [.marks ['(']] (e.wrappedIf true ++ rest) :=
      ⟨_, List.mem_singleton_self _, Head.marks_fits rfl (by decide) (e.characters ++ [')'] ++ rest)⟩
    exact .of_heads starts rfl
  | false => exact goesOn

/-- After a name that an operation starts with comes what comes after names. -/
theorem Expr.IsOperation.goesOn (operation : e.IsOperation) (ends : startsWord rest = false)
    (next : StartsIn afterName (afterBlanks rest)) : GoesOn (e.characters ++ rest) := by
  have spaced (head : Head) (member : head ∈ afterName) {text : List Char} (fits : head.Fits text) :
      StartsIn afterName (afterBlanks (' ' :: text)) := by
    rw [afterBlanks_spaced (head.settled fits (List.all_eq_true.mp afterName_settled head member))]
    exact ⟨head, member, fits⟩
  have suffixed (object : Expr) (suffix : Suffix) {rest : List Char}
      (ih : ∀ {rest : List Char}, startsWord rest = false →
        StartsIn afterName (afterBlanks rest) → GoesOn (object.characters ++ rest)) :
      GoesOn ((suffix.apply object).characters ++ rest) := by
    have starts := startsIn_suffix suffix rest
    rw [characters_suffix, List.append_assoc]
    refine .wrappedIf _ (ih (startsWord_suffix suffix rest) ?_)
    rw [afterBlanks_settled (starts.settled afterName_settled)]
    exact starts
  have connected := List.Subset.trans after_subset.2.1 after_subset.1
  have assigned := List.Subset.trans after_subset.2.2.2.1
    (List.Subset.trans after_subset.2.2.1 connected)
  have closed {text : List Char} (starts : StartsIn closedHeads text) : GoesOn text :=
    .of_heads starts (by decide)
  induction operation generalizing rest with
  | @identifier name named =>
    obtain ⟨_, isWord, _⟩ := isVariable_word named
    intro _
    change StartsIn afterName (afterBlanks (dropWord (name.toList ++ rest)))
    rw [dropWord_append isWord ends]
    exact next
  | this => exact closed (startsIn_word "this" (by decide) (by decide) rfl ends)
  | null => exact closed (startsIn_word "null" (by decide) (by decide) rfl ends)
  | boolean value => exact closed (startsIn_boolean value ends)
  | text value => exact closed (startsIn_text value rest)
  | number small => exact closed (startsIn_number small rest)
  | template pieces parts => exact closed (startsIn_template _ _ rest)
  | array parts => exact closed (startsIn_array _ rest)
  | unary operator part => exact .of_heads (startsIn_unary operator _ rest) (by decide)
  | await part => exact .of_heads (startsIn_await _ rest) (by decide)
  | @update operator isPrefix target writable part ih =>
    cases isPrefix with
    | true => exact .of_heads (startsIn_update operator writable rest) (by decide)
    | false =>
      have starts : StartsIn afterName (operator.spelling.toList ++ rest) :=
        ⟨_, after_subset.1 (mem_changer operator), changer_fits operator rest⟩
      rw [characters_update operator false writable, if_neg Bool.false_ne_true, List.append_assoc]
      refine ih (by cases operator <;> rfl) ?_
      rw [afterBlanks_settled (starts.settled afterName_settled)]
      exact starts
  | @operation operator left right first second firstIH secondIH =>
    rw [characters_apply]
    simp only [List.append_assoc, List.cons_append]
    exact .wrappedIf _ (firstIH rfl (spaced (connector operator)
      (connected (mem_connector operator)) (connector_fits operator _)))
  | conditional first second third firstIH secondIH thirdIH =>
    rw [characters_conditional]
    simp only [List.append_assoc, List.cons_append]
    exact .wrappedIf _ (firstIH rfl (spaced chooser
      (connected (after_subset.2.2.1 List.mem_cons_self)) (Head.marks_fits rfl (by decide) _)))
  | assign operator writable first second firstIH secondIH =>
    rw [characters_assign operator _ writable]
    simp only [List.append_assoc, List.cons_append]
    exact firstIH rfl (spaced (assigner operator) (assigned (mem_assigner operator))
      (assigner_fits operator _))
  | @member object name optional part named ih => exact suffixed object (.member name optional) ih
  | @index object key optional first second firstIH secondIH =>
    exact suffixed object (.index key optional) firstIH
  | @call callee arguments optional first parts firstIH partsIH =>
    exact suffixed callee (.call arguments optional) firstIH

/-- What statements are tried as, in order, before expressions. -/
def statementRules : List Rule :=
  [.blockStatement, .variableStatement, .functionDeclaration, .ifStatement, .forOfStatement,
    .forInStatement, .forStatement, .whileStatement, .switchStatement, .returnStatement,
    .throwStatement, .tryStatement, .breakStatement, .continueStatement, .typeDeclaration,
    .emptyStatement]

/-- No declaration of a type starts with a name that no other name comes after. -/
theorem Rejects.named_type (word : Keyword)
    (next : StartsIn afterName (afterBlanks (dropWord text))) (others : Peg.Expression Rule) :
    Rejects outermost (.once (.seq (.call (.keyword word)) (.seq (.call .identifier) others)))
      text := by
  rcases keyword_cases word text with reads | rejects
  · refine .seq_late reads (.seq ?_ others)
    rw [padded_outermost]
    exact .of_heads next (by decide) rfl rfl
  · exact .seq rejects _

/-- No declaration of a type starts with a name that no other name comes after. -/
theorem Rejects.typeDeclaration (plain : Head.plain.Fits text)
    (next : StartsIn afterName (afterBlanks (dropWord text))) :
    Rejects outermost (.once (.call .typeDeclaration)) text := by
  refine .call (.after_keyword .declare plain ?_ ?_)
  · exact .of_heads next (by decide) rfl rfl
  · exact .choice (.call (.named_type .interface next _)) (.call (.named_type .type next _))

/-- No other statement starts as an operation does. -/
theorem Rejects.other_statement {rule : Rule} (other : rule ∈ statementRules)
    (starts : StartsIn (headsFrom 0) text) (goesOn : GoesOn text) :
    Rejects outermost (.once (.call rule)) text := by
  have most : ∀ rule ∈ statementRules, rule ≠ .functionDeclaration → rule ≠ .typeDeclaration →
      ((headsFrom 0).all fun head => head.isSettled && !head.opens 64 (.call rule)) = true := by
    decide
  have both : ∀ rule ∈ [Rule.functionDeclaration, .typeDeclaration],
      (((headsFrom 0).filter (· ≠ .plain)).all fun head =>
        head.isSettled && !head.opens 64 (.call rule)) = true := by
    decide
  have filled : ∀ rule ∈ statementRules, Peg.Expression.isNullable ranking (.call rule) = false := by
    decide
  obtain ⟨head, member, fits⟩ := starts
  by_cases names : rule = .functionDeclaration ∨ rule = .typeDeclaration
  · by_cases plain : head = .plain
    · subst plain
      rcases names with rfl | rfl
      · exact .call (.function fits (goesOn fits) _)
      · exact .typeDeclaration fits (goesOn fits)
    · have listed : head ∈ (headsFrom 0).filter (· ≠ .plain) :=
        List.mem_filter.mpr ⟨member, decide_eq_true plain⟩
      have shut := both rule (by rcases names with rfl | rfl <;> decide)
      exact .of_heads ⟨head, listed, fits⟩ shut rfl (filled rule other)
  · obtain ⟨noFunction, noType⟩ := not_or.mp names
    exact .of_heads ⟨head, member, fits⟩ (most rule other noFunction noType) rfl (filled rule other)

/-- What a node of a statement is asked to denote. -/
def States (statement : Statement) : Asked :=
  fun child => child.rule.isNoise = false ∧ child.statement? = .ok (some statement)

/-- A node of an expression that ends a statement denotes the statement. -/
theorem states_expression {node : Node Rule} {children : List Child}
    (same : node.rule = .expressionStatement) (meets : Meets children [Denotes .expression e]) :
    States (.expression e) (node, assemble node children) := by
  have parts := filter_noise_all meets (Denotes.shown rfl)
  cases meets with
  | @cons inner _ _ _ denotes none =>
  cases none with
  | nil =>
    obtain ⟨_, place, stop⟩ := node
    cases same
    have value : assemble ⟨.expressionStatement, place, stop⟩ [inner] =
        .ok (.statement (some (.expression e))) := by
      unfold assemble
      rw [parts]
      change (do
        return Part.statement (some (← (do return Statement.expression (← inner.expr))))) = _
      rw [(denotes.stands rfl).expr]
      rfl
    refine ⟨rfl, ?_⟩
    rw [Child.statement?, value]
    rfl

/-- An operation with a semicolon after it is read as a statement. -/
theorem Expr.IsOperation.reads_statement (operation : e.IsOperation) (lexed : Lexed (';' :: rest)) :
    Reads outermost (.once (.call .statement)) (e.characters ++ ';' :: rest) rest
      [States (.expression e)] := by
  obtain ⟨seam, stays⟩ := Seam.closing lexed (show ';' ∈ closingMarks by decide)
  have starts : StartsIn (headsFrom 0) (e.characters ++ ';' :: rest) :=
    (operation.startsIn seam.ends).mono (headsFrom_subset (Nat.zero_le _))
  have goesOn : GoesOn (e.characters ++ ';' :: rest) :=
    operation.goesOn seam.ends (seam.starts.mono (List.Subset.trans closers_subset after_subset.1))
  have inner := operation.isReadByAll.read.reads_expression seam
  have ends : Reads outermost (.once (.maybe (.literal [';'])))
      (padded outermost (afterBlanks (';' :: rest))) rest [] := by
    rw [stays, padded_settled rfl]
    exact .maybe_some (.literal outermost [';'] rest)
  have one : Reads outermost (.once (.call .expressionStatement)) (e.characters ++ ';' :: rest) rest
      [States (.expression e)] :=
    .node nofun rfl (inner.seq ends) fun node children same _ meets => states_expression same meets
  refine .hidden rfl ?_
  change Reads _ (.once (firstOf (statementRules.map .call ++ [.call Rule.expressionStatement]))) _ _ _
  refine .firstOf_split (fun other member => ?_) one
  obtain ⟨rule, listed, rfl⟩ := List.mem_map.mp member
  exact .other_statement listed starts goesOn

/-- The end of a text is read. -/
theorem Reads.endOfText :
    Reads outermost (.once (.call .endOfText)) [] [] [Marks .endOfText] := by
  have body : Reads outermost (.once .atEnd) [] [] [] :=
    fun place here => ⟨place, [], .atEnd here, here, meets_nil⟩
  exact .node nofun rfl body fun node children same _ _ => same

/-- A node of a script with one statement denotes it. -/
theorem assemble_script {statement : Statement} {node : Node Rule} {children : List Child}
    (same : node.rule = .script) (meets : Meets children [States statement, Marks .endOfText]) :
    assemble node children = .ok (.statements [statement]) := by
  cases meets with
  | @cons first _ _ _ states more =>
  cases more with
  | @cons last _ _ _ marks none =>
  cases none with
  | nil =>
    have noise : last.rule.isNoise = true := by
      rw [show last.rule = .endOfText from marks]
      rfl
    have parts : ([first, last].filter fun child => !child.rule.isNoise) = [first] := by
      simp [states.1, noise]
    obtain ⟨_, place, stop⟩ := node
    cases same
    unfold assemble
    rw [parts]
    change (do
      return Part.statements ((← [first].mapM Child.statement?).filterMap id)) = _
    rw [List.mapM_cons, states.2]
    rfl

/-- A text of one line that is read as a statement parses to a script of that statement. -/
theorem parseScript_one {source : String} {statement : Statement}
    (read : Reads outermost (.once (.call .statement)) source.toList ['\n'] [States statement])
    (settled : startsBlank source.toList = false) : parseScript source = .ok [statement] := by
  have none : Reads outermost (.again (.call .statement)) ['\n'] ['\n'] [] := by
    refine .again_none ?_
    rw [padded_outermost, afterBlanks_blank [] rfl]
    exact .at_end rfl rfl
  have ends : Reads outermost (.once (.call .endOfText)) (padded outermost ['\n']) []
      [Marks .endOfText] := by
    rw [padded_outermost, afterBlanks_blank [] rfl]
    exact .endOfText
  have body := (read.many_some none).seq ends
  have here : (grammar.padded outermost (Place.start source)).rest = source.toList := by
    rw [padded_rest]
    exact padded_settled settled
  obtain ⟨stop, trees, derived, leaves, meets⟩ := body _ here
  have whole : Derives grammar outermost (.once (.call .script)) (Place.start source)
      (some (stop, [.node .script (Place.start source) stop.offset trees])) :=
    .callShown (by decide) (.seq (.atStart rfl) derived)
  rw [parseScript, parseTree_eq whole]
  change assemble ⟨.script, Place.start source, stop.offset⟩ (Peg.Tree.foldAll assemble trees)
    >>= _ = _
  rw [assemble_script rfl meets]
  rfl

/-- The expression that an operation starts with is an operation. -/
theorem Expr.IsOperation.leftmost (operation : e.IsOperation) : e.leftmost.IsOperation := by
  induction operation with
  | identifier named => exact .identifier named
  | this => exact .this
  | null => exact .null
  | boolean value => exact .boolean value
  | text value => exact .text value
  | number small => exact .number small
  | template pieces parts => exact .template pieces parts
  | array parts => exact .array parts
  | unary operator part => exact .unary operator part
  | await part => exact .await part
  | update operator isPrefix writable part ih =>
    cases isPrefix with
    | true => exact .update operator true writable part
    | false => exact ih
  | operation operator first second firstIH => cases operator <;> exact firstIH
  | conditional first second third firstIH => exact firstIH
  | assign operator writable first second firstIH => exact firstIH
  | member optional part named ih => exact ih
  | index optional first second firstIH => exact firstIH
  | call optional first parts firstIH => exact firstIH

/-- No operation is printed in parentheses at the beginning of a statement. -/
theorem Expr.IsOperation.needsStatementParens (operation : e.IsOperation) :
    e.needsStatementParens = false := by
  have first := operation.leftmost
  rw [Expr.needsStatementParens]
  generalize e.leftmost = start at first
  cases first with
  | operation operator first second => cases operator <;> rfl
  | _ => rfl

/-- The text of a script that is one operation. -/
theorem toList_renderScript (operation : e.IsOperation) :
    (renderScript [.expression e]).toList = e.characters ++ [';', '\n'] := by
  have whole : renderScript [.expression e] = margin 0 ++ (e.render 0 ++ ";") ++ "\n" ++ "" := by
    rw [renderScript, Statement.renderAll, Statement.renderAll, Statement.render,
      operation.needsStatementParens, if_neg Bool.false_ne_true, line]
  rw [whole]
  simp only [String.toList_append, List.append_assoc]
  rfl

/-- A script that is one operation is printed as a text that parses to it. -/
theorem parseScript_renderScript (operation : e.IsOperation) :
    parseScript (renderScript [.expression e]) = .ok [.expression e] := by
  have lexed : Lexed (';' :: ['\n']) :=
    ⟨[], rfl, .plain rfl (by decide) (by decide) (by decide) (.blank '\n' rfl rfl .done)⟩
  have text := toList_renderScript operation
  refine parseScript_one ?_ ?_
  · rw [text]
    exact operation.reads_statement lexed
  · rw [text]
    exact operation.settled rfl

/-- A negated base, a power and a doubled sign come back as they were: the text is
`(-a) ** b - -c`. -/
theorem parseScript_renderScript_power :
    let power := Expr.binary .exponent (.unary .minus (.identifier "a")) (.identifier "b")
    let whole := Expr.binary .subtract power (.unary .minus (.identifier "c"))
    whole.IsOperation ∧ whole.characters = "(-a) ** b - -c".toList ∧
      parseScript (renderScript [.expression whole]) = .ok [.expression whole] := by
  have power := Expr.IsOperation.operation (.binary .exponent)
    (.unary .minus (.identifier (show isVariable "a" = true by decide)))
    (.identifier (show isVariable "b" = true by decide))
  have whole := Expr.IsOperation.operation (.binary .subtract) power
    (.unary .minus (.identifier (show isVariable "c" = true by decide)))
  exact ⟨whole, by decide +kernel, parseScript_renderScript whole⟩

end

end PluginSandbox.Syntax
