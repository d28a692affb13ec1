import PluginSandbox.Proofs.Syntax.Meanings

/-!
# What chains of nodes denote

Prefix operators before an operand, accesses and calls after an object, operands with operators
between them, items of a list and pieces of a template: each is a chain of nodes that is folded
into one expression.
-/
namespace PluginSandbox.Syntax

open Peg (Node)

/-- An operation before its operand. -/
inductive PrefixOperation where
  /-- An operator. -/
  | unary (operator : UnaryOperator)
  /-- A change by one. -/
  | update (operator : UpdateOperator)
  /-- A wait. -/
  | await

namespace PrefixOperation

/-- The rule that reads the operator. -/
def rule : PrefixOperation → Rule
  | .unary .minus => .negate
  | .unary .plus => .unaryPlus
  | .unary .logicalNot => .logicalNot
  | .unary .bitwiseNot => .bitwiseNot
  | .unary .typeOf => .keyword .typeof
  | .unary .void => .keyword .void
  | .unary .delete => .keyword .delete
  | .update .increment => .preIncrement
  | .update .decrement => .preDecrement
  | .await => .keyword .await

/-- The operation on an operand. -/
def apply : PrefixOperation → Expr → Expr
  | .unary operator, operand => .unary operator operand
  | .update operator, operand => .update operator true operand
  | .await, operand => .await operand

/-- Whether the operation may be applied to an operand. -/
def Allows : PrefixOperation → Expr → Prop
  | .update _, operand => operand.isWritable = true
  | .unary _, _ | .await, _ => True

end PrefixOperation

/-- Prefix operations before an operand form an expression, the first one the outermost. -/
inductive Prefixed : List PrefixOperation → Expr → Expr → Prop where
  /-- The operand alone. -/
  | operand (e : Expr) : Prefixed [] e e
  /-- One more operation. -/
  | operation {operations base e} (operation : PrefixOperation) (allows : operation.Allows e)
      (inner : Prefixed operations base e) :
    Prefixed (operation :: operations) base (operation.apply e)

namespace Suffix

/-- The rule that reads the access or call. -/
def rule : Suffix → Rule
  | .member _ optional => if optional then .optionalMember else .memberDot
  | .index _ optional => if optional then .optionalBracket else .memberBracket
  | .call _ optional => if optional then .optionalCall else .arguments

/-- What the node of an access or a call denotes. -/
def Denoted : Suffix → Part → Prop
  | .member name _, part => part = .text name
  | .index key _, part => ∃ span, part = .expression key span
  | .call arguments _, part => part = .elements arguments

/-- What a node of an access or a call is asked to denote. -/
def Asks (suffix : Suffix) : Asked :=
  fun child => child.rule = suffix.rule ∧ ∃ part, child.2 = .ok part ∧ suffix.Denoted part

end Suffix

/-- What the nodes of operators and operands are asked for. -/
def chainAsked : List (InfixOperator × Expr) → List Asked
  | [] => []
  | (operator, operand) :: chain =>
    Marks (.operator operator) :: Denotes .unaryExpression operand :: chainAsked chain

section

variable {node : Node Rule} {children : List Child} {e base : Expr}

/-- A prefix operator is applied to the operand after it. -/
theorem applyPrefix_eq {operation : PrefixOperation} {child : Child}
    (marks : Marks operation.rule child) (allows : operation.Allows e) :
    applyPrefix child e = .ok (operation.apply e) := by
  have same : child.rule = operation.rule := marks
  rw [applyPrefix, same]
  cases operation with
  | unary operator => cases operator <;> rfl
  | update operator =>
    have writable : e.isWritable = true := allows
    cases operator <;> exact if_pos writable
  | await => rfl

/-- The node of a prefix operator matters. -/
theorem PrefixOperation.shown (operation : PrefixOperation) : Shown (Marks operation.rule) := by
  refine Marks.shown ?_
  rcases operation with operator | operator | _
  · cases operator <;> rfl
  · cases operator <;> rfl
  · rfl

/-- The operation of one more operator before an operand. -/
def prefixStep (operand : Expr × Span) (child : Child) : Except Problem (Expr × Span) := do
  return (← applyPrefix child operand.1, ⟨child.1.start, operand.2.stop⟩)

/-- Prefix operators are applied from the innermost one on. -/
theorem foldlM_prefixStep {operations : List PrefixOperation} {nodes : List Child}
    (prefixed : Prefixed operations base e)
    (meets : Meets nodes (operations.map fun operation => Marks operation.rule)) (span : Span) :
    ∃ whole, nodes.reverse.foldlM prefixStep (base, span) = .ok (e, whole) := by
  induction prefixed generalizing nodes with
  | operand e =>
    cases meets
    exact ⟨span, rfl⟩
  | @operation operations base inner operation allows _ ih =>
    cases meets with
    | @cons first _ others _ marks more =>
      obtain ⟨whole, value⟩ := ih more
      have last : prefixStep (inner, whole) first =
          .ok (operation.apply inner, ⟨first.1.start, whole.stop⟩) := by
        rw [prefixStep, applyPrefix_eq marks allows]
        rfl
      refine ⟨⟨first.1.start, whole.stop⟩, ?_⟩
      rw [List.reverse_cons, List.foldlM_append, value]
      change [first].foldlM prefixStep (inner, whole) = _
      rw [List.foldlM_cons, last]
      rfl

/-- Nodes that are as asked of two parts fall into two parts. -/
theorem Meets.split {asked others : List Asked} (meets : Meets children (asked ++ others)) :
    ∃ nodes more, Meets nodes asked ∧ Meets more others ∧ children = nodes ++ more :=
  ⟨_, _, List.forall₂_take_append children asked others meets,
    List.forall₂_drop_append children asked others meets, (List.take_append_drop _ _).symm⟩

/-- A node of prefix operators before an operand denotes the whole operation. -/
theorem denotes_prefixed {operations : List PrefixOperation}
    (prefixed : Prefixed operations base e) (same : node.rule = .unaryExpression)
    (meets : Meets children ((operations.map fun operation => Marks operation.rule) ++
      [Denotes .postfixExpression base])) :
    Denotes .unaryExpression e (node, assemble node children) := by
  have parts := filter_noise meets fun ask member => by
    rcases List.mem_append.mp member with marks | operand
    · obtain ⟨operation, _, rfl⟩ := List.mem_map.mp marks
      exact operation.shown
    · rw [List.mem_singleton.mp operand]
      exact Denotes.shown rfl
  obtain ⟨nodes, last, first, second, rfl⟩ := meets.split
  cases second with
  | @cons operand _ _ _ denotes none =>
  cases none with
  | nil =>
    obtain ⟨_, span, value⟩ := denotes.stands rfl
    obtain ⟨whole, folded⟩ := foldlM_prefixStep prefixed first span
    obtain ⟨_, place, stop⟩ := node
    cases same
    refine ⟨rfl, whole, ?_⟩
    unfold assemble
    rw [parts]
    dsimp only
    unfold assembleExpression
    dsimp only
    rw [List.reverse_append, List.reverse_singleton, List.singleton_append]
    dsimp only
    rw [value]
    change (do
      let found ← nodes.reverse.foldlM prefixStep (base, span)
      return Part.expression found.1 found.2) = _
    rw [folded]
    rfl

/-- The access or call of one more node after an object. -/
def suffixStep (object : Expr × Span) (child : Child) : Except Problem (Expr × Span) := do
  return (← applySuffix object.1 child, ⟨object.2.start, child.1.stop⟩)

/-- An access or a call is applied to the object before it. -/
theorem applySuffix_eq {suffix : Suffix} {child : Child} (asks : suffix.Asks child) :
    applySuffix base child = .ok (suffix.apply base) := by
  obtain ⟨same, part, value, denoted⟩ := asks
  cases suffix with
  | member name optional =>
    cases denoted
    have text : child.textValue = .ok name := by
      rw [Child.textValue, value]
      rfl
    rw [applySuffix, same, text]
    cases optional <;> rfl
  | index key optional =>
    obtain ⟨span, rfl⟩ := denoted
    have inner : child.expr = .ok key := by
      rw [Child.expr, Child.spannedExpr, value]
      rfl
    rw [applySuffix, same, inner]
    cases optional <;> rfl
  | call arguments optional =>
    cases denoted
    have items : child.elements = .ok arguments := by
      rw [Child.elements, value]
      rfl
    rw [applySuffix, same, items]
    cases optional <;> rfl

/-- The node of an access or a call matters. -/
theorem Suffix.shown (suffix : Suffix) : Shown suffix.Asks := by
  intro child asks
  rw [asks.1]
  rcases suffix with ⟨_, optional⟩ | ⟨_, optional⟩ | ⟨_, optional⟩ <;> cases optional <;> rfl

/-- Accesses and calls are applied one after the other. -/
theorem foldlM_suffixStep {suffixes : List Suffix} {nodes : List Child} (base : Expr)
    (meets : Meets nodes (suffixes.map Suffix.Asks)) (span : Span) :
    ∃ whole, nodes.foldlM suffixStep (base, span) =
      .ok (suffixes.foldl (fun object suffix => suffix.apply object) base, whole) := by
  induction suffixes generalizing nodes base span with
  | nil =>
    cases meets
    exact ⟨span, rfl⟩
  | cons suffix suffixes ih =>
    cases meets with
    | @cons first _ others _ asks more =>
      obtain ⟨whole, value⟩ := ih (suffix.apply base) more ⟨span.start, first.1.stop⟩
      have one : suffixStep (base, span) first =
          .ok (suffix.apply base, ⟨span.start, first.1.stop⟩) := by
        rw [suffixStep, applySuffix_eq asks]
        rfl
      refine ⟨whole, ?_⟩
      rw [List.foldlM_cons, one]
      exact value

/-- A node of accesses and calls after an object denotes the last of them. -/
theorem denotes_suffixed {suffixes : List Suffix} (same : node.rule = .leftHandSideExpression)
    (meets : Meets children (Stands base :: suffixes.map Suffix.Asks)) :
    Denotes .leftHandSideExpression
      (suffixes.foldl (fun object suffix => suffix.apply object) base)
      (node, assemble node children) := by
  have parts := filter_noise meets fun ask member => by
    rcases List.mem_cons.mp member with rfl | asks
    · exact fun child stands => stands.1
    · obtain ⟨suffix, _, rfl⟩ := List.mem_map.mp asks
      exact suffix.shown
  cases meets with
  | @cons object _ nodes _ stands more =>
    obtain ⟨_, span, value⟩ := stands
    obtain ⟨whole, folded⟩ := foldlM_suffixStep base more span
    obtain ⟨_, place, stop⟩ := node
    cases same
    refine ⟨rfl, whole, ?_⟩
    unfold assemble
    rw [parts]
    change (do
      let found ← (do nodes.foldlM suffixStep (← object.spannedExpr))
      return Part.expression found.1 found.2) = _
    rw [value]
    change (do
      let found ← nodes.foldlM suffixStep (base, span)
      return Part.expression found.1 found.2) = _
    rw [folded]
    rfl

/-- The operator that a node stands for, if it stands for one. -/
def operatorOf (child : Child) : Option InfixOperator :=
  match child.rule with
  | .operator op => some op
  | _ => none

/-- Whether a node stands for an operand. -/
def isOperand (child : Child) : Bool := child.rule = .unaryExpression

/-- An operation between two operands and the part of the text that it spans. -/
def spannedApply (operator : InfixOperator) (left right : Expr × Span) : Expr × Span :=
  (match operator with
    | .binary op => .binary op left.1 right.1
    | .logical op => .logical op left.1 right.1,
    ⟨left.2.start, right.2.stop⟩)

/-- The operators and operands of a chain of nodes. -/
theorem operands_of_meets {chain : List (InfixOperator × Expr)} {nodes : List Child}
    (meets : Meets nodes (chainAsked chain)) :
    nodes.filterMap operatorOf = chain.map (·.1) ∧
      ∃ operands : List (Expr × Span),
        (nodes.filter isOperand).mapM Child.spannedExpr = .ok operands ∧
          operands.map (·.1) = chain.map (·.2) := by
  induction chain generalizing nodes with
  | nil =>
    cases meets
    exact ⟨rfl, [], rfl, rfl⟩
  | cons next chain ih =>
    obtain ⟨operator, operand⟩ := next
    cases meets with
    | @cons first _ _ _ marks more =>
    cases more with
    | @cons second _ nodes _ denotes more =>
      obtain ⟨operators, operands, found, firsts⟩ := ih more
      have mark : first.rule = .operator operator := marks
      obtain ⟨_, span, value⟩ := denotes.stands rfl
      have other : ¬ isOperand first = true := by
        rw [isOperand, mark]
        exact Bool.false_ne_true
      have kept : isOperand second = true := decide_eq_true denotes.1
      have none : operatorOf second = none := by
        rw [operatorOf, denotes.1]
      refine ⟨?_, (operand, span) :: operands, ?_, ?_⟩
      · rw [List.filterMap_cons, operatorOf, mark, List.filterMap_cons, none, operators]
        rfl
      · rw [List.filter_cons_of_neg other, List.filter_cons_of_pos kept, List.mapM_cons, value,
          found]
        rfl
      · rw [List.map_cons, List.map_cons, firsts]

/-- The nodes of two chains are those of the whole chain. -/
theorem chainAsked_append (chain others : List (InfixOperator × Expr)) :
    chainAsked (chain ++ others) = chainAsked chain ++ chainAsked others := by
  induction chain with
  | nil => rfl
  | cons next chain ih => rw [List.cons_append, chainAsked, ih]; rfl

/-- The nodes of a chain matter. -/
theorem chainAsked_shown (chain : List (InfixOperator × Expr)) :
    ∀ ask ∈ chainAsked chain, Shown ask := by
  induction chain with
  | nil => exact fun ask member => nomatch member
  | cons next chain ih =>
    intro ask member
    rcases List.mem_cons.mp member with rfl | member
    · exact Marks.shown rfl
    · rcases List.mem_cons.mp member with rfl | member
      · exact Denotes.shown rfl
      · exact ih ask member

/-- A node of operands with operators between them denotes the grouped operation. -/
theorem denotes_chain {first whole : Expr} {chain : List (InfixOperator × Expr)}
    (groups : group InfixOperator.apply first chain = whole) (same : node.rule = .binaryExpression)
    (meets : Meets children (Denotes .unaryExpression first :: chainAsked chain)) :
    Denotes .binaryExpression whole (node, assemble node children) := by
  have parts := filter_noise meets fun ask member => by
    rcases List.mem_cons.mp member with rfl | member
    · exact Denotes.shown rfl
    · exact chainAsked_shown chain ask member
  cases meets with
  | @cons operand _ nodes _ denotes more =>
    obtain ⟨operators, operands, found, firsts⟩ := operands_of_meets more
    obtain ⟨_, span, value⟩ := denotes.stands rfl
    have keeps (operator : InfixOperator) (left right : Expr × Span) :
        (spannedApply operator left right).1 = operator.apply left.1 right.1 := by
      cases operator <;> rfl
    have grouped := @group_map _ _ spannedApply InfixOperator.apply Prod.fst keeps (first, span)
      ((chain.map (·.1)).zip operands)
    have zipped : ((chain.map (·.1)).zip operands).map (fun next => (next.1, next.2.1)) = chain :=
      calc ((chain.map (·.1)).zip operands).map (fun next => (next.1, next.2.1))
          = (chain.map (·.1)).zip (operands.map (·.1)) := List.zip_map_right.symm
        _ = (chain.map (·.1)).zip (chain.map (·.2)) := by rw [firsts]
        _ = chain := (List.zip_of_prod rfl rfl).symm
    rw [zipped, groups] at grouped
    obtain ⟨_, place, stop⟩ := node
    cases same
    refine ⟨rfl, (group spannedApply (first, span) ((chain.map (·.1)).zip operands)).2, ?_⟩
    unfold assemble
    rw [parts]
    change (do
      let found ← (do
        let first ← operand.spannedExpr
        let operands ← (nodes.filter isOperand).mapM Child.spannedExpr
        return group spannedApply first ((nodes.filterMap operatorOf).zip operands))
      return Part.expression found.1 found.2) = _
    rw [value, found, operators, ← grouped]
    rfl

/-- The items that nodes of a list denote. -/
theorem mapM_elements {elements : List Element} {nodes : List Child}
    (meets : Meets nodes (elements.map Lists)) :
    nodes.mapM Child.elements = .ok (elements.map fun element => [element]) := by
  induction elements generalizing nodes with
  | nil =>
    cases meets
    rfl
  | cons element elements ih =>
    cases meets with
    | @cons first _ nodes _ lists more =>
      rw [List.mapM_cons, lists.2, ih more]
      rfl

/-- The nodes of a list matter. -/
theorem lists_shown (elements : List Element) : ∀ ask ∈ elements.map Lists, Shown ask := by
  intro ask member
  obtain ⟨element, _, rfl⟩ := List.mem_map.mp member
  exact fun child lists => lists.1

/-- Items one by one are the items. -/
theorem flatten_singletons (elements : List Element) :
    (elements.map fun element => [element]).flatten = elements := by
  induction elements with
  | nil => rfl
  | cons element elements ih => rw [List.map_cons, List.flatten_cons, ih]; rfl

/-- A node of arguments denotes them. -/
theorem denotes_arguments {arguments : List Element} (same : node.rule = .arguments)
    (meets : Meets children (arguments.map Lists)) :
    (Suffix.call arguments false).Asks (node, assemble node children) := by
  have parts := filter_noise meets (lists_shown arguments)
  obtain ⟨_, place, stop⟩ := node
  cases same
  refine ⟨rfl, _, ?_, rfl⟩
  unfold assemble
  rw [parts]
  change (do return Part.elements (← children.mapM Child.elements).flatten) = _
  rw [mapM_elements meets]
  change Except.ok (Part.elements (arguments.map fun element => [element]).flatten) = _
  rw [flatten_singletons]

/-- The node of a name after a point is asked to denote an access to the property. -/
theorem denotes_member {name : String} {optional : Bool} (same : node.rule = (Suffix.member name optional).rule)
    (meets : Meets children [SpellsName name]) :
    (Suffix.member name optional).Asks (node, assemble node children) := by
  have parts := filter_noise_all meets (show Shown _ from fun child asks => by rw [asks.1]; rfl)
  cases meets with
  | @cons named _ _ _ asks none =>
  cases none with
  | nil =>
    obtain ⟨_, place, stop⟩ := node
    refine ⟨same, .text name, ?_, rfl⟩
    unfold assemble
    rw [parts]
    cases optional with
    | false =>
      cases same
      change Except.ok (Part.text named.text) = _
      rw [asks.2.1]
    | true =>
      cases same
      change Except.ok (Part.text named.text) = _
      rw [asks.2.1]

/-- The node of a key in brackets is asked to denote an access to the property. -/
theorem denotes_index {key : Expr} {optional : Bool}
    (same : node.rule = (Suffix.index key optional).rule)
    (meets : Meets children [Denotes .expression key]) :
    (Suffix.index key optional).Asks (node, assemble node children) := by
  have passes : (Suffix.index key optional).rule.passes = true := by cases optional <;> rfl
  obtain ⟨_, span, value⟩ := denotes_passes passes
    (fun child denotes => Denotes.stands rfl denotes) same meets
  exact ⟨same, _, value, span, rfl⟩

/-- The node of a call that may give up is asked to denote the call. -/
theorem denotes_optionalCall {arguments : List Element}
    (same : node.rule = .optionalCall)
    (meets : Meets children [(Suffix.call arguments false).Asks]) :
    (Suffix.call arguments true).Asks (node, assemble node children) := by
  have parts := filter_noise_all meets (Suffix.shown (.call arguments false))
  cases meets with
  | @cons inner _ _ _ asks none =>
  cases none with
  | nil =>
    obtain ⟨_, part, value, denoted⟩ := asks
    cases denoted
    have items : inner.elements = .ok arguments := by
      rw [Child.elements, value]
      rfl
    obtain ⟨_, place, stop⟩ := node
    cases same
    refine ⟨rfl, .elements arguments, ?_, rfl⟩
    unfold assemble
    rw [parts]
    change (do return Part.elements (← inner.elements)) = _
    rw [items]
    rfl

/-- A node of a list of items denotes it. -/
theorem denotes_array {elements : List Element} (same : node.rule = .arrayLiteral)
    (meets : Meets children (elements.map Lists)) :
    Denotes .arrayLiteral (.array elements) (node, assemble node children) := by
  have parts := filter_noise meets (lists_shown elements)
  obtain ⟨_, place, stop⟩ := node
  cases same
  refine ⟨rfl, spanOf ⟨.arrayLiteral, place, stop⟩, ?_⟩
  unfold assemble
  rw [parts]
  change (do
    let found ← (do
      return (Expr.array (← children.mapM Child.elements).flatten, spanOf _))
    return Part.expression found.1 found.2) = _
  rw [mapM_elements meets]
  change Except.ok (Part.expression (.array (elements.map fun element => [element]).flatten) _) = _
  rw [flatten_singletons]

/-- A node of an expression in a list denotes the item. -/
theorem Denotes.lists {child : Child} (denotes : Denotes .assignmentExpression e child) :
    Lists (.item e) child := by
  obtain ⟨same, span, value⟩ := denotes
  refine ⟨by rw [same]; rfl, ?_⟩
  rw [Child.elements, value]
  change (do return [Element.item (← child.expr)]) = _
  rw [Child.expr, Child.spannedExpr, value]
  rfl

/-- A node of a spread denotes it. -/
theorem lists_spread (same : node.rule = .spreadElement)
    (meets : Meets children [Denotes .assignmentExpression e]) :
    Lists (.spread e) (node, assemble node children) := by
  have parts := filter_noise_all meets (Denotes.shown rfl)
  cases meets with
  | @cons source _ _ _ denotes none =>
  cases none with
  | nil =>
    obtain ⟨_, place, stop⟩ := node
    cases same
    have value : assemble ⟨.spreadElement, place, stop⟩ [source] = .ok (.elements [.spread e]) := by
      unfold assemble
      rw [parts]
      change (do return Part.elements [.spread (← source.expr)]) = _
      rw [(denotes.stands rfl).expr]
      rfl
    refine ⟨rfl, ?_⟩
    rw [Child.elements, value]
    rfl

/-- What the nodes of a piece of a template are asked for; an empty piece has none. -/
def pieceAsked (piece : String) : List Asked :=
  if piece.toList = [] then []
  else [fun child => child.rule = .templateChars ∧ unescape child.1.characters = piece.toList]

/-- What the nodes between the ticks of a template are asked for, given what is asked of its
expressions. -/
def partsAsked : List String → List Asked → List Asked
  | piece :: pieces, ask :: asks => pieceAsked piece ++ ask :: partsAsked pieces asks
  | piece :: _, [] => pieceAsked piece
  | [], _ => []

/-- What the nodes between the ticks of a template are asked for. -/
def templateAsked (quasis : List String) (expressions : List Expr) : List Asked :=
  partsAsked quasis (expressions.map (Denotes .templateSubstitution))

/-- The nodes of a piece are put before the first of the pieces after it. -/
theorem assembleTemplate_piece {piece next : String} {pieces : List String}
    {nodes others : List Child} {values : Except Problem (List Expr)}
    (meets : Meets nodes (pieceAsked piece))
    (rest : assembleTemplate others = Prod.mk (next :: pieces) <$> values) :
    assembleTemplate (nodes ++ others) = Prod.mk ((piece ++ next) :: pieces) <$> values := by
  rw [pieceAsked] at meets
  split at meets
  case isTrue empty =>
    cases meets
    have none : piece = "" := String.toList_inj.mp empty
    rw [none, String.empty_append]
    exact rest
  case isFalse =>
    cases meets with
    | @cons child _ _ _ asks none =>
    cases none with
    | nil =>
      rw [List.singleton_append, assembleTemplate, if_pos asks.1, asks.2, String.ofList_toList,
        rest]
      cases values <;> rfl

/-- The nodes between the ticks of a template give its pieces and expressions back. -/
theorem assembleTemplate_eq {quasis : List String} {expressions : List Expr}
    (pieces : quasis.length = expressions.length + 1) {nodes : List Child}
    (meets : Meets nodes (templateAsked quasis expressions)) :
    assembleTemplate nodes = .ok (quasis, expressions) := by
  induction quasis generalizing expressions nodes with
  | nil => cases pieces
  | cons piece quasis ih =>
    cases expressions with
    | nil =>
      cases quasis with
      | cons => cases pieces
      | nil =>
        have none : assembleTemplate [] = Prod.mk [""] <$> .ok [] := rfl
        have whole := assembleTemplate_piece meets none
        rw [List.append_nil, String.append_empty] at whole
        exact whole
    | cons value values =>
      obtain ⟨nodes, more, first, second, rfl⟩ := Meets.split meets
      cases second with
      | @cons child _ others _ denotes later =>
        have rest := ih (Nat.succ.inj pieces) later
        have other : child.rule ≠ .templateChars := by
          rw [denotes.1]
          exact nofun
        have whole : assembleTemplate (child :: others) =
            Prod.mk ("" :: quasis) <$> .ok (value :: values) := by
          rw [assembleTemplate, if_neg other, (denotes.stands rfl).expr, rest]
          rfl
        have all := assembleTemplate_piece first whole
        rw [String.append_empty] at all
        exact all

/-- The nodes between the ticks of a template matter if those of its expressions do. -/
theorem partsAsked_shown (quasis : List String) {asks : List Asked}
    (shown : ∀ ask ∈ asks, Shown ask) : ∀ ask ∈ partsAsked quasis asks, Shown ask := by
  have piece (text : String) : ∀ ask ∈ pieceAsked text, Shown ask := by
    intro ask member
    rw [pieceAsked] at member
    split at member
    · cases member
    · rw [List.mem_singleton.mp member]
      intro child asks
      rw [asks.1]
      rfl
  induction quasis generalizing asks with
  | nil => exact fun ask member => nomatch member
  | cons text quasis ih =>
    cases asks with
    | nil => exact piece text
    | cons first asks =>
      intro ask member
      rcases List.mem_append.mp member with member | member
      · exact piece text ask member
      · rcases List.mem_cons.mp member with rfl | member
        · exact shown _ List.mem_cons_self
        · exact ih (fun other later => shown other (.tail first later)) ask member

/-- The nodes between the ticks of a template matter. -/
theorem templateAsked_shown (quasis : List String) (expressions : List Expr) :
    ∀ ask ∈ templateAsked quasis expressions, Shown ask := by
  refine partsAsked_shown quasis fun ask member => ?_
  obtain ⟨_, _, rfl⟩ := List.mem_map.mp member
  exact Denotes.shown rfl

/-- A node of a template denotes it. -/
theorem denotes_template {quasis : List String} {expressions : List Expr}
    (pieces : quasis.length = expressions.length + 1) (same : node.rule = .templateLiteral)
    (meets : Meets children (templateAsked quasis expressions)) :
    Denotes .templateLiteral (.template quasis expressions) (node, assemble node children) := by
  have parts := filter_noise meets (templateAsked_shown quasis expressions)
  obtain ⟨_, place, stop⟩ := node
  cases same
  refine ⟨rfl, spanOf ⟨.templateLiteral, place, stop⟩, ?_⟩
  unfold assemble
  rw [parts]
  change (do
    let found ← (do
      let read ← assembleTemplate children
      return (Expr.template read.1 read.2, spanOf _))
    return Part.expression found.1 found.2) = _
  rw [assembleTemplate_eq pieces meets]
  rfl

end

end PluginSandbox.Syntax
