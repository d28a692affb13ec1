import PluginSandbox.Proofs.Syntax.Printing

/-!
# What comes after an operation

The marks that come after an operation where it is printed, in layers: those that close what it
stands in, and then, from layer to layer, those that only a stronger operation may stand before.
At the marks of a layer no rule goes on with an operation that is printed before it.
-/
namespace PluginSandbox.Syntax

open Peg (Surroundings)
open Peg.Expression (firstOf inOrder)

/-- The marks that close what an operation stands in. -/
def closers : List Head :=
  [.marks [')'], .marks [']'], .marks ['\x7d'], .marks [','], .marks [';'], .marks [':']]

/-- An assignment operator as it is printed. -/
def assigner (operator : AssignmentOperator) : Head := .marks (operator.spelling.toList ++ [' '])

/-- The mark after the test of a choice. -/
def chooser : Head := .marks ['?', ' ']

/-- An infix operator as it is printed. -/
def connector : InfixOperator → Head
  | .binary .isIn => .named "in".toList
  | .binary .instanceOf => .named "instanceof".toList
  | operator => .marks (operator.spelling.toList ++ [' '])

/-- A change by one after its target. -/
def changer (operator : UpdateOperator) : Head := .marks operator.spelling.toList

/-- What comes after a choice or anything stronger. -/
def afterConditional : List Head := assignmentOperators.map assigner ++ closers

/-- What comes after an infix operation or anything stronger. -/
def afterInfix : List Head := chooser :: afterConditional

/-- What comes after a prefix operation or anything stronger. -/
def afterOperand : List Head := infixOperators.map connector ++ afterInfix

/-- What comes after an access, a call or anything stronger. -/
def afterObject : List Head := [changer .increment, changer .decrement] ++ afterOperand

section

variable {around : Surroundings} {text rest : List Char} {heads : List Head}

/-- Every operator is among those that are tried. -/
theorem mem_infixOperators (operator : InfixOperator) : operator ∈ infixOperators := by
  rcases operator with operator | operator <;> cases operator <;> decide

/-- Every operator is among those that are tried. -/
theorem mem_assignmentOperators (operator : AssignmentOperator) :
    operator ∈ assignmentOperators := by
  cases operator <;> decide

/-- An infix operator comes after its left operand as it is printed. -/
theorem connector_fits (operator : InfixOperator) (rest : List Char) :
    (connector operator).Fits (operator.spelling.toList ++ ' ' :: rest) := by
  rcases operator with operator | operator
  · cases operator <;> first
      | exact ⟨rfl, by decide, _, rfl⟩
      | exact Head.named_fits (by decide) rfl rfl
  · cases operator <;> exact ⟨rfl, by decide, _, rfl⟩

/-- An assignment operator comes after its target as it is printed. -/
theorem assigner_fits (operator : AssignmentOperator) (rest : List Char) :
    (assigner operator).Fits (operator.spelling.toList ++ ' ' :: rest) := by
  cases operator <;> exact ⟨rfl, by decide, _, rfl⟩

/-- A change by one comes after its target as it is printed. -/
theorem changer_fits (operator : UpdateOperator) (rest : List Char) :
    (changer operator).Fits (operator.spelling.toList ++ rest) := by
  cases operator <;> exact ⟨rfl, by decide, _, rfl⟩

/-- An infix operator is among what comes after its left operand. -/
theorem mem_connector (operator : InfixOperator) : connector operator ∈ afterOperand :=
  List.mem_append_left _ (List.mem_map_of_mem (mem_infixOperators operator))

/-- An assignment operator is among what comes after its target. -/
theorem mem_assigner (operator : AssignmentOperator) : assigner operator ∈ afterConditional :=
  List.mem_append_left _ (List.mem_map_of_mem (mem_assignmentOperators operator))

/-- A change by one is among what comes after its target. -/
theorem mem_changer (operator : UpdateOperator) : changer operator ∈ afterObject := by
  cases operator <;> decide

/-- No blank starts at an infix operator. -/
theorem connector_settled (operator : InfixOperator) : (connector operator).isSettled = true := by
  rcases operator with operator | operator <;> cases operator <;> decide

/-- A choice of which only some parts open with a beginning reads what one of them reads. -/
theorem Reads.among (starts : StartsIn heads text) {before after : List (Peg.Expression Rule)}
    {e : Peg.Expression Rule} {asked : List Asked}
    (shut : (before.all fun other => other.isRanked ranking && !other.isNullable ranking &&
      heads.all fun head => head.isSettled && !head.opens 64 other) = true)
    (one : Reads around (.once e) text rest asked) :
    Reads around (.once (firstOf (before ++ e :: after))) text rest asked := by
  refine .firstOf_split (fun other member => ?_) one
  have facts := List.all_eq_true.mp shut other member
  simp only [Bool.and_eq_true, Bool.not_eq_true'] at facts
  exact .of_heads starts facts.2 facts.1.1 facts.1.2

/-- No exclamation mark is taken before an equals sign. -/
theorem Rejects.nonNullAssertion (mode : around.mode = .spaced) (rest : List Char) :
    Rejects around (.once (.call .nonNullAssertion)) ('!' :: '=' :: rest) := by
  have mark : Reads around (.once (.literal ['!'])) ('!' :: '=' :: rest) ('=' :: rest) [] :=
    .literal around ['!'] _
  refine .call (.seq_late mark ?_)
  change Rejects around _ (padded around ('=' :: rest))
  rw [padded, if_pos mode, afterBlanks_settled rfl]
  exact .notAhead (.literal _ ['='] rest)

/-- No access or call goes on with what is printed before these marks. -/
theorem Rejects.callSuffix (mode : around.mode = .spaced) (starts : StartsIn afterObject text) :
    Rejects around (.once (.call .callSuffix)) text := by
  have most : ((afterObject.filter fun head => !head.opens 64 (.call .callSuffix)).all fun head =>
      head.isSettled && !head.opens 64 (.call .callSuffix)) = true := by decide
  have others : ∀ head ∈ afterObject, head.opens 64 (.call .callSuffix) = true →
      head = .marks "!== ".toList ∨ head = .marks "!= ".toList := by decide
  obtain ⟨head, member, fits⟩ := starts
  cases opens : head.opens 64 (.call .callSuffix) with
  | false =>
    have listed : head ∈ afterObject.filter fun head => !head.opens 64 (.call .callSuffix) :=
      List.mem_filter.mpr ⟨member, by rw [opens]; rfl⟩
    exact .of_heads ⟨head, listed, fits⟩ most rfl rfl
  | true =>
    have unequal : ∃ rest, text = '!' :: '=' :: rest := by
      rcases others head member opens with rfl | rfl
      · obtain ⟨_, _, rest, rfl⟩ := fits
        exact ⟨_, rfl⟩
      · obtain ⟨_, _, rest, rfl⟩ := fits
        exact ⟨_, rfl⟩
    obtain ⟨rest, rfl⟩ := unequal
    have mark : StartsIn [.marks ['!', '=']] ('!' :: '=' :: rest) :=
      ⟨_, List.mem_singleton_self _, Head.marks_fits rfl (by decide) rest⟩
    have none {rule : Rule} (shut : ([Head.marks ['!', '=']].all fun head =>
          head.isSettled && !head.opens 64 (.call rule)) = true)
        (filled : Peg.Expression.isNullable ranking (.call rule) = false) :
        Rejects around (.once (.call rule)) ('!' :: '=' :: rest) :=
      .of_heads mark shut rfl filled
    exact .call (.choice (none (by decide) rfl) (.choice (none (by decide) rfl)
      (.choice (none (by decide) rfl) (.choice (none (by decide) rfl)
        (.choice (none (by decide) rfl) (.choice (none (by decide) rfl)
          (.nonNullAssertion mode rest)))))))

/-- No change by one goes on with what is printed before these marks. -/
theorem Rejects.postfixOperator (starts : StartsIn afterOperand text) :
    Rejects around (.once (.call .postfixOperator)) text :=
  .of_heads starts (by decide) rfl rfl

/-- No type assertion goes on with what is printed before these marks. -/
theorem Rejects.typeAssertion (starts : StartsIn afterObject text) :
    Rejects around (.once (.call .typeAssertion)) text :=
  .of_heads starts (by decide) rfl rfl

/-- No assignment goes on with what is printed before these marks. -/
theorem Rejects.assignmentOperator (starts : StartsIn closers text) :
    Rejects around (.once (.call .assignmentOperator)) text :=
  .of_heads starts (by decide) rfl rfl

/-- A doubled sign is no sign. -/
theorem Rejects.sign (mode : around.mode = .spaced) {c : Char} (slash : c ≠ '/')
    (space : isSpace c = false) (rest : List Char) :
    Rejects around (.once (.seq (.literal [c]) (.notAhead (.literal [c])))) (c :: c :: rest) := by
  have mark : Reads around (.once (.literal [c])) (c :: c :: rest) (c :: rest) [] :=
    .literal around [c] _
  refine .seq_late mark ?_
  rw [padded, if_pos mode, afterBlanks_settled ((startsBlank_of_ne rest slash).trans space)]
  exact .notAhead (.literal _ [c] rest)

/-- No prefix operation of the weaker kind starts where a change by one or anything stronger
does. -/
theorem Rejects.unaryOperatorStart (mode : around.mode = .spaced)
    (starts : StartsIn (headsFrom updateStrength) text) :
    Rejects around (.once (.call .unaryOperatorStart)) text := by
  obtain ⟨head, member, fits⟩ := starts
  have split : head ∈ updateHeads ++ objectHeads := member
  rcases List.mem_append.mp split with update | object
  · have spelled : head = .marks ['+', '+'] ∨ head = .marks ['-', '-'] := by
      simpa [updateHeads] using update
    rcases spelled with rfl | rfl
    · have mark : StartsIn [.marks ['+', '+']] text := ⟨_, List.mem_singleton_self _, fits⟩
      obtain ⟨_, _, rest, rfl⟩ := fits
      exact .call (.choice (.seq (.literal_head around [] _ (by decide)) _)
        (.choice (.sign mode (by decide) rfl rest) (.of_heads mark (by decide) rfl rfl)))
    · have mark : StartsIn [.marks ['-', '-']] text := ⟨_, List.mem_singleton_self _, fits⟩
      obtain ⟨_, _, rest, rfl⟩ := fits
      exact .call (.choice (.sign mode (by decide) rfl rest)
        (.of_heads mark (by decide) rfl rfl))
  · exact .of_heads ⟨head, object, fits⟩ (by decide) rfl rfl

/-- What the node of a word or of a mark is asked for. -/
def Marks (rule : Rule) : Asked := fun child => child.rule = rule

/-- A rule for a word is read as a node. -/
theorem Reads.words_node (rule : Rule) (text : List Char) (makes : around.makesNodes = true)
    (known : firstWord text ∈ rule.words.map String.toList) :
    Reads around (.once (.call rule)) text (dropWord text) [Marks rule] := by
  have some : rule.words ≠ [] := fun none => by rw [none] at known; cases known
  have isWords := Rule.isWords some
  refine .node ?_ ?_ (.words_body known) fun node children same _ _ => same
  · rw [isWords.kind]
    exact nofun
  · rw [isWords.kind]
    exact makes

/-- The operators that are tried before another one. -/
def triedBefore (operator : InfixOperator) : List InfixOperator :=
  infixOperators.takeWhile (· ≠ operator)

/-- The operators that are tried after another one. -/
def triedAfter (operator : InfixOperator) : List InfixOperator :=
  (infixOperators.dropWhile (· ≠ operator)).tail

/-- The operators are tried in one order. -/
theorem infixOperators_split (operator : InfixOperator) :
    infixOperators = triedBefore operator ++ operator :: triedAfter operator := by
  rcases operator with operator | operator <;> cases operator <;> decide

/-- An infix operator is read where a text starts with it and no other operator fits. -/
theorem Reads.binaryOperator_among (head : Head) (operator : InfixOperator)
    (fits : head.Fits text)
    (shut : ((triedBefore operator).all fun other =>
      head.isSettled && !head.opens 64 (.call (.operator other))) = true)
    (one : Reads around (.once (.call (.operator operator))) text rest [Marks (.operator operator)]) :
    Reads around (.once (.call .binaryOperator)) text rest [Marks (.operator operator)] := by
  refine .hidden rfl ?_
  change Reads around (.once (firstOf (infixOperators.map fun op => .call (.operator op)))) _ _ _
  rw [infixOperators_split operator, List.map_append, List.map_cons]
  refine .firstOf_split (fun other member => ?_) one
  obtain ⟨op, listed, rfl⟩ := List.mem_map.mp member
  have alone : ([head].all fun head => head.isSettled && !head.opens 64 (.call (.operator op)))
      = true := by
    rw [List.all_cons, List.all_nil, Bool.and_true]
    exact List.all_eq_true.mp shut op listed
  have filled : Peg.Expression.isNullable ranking (.call (Rule.operator op)) = false := rfl
  exact .of_heads ⟨head, List.mem_singleton_self _, fits⟩ alone rfl filled

/-- A rule for marks is read as a node. -/
theorem Reads.marks_node (makes : around.makesNodes = true) {rule : Rule} {characters : List Char}
    (marks : rule.body = .literal characters) (plain : rule.kind = .plain) (rest : List Char) :
    Reads around (.once (.call rule)) (characters ++ rest) rest [Marks rule] := by
  have body : Reads (Peg.Grammar.inside rule.kind around) (.once rule.body) (characters ++ rest)
      rest [] := by
    rw [marks, plain]
    exact .literal around characters rest
  refine .node ?_ ?_ body fun node children same _ _ => same
  · rw [plain]
    exact nofun
  · rw [plain]
    exact makes

/-- A printed infix operator is read. -/
theorem Reads.binaryOperator (makes : around.makesNodes = true) (operator : InfixOperator)
    (rest : List Char) :
    Reads around (.once (.call .binaryOperator)) (operator.spelling.toList ++ ' ' :: rest)
      (' ' :: rest) [Marks (.operator operator)] := by
  have marks (known : startsWord (operator.spelling.toList ++ [' ']) = false) :
      (Head.marks (operator.spelling.toList ++ [' '])).Fits
        (operator.spelling.toList ++ ' ' :: rest) := by
    have fits := Head.marks_fits known (by simp) rest
    rwa [List.append_assoc] at fits
  have word (word : String) (isWord : word.toList.all isIdentifierChar = true) :
      firstWord (word.toList ++ ' ' :: rest) = word.toList ∧
        dropWord (word.toList ++ ' ' :: rest) = ' ' :: rest :=
    ⟨firstWord_append isWord rfl, dropWord_append isWord rfl⟩
  rcases operator with operator | operator
  · cases operator with
    | isIn =>
      obtain ⟨first, drop⟩ := word "in" (by decide)
      refine .binaryOperator_among (.named "in".toList) _ ⟨first, rfl⟩ (by decide) ?_
      have read := Reads.words_node (.operator (.binary .isIn))
        ("in".toList ++ ' ' :: rest) makes (by rw [first]; decide)
      rwa [drop] at read
    | instanceOf =>
      obtain ⟨first, drop⟩ := word "instanceof" (by decide)
      refine .binaryOperator_among (.named "instanceof".toList) _ ⟨first, rfl⟩
        (by decide) ?_
      have read := Reads.words_node (.operator (.binary .instanceOf))
        ("instanceof".toList ++ ' ' :: rest) makes (by rw [first]; decide)
      rwa [drop] at read
    | _ =>
      exact .binaryOperator_among _ _ (marks rfl) (by decide)
        (.marks_node makes rfl rfl _)
  · cases operator <;> exact .binaryOperator_among _ _ (marks rfl) (by decide)
      (.marks_node makes rfl rfl _)

/-- The infix operator that an assignment operator is spelled with, before an equals sign. -/
def AssignmentOperator.base : AssignmentOperator → Option InfixOperator
  | .assign => none
  | .add => some (.binary .add)
  | .subtract => some (.binary .subtract)
  | .multiply => some (.binary .multiply)
  | .divide => some (.binary .divide)
  | .modulo => some (.binary .modulo)
  | .or => some (.logical .or)
  | .and => some (.logical .and)
  | .nullish => some (.logical .nullish)

/-- An infix operator is read at the start of an assignment operator. -/
theorem Reads.base (makes : around.makesNodes = true) {operator : AssignmentOperator}
    {base : InfixOperator} (spelled : operator.base = some base) (rest : List Char) :
    Reads around (.once (.call .binaryOperator)) (base.spelling.toList ++ '=' :: rest)
      ('=' :: rest) [Marks (.operator base)] := by
  have marks (known : startsWord (base.spelling.toList ++ ['=']) = false) :
      (Head.marks (base.spelling.toList ++ ['='])).Fits (base.spelling.toList ++ '=' :: rest) := by
    have fits := Head.marks_fits known (by simp) rest
    rwa [List.append_assoc] at fits
  cases operator with
  | assign => cases spelled
  | _ =>
    cases spelled
    exact .binaryOperator_among _ _ (marks rfl) (by decide) (.marks_node makes rfl rfl _)

/-- An assignment operator is a mark alone, or an infix operator before one. -/
theorem spelling_cases (operator : AssignmentOperator) :
    operator = .assign ∨ ∃ base, operator.base = some base ∧
      operator.spelling.toList = base.spelling.toList ++ ['='] := by
  cases operator <;> first | exact .inl rfl | exact .inr ⟨_, rfl, rfl⟩

/-- No operation goes on with an equals sign. -/
theorem startsIn_equals (rest : List Char) : StartsIn [.marks ['=', ' ']] ('=' :: ' ' :: rest) :=
  ⟨_, List.mem_singleton_self _, Head.marks_fits rfl (by decide) rest⟩

/-- No infix operation goes on with what is printed before these marks. -/
theorem Rejects.continuation (mode : around.mode = .spaced) (makes : around.makesNodes = true)
    (starts : StartsIn afterInfix text) :
    Rejects around (.once (.seq (.call .binaryOperator) (.call .binaryOperand))) text := by
  have compound (operator : AssignmentOperator) (base : InfixOperator) (rest : List Char)
      (spelled : operator.base = some base) :
      Rejects around (.once (.seq (.call .binaryOperator) (.call .binaryOperand)))
        (base.spelling.toList ++ '=' :: ' ' :: rest) := by
    refine .seq_late (Reads.base makes spelled (' ' :: rest)) ?_
    rw [padded, if_pos mode, afterBlanks_settled rfl]
    exact .of_heads (startsIn_equals rest) (by decide) rfl rfl
  obtain ⟨head, member, fits⟩ := starts
  have others : head ∈ chooser :: assigner .assign :: closers ∨
      ∃ operator : AssignmentOperator, operator ≠ .assign ∧ head = assigner operator := by
    rcases List.mem_cons.mp member with rfl | later
    · exact .inl List.mem_cons_self
    · rcases List.mem_append.mp later with assigned | closed
      · obtain ⟨operator, _, rfl⟩ := List.mem_map.mp assigned
        by_cases plain : operator = .assign
        · subst plain
          exact .inl (.tail _ List.mem_cons_self)
        · exact .inr ⟨operator, plain, rfl⟩
      · exact .inl (.tail _ (.tail _ closed))
  rcases others with listed | ⟨operator, compoundOperator, rfl⟩
  · exact .of_heads ⟨head, listed, fits⟩ (by decide) rfl rfl
  · obtain ⟨base, spelled, spelling⟩ := (spelling_cases operator).resolve_left compoundOperator
    obtain ⟨_, _, rest, rfl⟩ := fits
    rw [spelling, List.append_assoc, List.append_assoc]
    exact compound operator base rest spelled

/-- No choice goes on with what is printed before these marks. -/
theorem Rejects.choice_mark (mode : around.mode = .spaced) (starts : StartsIn afterConditional text)
    (others : Peg.Expression Rule) :
    Rejects around (.once (.seq (.literal ['?']) (.seq (.call .assignmentExpression) others)))
      text := by
  obtain ⟨head, member, fits⟩ := starts
  by_cases nullish : head = assigner .nullish
  · subst nullish
    obtain ⟨_, _, rest, rfl⟩ := fits
    have mark := Reads.literal around ['?'] ('?' :: '=' :: ' ' :: rest)
    have second : StartsIn [.marks ['?', '=', ' ']] ('?' :: '=' :: ' ' :: rest) :=
      ⟨_, List.mem_singleton_self _, Head.marks_fits rfl (by decide) rest⟩
    refine .seq_late mark (.seq ?_ others)
    rw [padded, if_pos mode, afterBlanks_settled rfl]
    exact .of_heads second (by decide) rfl rfl
  · have listed : head ∈ afterConditional.filter (· ≠ assigner .nullish) :=
      List.mem_filter.mpr ⟨member, decide_eq_true nullish⟩
    exact .seq (.of_heads ⟨head, listed, fits⟩ (by decide) rfl rfl) _

/-- How an assignment operator is tried. -/
def assignmentAttempt (operator : AssignmentOperator) : Peg.Expression Rule :=
  if operator = .assign then inOrder ["=", .notAhead (firstOf ["=", ">"])]
  else .literal operator.spelling.toList

/-- A printed assignment operator is read as its marks. -/
theorem Reads.assignmentAttempt (compact : around.mode ≠ .spaced) (operator : AssignmentOperator)
    (rest : List Char) :
    Reads around (.once (assignmentAttempt operator)) (operator.spelling.toList ++ ' ' :: rest)
      (' ' :: rest) [] := by
  by_cases plain : operator = .assign
  · subst plain
    have mark := Reads.literal around ['='] (' ' :: rest)
    refine mark.seq ?_
    rw [padded_compact compact]
    exact .notAhead (.choice (.literal_head _ [] rest (by decide))
      (.literal_head _ [] rest (by decide)))
  · rw [Syntax.assignmentAttempt, if_neg plain]
    exact .literal around _ _

/-- A printed assignment operator is read. -/
theorem Reads.assignmentOperator (makes : around.makesNodes = true)
    (operator : AssignmentOperator) (rest : List Char) :
    Reads around (.once (.call .assignmentOperator)) (operator.spelling.toList ++ ' ' :: rest)
      (' ' :: rest) [fun child => child.rule = .assignmentOperator ∧
        child.text = operator.spelling] := by
  have order : assignmentOperators = assignmentOperators.takeWhile (· ≠ operator) ++
      operator :: (assignmentOperators.dropWhile (· ≠ operator)).tail := by
    cases operator <;> decide
  have starts : StartsIn [assigner operator] (operator.spelling.toList ++ ' ' :: rest) :=
    ⟨_, List.mem_singleton_self _, assigner_fits operator rest⟩
  have body : Reads (Peg.Grammar.inside .atomic around) (.once Rule.assignmentOperator.body)
      (operator.spelling.toList ++ ' ' :: rest) (' ' :: rest) [] := by
    change Reads _ (.once (firstOf (assignmentOperators.map Syntax.assignmentAttempt))) _ _ _
    rw [order, List.map_append, List.map_cons]
    exact .among starts (by cases operator <;> decide)
      (.assignmentAttempt (inside_atomic around) operator rest)
  refine .node nofun makes body fun node children same spelled _ => ⟨same, ?_⟩
  change String.ofList node.characters = operator.spelling
  rw [List.append_cancel_right spelled, String.ofList_toList]

end

end PluginSandbox.Syntax
