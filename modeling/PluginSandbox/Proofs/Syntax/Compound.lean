import PluginSandbox.Proofs.Syntax.Prefixes

/-!
# Reading chains, choices and assignments

Operands with operators between them are read as one chain, and grouping the chain gives the
operation back, because the printer puts parentheses where it would not. Choices and assignments
are made of such operations.
-/
namespace PluginSandbox.Syntax

open Peg.Grammar (outermost)
open Peg.Expression (inOrder)

/-- An operand is read as a chain that stands for it wherever operations of at least a strength
may stand, unless a power goes on where it must not. -/
def ReadsChain (needed : Nat) (wrapped : Bool) (e : Expr) : Prop :=
  ∀ rest : List Char, Seam afterOperand rest →
    (needed < updateStrength → "**".toList.isPrefixOf (afterBlanks rest) = false) →
      ∃ (first : Expr) (chain : List (InfixOperator × Expr)) (middle : List Char),
        Reads outermost (.once (.call .binaryOperand)) (e.wrappedIf wrapped ++ rest) middle
            [Denotes .unaryExpression first] ∧
          Repeats outermost (.seq (.call .binaryOperator) (.call .binaryOperand)) middle
              (afterBlanks rest) (chainAsked chain) ∧
            Groups InfixOperator.apply needed first chain e

/-- An operation is read by the rule for choices, before a text that starts in one of several
ways. -/
def ReadsConditional (heads : List Head) (e : Expr) : Prop :=
  ∀ rest : List Char, Seam heads rest →
    Reads outermost (.once (.call .conditionalExpression)) (e.characters ++ rest)
      (afterBlanks rest) [Denotes .conditionalExpression e]

section

variable {rest : List Char} {e left right : Expr} {wrapped : Bool} {needed : Nat}

/-- What may come after an operand starts in some way. -/
theorem Seam.operand {heads : List Head} (seam : Seam heads rest) (all : heads ⊆ afterOperand) :
    Seam afterOperand rest ∧ padded outermost (afterBlanks rest) = afterBlanks rest :=
  ⟨seam.mono all, (seam.mono all).padded_padded
    (List.Subset.trans after_subset.2.1 after_subset.1)⟩

/-- No power comes where no operator does. -/
theorem Seam.no_power (seam : Seam afterInfix rest) :
    "**".toList.isPrefixOf (afterBlanks rest) = false := by
  have none : ∀ head ∈ afterInfix, head.maySpell "**".toList = false := by decide
  refine eq_false_of_ne_true fun starts => ?_
  obtain ⟨head, member, fits⟩ := seam.starts
  have spelled := Head.maySpell_of_starts fits (show "**".toList ≠ [] by decide)
    (List.isPrefixOf_iff_prefix.mp starts)
  rw [none head member] at spelled
  cases spelled

/-- A prefix operation is a chain of one operand. -/
theorem ReadsPrefixed.chain (operand : ReadsPrefixed wrapped e) (isOperation : e.IsOperation)
    (strong : updateStrength ≤ needed → ∀ {rest : List Char}, startsWord rest = false →
      StartsIn (headsFrom updateStrength) (e.wrappedIf wrapped ++ rest)) :
    ReadsChain needed wrapped e := by
  intro rest seam noPower
  have allowed : StartsIn (headsFrom updateStrength) (e.wrappedIf wrapped ++ rest) ∨
      "**".toList.isPrefixOf (afterBlanks rest) = false := by
    by_cases weak : needed < updateStrength
    · exact .inr (noPower weak)
    · exact .inl (strong (Nat.not_lt.mp weak) seam.ends)
  exact ⟨e, [], _, operand.binaryOperand isOperation seam allowed, .done _, .operand _ _ _⟩

/-- What is printed after a blank may come after an operation. -/
theorem Seam.spaced {heads : List Head} (head : Head) {text : List Char} (lexed : Lexed text)
    (member : head ∈ heads) (fits : head.Fits text) (settled : head.isSettled = true) :
    Seam heads (' ' :: text) ∧ afterBlanks (' ' :: text) = text := by
  obtain ⟨stack, code, lexes⟩ := lexed
  have stays := afterBlanks_spaced (head.settled fits settled)
  refine ⟨⟨⟨stack, code, .blank ' ' code rfl lexes⟩, rfl, ?_⟩, stays⟩
  rw [stays]
  exact ⟨head, member, fits⟩

/-- An operator may come after its left operand, and its right operand after the operator. -/
theorem Seam.operator (operator : InfixOperator) (isOperation : right.IsOperation)
    (wrapped : Bool) (seam : Seam afterOperand rest) :
    Seam afterOperand (' ' :: (operator.spelling.toList ++ ' ' :: (right.wrappedIf wrapped ++ rest))) ∧
      afterBlanks (' ' :: (operator.spelling.toList ++ ' ' :: (right.wrappedIf wrapped ++ rest))) =
        operator.spelling.toList ++ ' ' :: (right.wrappedIf wrapped ++ rest) := by
  obtain ⟨stack, code, lexes⟩ := isOperation.lexed_wrappedIf wrapped (seam.mono after_subset.2.1)
  have lexed := Lexes.infixOperator operator code (.blank ' ' code rfl lexes)
  exact Seam.spaced (connector operator) ⟨stack, code, lexed⟩ (mem_connector operator)
    (connector_fits operator _) (connector_settled operator)

/-- No operator but that of a power starts as it does. -/
theorem spelling_no_power {operator : InfixOperator} (weak : operator.leftNeed < updateStrength)
    (rest : List Char) :
    "**".toList.isPrefixOf (operator.spelling.toList ++ ' ' :: rest) = false := by
  rcases operator with operator | operator
  · cases operator <;> first | rfl | exact absurd weak (by decide)
  · cases operator <;> rfl

/-- The chains of two operands, with an operator between them, are the chain of the operation. -/
theorem ReadsChain.apply {operator : InfixOperator} (strong : needed ≤ operator.strength)
    (first : ReadsChain operator.leftNeed (left.strength < operator.leftNeed) left)
    (second : ReadsChain operator.rightNeed (right.strength < operator.rightNeed) right)
    (isOperation : right.IsOperation) : ReadsChain needed false (operator.apply left right) := by
  intro rest seam noPower
  have below : needed < updateStrength ∧ operator.rightNeed < updateStrength := by
    have most := operator.strength_le
    have need := operator.rightNeed_cases
    have update : updateStrength = 16 := rfl
    omega
  obtain ⟨between, stays⟩ := seam.operator operator isOperation (right.strength < operator.rightNeed)
  obtain ⟨head, chain, middle, readHead, readChain, groups⟩ := first _ between fun weak => by
    rw [stays]
    exact spelling_no_power weak _
  obtain ⟨other, others, later, readOther, readOthers, groupsToo⟩ :=
    second rest seam fun _ => noPower below.1
  have settled := isOperation.settled_wrappedIf (right.strength < operator.rightNeed) seam.ends
  have mark := Reads.binaryOperator (show outermost.makesNodes = true from rfl) operator
    (right.wrappedIf (right.strength < operator.rightNeed) ++ rest)
  have step := mark.seq (by rw [padded_outermost, afterBlanks_spaced settled]; exact readOther)
  rw [stays] at readChain
  rw [← stays, ← between.padded_padded (List.Subset.trans after_subset.2.1 after_subset.1), stays]
    at step
  refine ⟨head, chain ++ (operator, other) :: others, middle, ?_, ?_, .operation strong groups groupsToo⟩
  · have whole : (operator.apply left right).wrappedIf false ++ rest =
        left.wrappedIf (left.strength < operator.leftNeed) ++ (' ' :: (operator.spelling.toList ++
          ' ' :: (right.wrappedIf (right.strength < operator.rightNeed) ++ rest))) := by
      change (operator.apply left right).characters ++ rest = _
      rw [characters_apply]
      simp only [List.append_assoc, List.cons_append]
    rw [whole]
    exact readHead
  · rw [chainAsked_append]
    exact readChain.append (.more step readOthers)

/-- A chain is read by the rule for chains, where no operator goes on with it. -/
theorem ReadsChain.binaryExpression (chain : ReadsChain needed wrapped e)
    (seam : Seam afterInfix rest) :
    Reads outermost (.once (.call .binaryExpression)) (e.wrappedIf wrapped ++ rest)
      (afterBlanks rest) [Denotes .binaryExpression e] := by
  obtain ⟨later, stays⟩ := seam.operand after_subset.2.2.1
  obtain ⟨first, operands, middle, one, others, groups⟩ :=
    chain rest later fun _ => seam.no_power
  have none : Rejects outermost (.once (.seq (.call .binaryOperator) (.call .binaryOperand)))
      (padded outermost (afterBlanks rest)) := by
    rw [stays]
    exact .continuation rfl rfl seam.starts
  obtain ⟨left, ends, more⟩ := others.reads_many none
  have same : left = afterBlanks rest := by
    rcases ends with rfl | rfl
    · rfl
    · exact stays
  subst same
  exact .node nofun rfl (one.seq more) fun node children same _ meets =>
    denotes_chain groups.group_eq same meets

/-- What is read as a chain is read by the rule for choices. -/
theorem ReadsChain.conditional (chain : ReadsChain needed false e) : ReadsConditional afterConditional e := by
  intro rest seam
  have later : Seam afterInfix rest := seam.mono after_subset.2.2.2.1
  have none : Reads outermost (.once (.maybe (inOrder ["?", .call .assignmentExpression, ":",
      .call .assignmentExpression]))) (padded outermost (afterBlanks rest)) (afterBlanks rest) [] := by
    rw [(later.operand after_subset.2.2.1).2]
    exact .maybe_none (.choice_mark rfl seam.starts _)
  exact .node nofun rfl ((chain.binaryExpression later).seq none) fun node children same _ meets =>
    denotes_passes rfl (fun child denotes => denotes.stands rfl) same meets

/-- What closes what an operation stands in may come after any operation. -/
theorem closers_subset : closers ⊆ afterObject :=
  List.Subset.trans after_subset.2.2.2.2 (List.Subset.trans after_subset.2.2.2.1
    (List.Subset.trans after_subset.2.2.1 after_subset.2.1))

/-- A choice between two expressions is read by the rule for choices. -/
theorem ReadsChain.choice {whenTrue whenFalse : Expr}
    (test : ReadsChain needed (e.strength < 3) e) (second : whenTrue.IsRead)
    (third : whenFalse.IsRead) : ReadsConditional closers (.conditional e whenTrue whenFalse) := by
  intro rest seam
  have lexed {c : Char} {text : List Char} (lexed : Lexed text) (mark : c ∈ plainMarks)
      (equals : c ≠ '=') (slash : c ≠ '/') : Lexed (c :: ' ' :: text) := by
    obtain ⟨stack, code, lexes⟩ := lexed
    exact ⟨stack, code, .plain code mark equals slash (.blank ' ' code rfl lexes)⟩
  have lexedFalse := lexed (third.operation.lexed (seam.mono closers_subset)) (show ':' ∈ plainMarks by decide)
    (by decide) (by decide)
  obtain ⟨colon, afterTrue⟩ := Seam.spaced (.marks [':']) lexedFalse
    (show _ ∈ closers by decide) (Head.marks_fits rfl (by decide) _) rfl
  have lexedTrue := lexed (second.operation.lexed (colon.mono closers_subset)) (show '?' ∈ plainMarks by decide)
    (by decide) (by decide)
  obtain ⟨question, afterTest⟩ := Seam.spaced chooser lexedTrue List.mem_cons_self
    (Head.marks_fits rfl (by decide) _) rfl
  have first := test.binaryExpression question
  have whenTrueRead := second.reads colon
  have whenFalseRead := third.reads seam
  rw [afterTest] at first
  rw [afterTrue] at whenTrueRead
  have last : Reads outermost (.once (inOrder [":", .call .assignmentExpression]))
      (padded outermost (':' :: ' ' :: (whenFalse.characters ++ rest))) (afterBlanks rest)
      [Denotes .assignmentExpression whenFalse] := by
    rw [padded_settled rfl]
    refine (Reads.literal outermost [':'] (' ' :: (whenFalse.characters ++ rest))).seq ?_
    rw [padded_outermost, afterBlanks_spaced (third.operation.settled seam.ends)]
    exact whenFalseRead
  have branches := whenTrueRead.seq last
  rw [← afterBlanks_spaced (second.operation.settled colon.ends), ← padded_outermost] at branches
  have choice := ((Reads.literal outermost ['?'] _).seq branches).maybe_some
  have whole : (Expr.conditional e whenTrue whenFalse).characters ++ rest =
      e.wrappedIf (e.strength < 3) ++ ' ' :: '?' :: ' ' :: (whenTrue.characters ++
        ' ' :: ':' :: ' ' :: (whenFalse.characters ++ rest)) := by
    rw [characters_conditional]
    simp only [List.append_assoc, List.cons_append]
  rw [whole]
  refine .node nofun rfl (first.seq ?_) fun node children same _ meets =>
    denotes_conditional same meets
  rw [padded_settled rfl]
  exact choice

/-- What the rule for choices reads is read as an expression. -/
theorem ReadsConditional.isRead (read : ReadsConditional closers e) (operation : e.IsOperation) :
    e.IsRead := by
  refine ⟨operation, fun {rest} seam => ?_⟩
  obtain ⟨stack, code, lexes⟩ := operation.lexed (seam.mono closers_subset)
  have noArrow : Rejects outermost (.once (.call .arrowFunction)) (e.characters ++ rest) :=
    .arrowFunction lexes code rfl
  have none : Reads outermost (.once (.maybe (inOrder [.call .assignmentOperator,
      .call .assignmentExpression]))) (padded outermost (afterBlanks rest)) (afterBlanks rest) [] := by
    rw [seam.padded_padded (List.Subset.trans closers_subset after_subset.1)]
    exact .maybe_none (.seq (.assignmentOperator seam.starts) _)
  have alone := (read rest seam).seq none
  exact .node nofun rfl (alone.choice_second noArrow) fun node children same _ meets =>
    denotes_passes rfl (fun child denotes => denotes.stands rfl) same meets

/-- An assignment is read as an expression. -/
theorem ReadsConditional.assigned {value : Expr} {operator : AssignmentOperator}
    (target : ReadsConditional afterConditional e) (isTarget : e.IsOperation)
    (writable : e.isWritable = true) (second : value.IsRead) :
    (Expr.assign operator e value).IsRead := by
  have operation : (Expr.assign operator e value).IsOperation :=
    .assign operator writable isTarget second.operation
  refine ⟨operation, fun {rest} seam => ?_⟩
  obtain ⟨stack, code, lexes⟩ := second.operation.lexed (seam.mono closers_subset)
  have lexed := Lexes.assignmentOperator operator code (.blank ' ' code rfl lexes)
  obtain ⟨mark, stays⟩ := Seam.spaced (assigner operator) ⟨stack, code, lexed⟩
    (mem_assigner operator) (assigner_fits operator _) (by cases operator <;> decide)
  have settled : startsBlank (operator.spelling.toList ++ ' ' :: (value.characters ++ rest)) =
      false := by
    cases operator <;> rfl
  have first := target _ mark
  rw [stays] at first
  have write := (Reads.assignmentOperator (show outermost.makesNodes = true from rfl) operator
    (value.characters ++ rest)).seq (by
      rw [padded_outermost, afterBlanks_spaced (second.operation.settled seam.ends)]
      exact second.reads seam)
  have written := first.seq (by rw [padded_settled settled]; exact write.maybe_some)
  have whole : (Expr.assign operator e value).characters ++ rest =
      e.characters ++ (' ' :: (operator.spelling.toList ++ ' ' :: (value.characters ++ rest))) := by
    rw [characters_assign operator value writable]
    simp only [List.append_assoc, List.cons_append]
  have noArrow : Rejects outermost (.once (.call .arrowFunction))
      (e.characters ++ (' ' :: (operator.spelling.toList ++ ' ' :: (value.characters ++ rest)))) := by
    obtain ⟨stack, code, lexes⟩ := operation.lexed (seam.mono closers_subset)
    rw [← whole]
    exact .arrowFunction lexes code rfl
  rw [whole]
  exact .node nofun rfl (written.choice_second noArrow) fun node children same _ meets =>
    denotes_assign writable same meets

end

end PluginSandbox.Syntax
