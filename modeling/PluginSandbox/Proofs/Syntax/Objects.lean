import PluginSandbox.Proofs.Syntax.Enclosed

/-!
# Reading objects

An object with accesses and calls after it is read by one rule, and a change by one after its
target by the next weaker one. What the stronger rule reads, the weaker rule reads as well, as long
as the text after it does not go on with a stronger operation.
-/
namespace PluginSandbox.Syntax

open Peg.Grammar (outermost inside)
open Peg.Expression (firstOf)

/-- An object is read as a primary expression with accesses and calls after it, before a text that
starts in one of several ways. -/
def ReadsObject (heads : List Head) (wrapped : Bool) (e : Expr) : Prop :=
  ∀ rest : List Char, Seam heads rest →
    ∃ (base : Expr) (suffixes : List Suffix) (middle : List Char),
    Reads outermost (.once (.call .primaryExpression)) (e.wrappedIf wrapped ++ rest) middle
        [Stands base] ∧
      Repeats outermost (.call .callSuffix) middle rest (suffixes.map Suffix.Asks) ∧
        suffixes.foldl (fun object suffix => suffix.apply object) base = e

/-- An operand is read by the rule for changes after their target. -/
def ReadsPostfix (wrapped : Bool) (e : Expr) : Prop :=
  ∀ rest : List Char, Seam afterOperand rest →
    Reads outermost (.once (.call .postfixExpression)) (e.wrappedIf wrapped ++ rest)
      (afterBlanks rest) [Denotes .postfixExpression e]

section

variable {heads : List Head} {rest text : List Char} {e : Expr} {wrapped : Bool}

/-- A text that may come after an operation is left as it is once its blanks are gone. -/
theorem Seam.padded_padded (seam : Seam heads rest) (all : heads ⊆ afterName) :
    padded outermost (afterBlanks rest) = afterBlanks rest :=
  padded_settled (seam.settled all)

/-- The ways in which a text goes on after an operation are fewer for weaker operations. -/
theorem after_subset :
    afterObject ⊆ afterName ∧ afterOperand ⊆ afterObject ∧ afterInfix ⊆ afterOperand ∧
      afterConditional ⊆ afterInfix ∧ closers ⊆ afterConditional :=
  ⟨List.subset_append_right _ _, List.subset_append_right _ _, List.subset_append_right _ _,
    List.subset_cons_self _ _, List.subset_append_right _ _⟩

/-- An operand starts with no blank, in parentheses or not. -/
theorem Expr.IsOperation.settled_wrappedIf (operation : e.IsOperation) (wrapped : Bool)
    (ends : startsWord rest = false) : startsBlank (e.wrappedIf wrapped ++ rest) = false := by
  cases wrapped with
  | true => rfl
  | false => exact operation.settled ends

/-- An operand is printed in tokens, in parentheses or not. -/
theorem Expr.IsOperation.lexed_wrappedIf (operation : e.IsOperation) (wrapped : Bool)
    (seam : Seam afterObject rest) : Lexed (e.wrappedIf wrapped ++ rest) := by
  obtain ⟨stack, code, lexes⟩ := seam.lexed
  have tokens : e.IsTokens := operation.isTokens
  exact ⟨stack, code, tokens.wrappedIf wrapped code lexes seam.ends
    fun here => absurd here seam.point⟩

/-- What is read as a primary expression is read as an object. -/
theorem ReadsObject.of_primary
    (reads : ∀ rest : List Char, Seam heads rest →
      Reads outermost (.once (.call .primaryExpression)) (e.wrappedIf wrapped ++ rest) rest
        [Stands e]) : ReadsObject heads wrapped e :=
  fun rest seam => ⟨e, [], rest, reads rest seam, .done rest, rfl⟩

/-- An operation in parentheses is an object. -/
theorem Expr.IsRead.readsObject (read : e.IsRead) : ReadsObject heads true e :=
  .of_primary fun _ seam => .parenthesized read seam.lexed

/-- An object before fewer texts is one. -/
theorem ReadsObject.mono {others : List Head} (object : ReadsObject others wrapped e)
    (all : heads ⊆ others) : ReadsObject heads wrapped e :=
  fun rest seam => object rest (seam.mono all)

/-- What is read inside an access or a call is made of tokens. -/
theorem Suffix.IsRead.isTokens {suffix : Suffix} (read : suffix.IsRead) : suffix.IsTokens := by
  cases suffix with
  | member name optional => exact read
  | index key optional => exact read.operation.isTokens
  | call arguments optional =>
    exact fun element member => (read element member).operation.isTokens

/-- An access or a call comes after its object as it is printed. -/
theorem startsIn_suffix (suffix : Suffix) (rest : List Char) :
    StartsIn afterName (suffix.characters ++ rest) := by
  rcases suffix with ⟨name, optional⟩ | ⟨key, optional⟩ | ⟨arguments, optional⟩
  · cases optional with
    | false =>
      exact ⟨.marks ['.'], by decide, Head.marks_fits rfl (by decide) (name.toList ++ rest)⟩
    | true =>
      exact ⟨.marks ['?', '.'], by decide, Head.marks_fits rfl (by decide) (name.toList ++ rest)⟩
  · cases optional with
    | false => exact ⟨.marks ['['], by decide, rfl, by decide, _, rfl⟩
    | true => exact ⟨.marks ['?', '.'], by decide, rfl, by decide, _, rfl⟩
  · cases optional with
    | false => exact ⟨.marks ['('], by decide, rfl, by decide, _, rfl⟩
    | true => exact ⟨.marks ['?', '.'], by decide, rfl, by decide, _, rfl⟩

/-- An access or a call may come after an object. -/
theorem Seam.suffix {suffix : Suffix} (read : suffix.IsRead) (seam : Seam heads rest) :
    Seam afterName (suffix.characters ++ rest) ∧
      startsBlank (suffix.characters ++ rest) = false := by
  obtain ⟨stack, code, lexes⟩ := seam.lexed
  have lexed : Lexed (suffix.characters ++ rest) :=
    ⟨stack, code, lexes_suffix read.isTokens code lexes seam.ends⟩
  have starts := startsIn_suffix suffix rest
  have settled := starts.settled afterName_settled
  refine ⟨⟨lexed, startsWord_suffix suffix rest, ?_⟩, settled⟩
  rw [afterBlanks_settled settled]
  exact starts

/-- An object with an access or a call after it is an object. -/
theorem ReadsObject.suffixed (object : ReadsObject afterName e.isWrappedObject e)
    {suffix : Suffix} (read : suffix.IsRead) : ReadsObject heads false (suffix.apply e) := by
  intro rest seam
  obtain ⟨later, settled⟩ := seam.suffix read
  obtain ⟨base, suffixes, middle, first, others, whole⟩ := object _ later
  have one := Reads.suffix read seam.lexed seam.ends
  rw [← padded_settled settled] at one
  refine ⟨base, suffixes ++ [suffix], middle, ?_, ?_, ?_⟩
  · change Reads _ _ ((suffix.apply e).characters ++ rest) _ _
    rw [characters_suffix, List.append_assoc]
    exact first
  · rw [List.map_append]
    exact others.last one
  · rw [List.foldl_append, whole]
    rfl

/-- An object is read by the rule for accesses and calls, up to the blanks after it. -/
theorem ReadsObject.leftHandSide (object : ReadsObject heads wrapped e) (all : heads ⊆ afterObject)
    (starts : StartsIn objectHeads (e.wrappedIf wrapped ++ rest)) (seam : Seam heads rest) :
    ∃ left, padded outermost left = afterBlanks rest ∧
      Reads outermost (.once (.call .leftHandSideExpression)) (e.wrappedIf wrapped ++ rest) left
        [Denotes .leftHandSideExpression e] := by
  have named : heads ⊆ afterName := List.Subset.trans all after_subset.1
  obtain ⟨base, suffixes, middle, first, others, whole⟩ := object _ seam
  have none : Rejects outermost (.once (.call .callSuffix)) (padded outermost rest) := by
    rw [padded_outermost]
    exact .callSuffix rfl (seam.starts.mono all)
  obtain ⟨left, ends, more⟩ := others.reads_many none
  have primary : Reads outermost (.once (firstOf [.call .newExpression, .call .primaryExpression]))
      (e.wrappedIf wrapped ++ rest) middle [Stands base] :=
    .choice_second (.of_heads starts (by decide) rfl rfl) first
  refine ⟨left, ?_, .node nofun rfl (primary.seq more) fun node children same _ meets => ?_⟩
  · rcases ends with rfl | rfl
    · exact padded_outermost _
    · rw [padded_outermost rest]
      exact seam.padded_padded named
  · rw [← whole]
    exact denotes_suffixed same meets

/-- No type assertion comes after an operand. -/
theorem Reads.no_assertion (seam : Seam heads rest) (all : heads ⊆ afterObject) :
    Reads outermost (.once (.many (.call .typeAssertion))) (afterBlanks rest) (afterBlanks rest)
      [] :=
  .many_none (.typeAssertion (seam.starts.mono all))

/-- An object is read by the rule for changes after their target. -/
theorem ReadsObject.unchanged (object : ReadsObject afterOperand wrapped e)
    (starts : ∀ {rest : List Char}, startsWord rest = false →
      StartsIn objectHeads (e.wrappedIf wrapped ++ rest)) : ReadsPostfix wrapped e := by
  intro rest seam
  have all := after_subset.2.1
  have named : afterOperand ⊆ afterName := List.Subset.trans all after_subset.1
  obtain ⟨left, ends, read⟩ := object.leftHandSide all (starts seam.ends) seam
  have noChange : Reads outermost (.once (.maybe (.call .postfixOperator))) (padded outermost left)
      (afterBlanks rest) [] := by
    rw [ends]
    exact .maybe_none (.postfixOperator seam.starts)
  have noAssertion : Reads outermost (.once (.many (.call .typeAssertion)))
      (padded outermost (afterBlanks rest)) (afterBlanks rest) [] := by
    rw [seam.padded_padded named]
    exact .no_assertion seam all
  exact .node nofun rfl (read.seq (noChange.seq noAssertion)) fun node children same _ meets =>
    denotes_passes rfl (fun child denotes => denotes.stands rfl) same meets

/-- A change by one after its target is read. -/
theorem Reads.postfixOperator (operator : UpdateOperator) (rest : List Char) :
    Reads outermost (.once (.call .postfixOperator)) (operator.spelling.toList ++ rest) rest
      [Marks (postfixRule operator)] := by
  refine .hidden rfl ?_
  cases operator with
  | increment =>
    have mark : Reads outermost (.once (.call .postIncrement)) ("++".toList ++ rest) rest
        [Marks .postIncrement] := .marks_node rfl rfl rfl rest
    exact mark.choice_first _
  | decrement =>
    have mark : Reads outermost (.once (.call .postDecrement)) ("--".toList ++ rest) rest
        [Marks .postDecrement] := .marks_node rfl rfl rfl rest
    exact .choice_second (.call (.literal_head _ _ _ (by decide))) mark

/-- A change by one after its target is read by the rule for such changes. -/
theorem ReadsObject.changed (object : ReadsObject afterObject false e)
    (operation : e.IsOperation) (writable : e.isWritable = true) (operator : UpdateOperator) :
    ReadsPostfix false (.update operator false e) := by
  intro rest seam
  have all := after_subset.2.1
  obtain ⟨stack, code, lexes⟩ := seam.lexed
  have lexed : Lexed (operator.spelling.toList ++ rest) :=
    ⟨stack, code, .updateOperator operator code lexes⟩
  have ends : startsWord (operator.spelling.toList ++ rest) = false := by cases operator <;> rfl
  have settled : startsBlank (operator.spelling.toList ++ rest) = false := by
    cases operator <;> rfl
  have starts : StartsIn afterObject (operator.spelling.toList ++ rest) :=
    ⟨changer operator, mem_changer operator, changer_fits operator rest⟩
  have later : Seam afterObject (operator.spelling.toList ++ rest) :=
    ⟨lexed, ends, by rw [afterBlanks_settled settled]; exact starts⟩
  have begins : StartsIn objectHeads (e.characters ++ (operator.spelling.toList ++ rest)) :=
    (operation.startsIn ends).mono (headsFrom_subset (strength_of_isWritable writable))
  obtain ⟨left, stays, read⟩ := object.leftHandSide (List.Subset.refl _) begins later
  have change : Reads outermost (.once (.maybe (.call .postfixOperator))) (padded outermost left)
      rest [Marks (postfixRule operator)] := by
    rw [stays, afterBlanks_settled settled]
    exact .maybe_some (.postfixOperator operator rest)
  have noAssertion : Reads outermost (.once (.many (.call .typeAssertion))) (padded outermost rest)
      (afterBlanks rest) [] := by
    rw [padded_outermost]
    exact .no_assertion seam all
  have whole : (Expr.update operator false e).wrappedIf false ++ rest =
      e.characters ++ (operator.spelling.toList ++ rest) := by
    rw [← List.append_assoc]
    exact congrArg (· ++ rest) (characters_update operator false writable)
  rw [whole]
  refine .node nofun rfl (read.seq (change.seq noAssertion)) fun node children same _ meets => ?_
  exact denotes_update writable same meets

end

end PluginSandbox.Syntax
