import PluginSandbox.Proofs.Syntax.Objects

/-!
# Reading prefix operations

Operators before an operand are read one by one, and none of them runs into the text after it. An
operand of an infix operator is an object, a change by one or a prefix operation.
-/
namespace PluginSandbox.Syntax

open Peg.Grammar (outermost inside)
open Peg.Expression (firstOf)

namespace PrefixOperation

/-- The blank between an operation and its operand, for those that are words. -/
def gap : PrefixOperation → List Char
  | .unary operator => operator.gap
  | .update _ => []
  | .await => [' ']

/-- The characters of an operation before its operand. -/
def characters : PrefixOperation → List Char
  | .unary operator => operator.spelling.toList ++ operator.gap
  | .update operator => operator.spelling.toList
  | .await => "await ".toList

/-- Whether an operation has its operand in parentheses. -/
def wraps : PrefixOperation → Expr → Bool
  | .unary operator, operand => operator.wraps operand
  | .update _, _ => false
  | .await, operand => operand.strength < unaryStrength

/-- Whether a text makes a sign before it a change by one. -/
def clashes : PrefixOperation → List Char → Bool
  | .unary .minus, text => text.head? = some '-'
  | .unary .plus, text => text.head? = some '+'
  | _, _ => false

end PrefixOperation

/-- An operand is read as prefix operators before what is read by the rule for changes after their
target. -/
def ReadsPrefixed (wrapped : Bool) (e : Expr) : Prop :=
  ∀ rest text : List Char, Seam afterOperand rest →
    padded outermost text = e.wrappedIf wrapped ++ rest →
    ∃ (operations : List PrefixOperation) (base : Expr) (middle : List Char),
      Repeats outermost (.call .prefixOperator) text middle
          (operations.map fun operation => Marks operation.rule) ∧
        StartsIn objectHeads (padded outermost middle) ∧
          Reads outermost (.once (.call .postfixExpression)) (padded outermost middle)
            (afterBlanks rest) [Denotes .postfixExpression base] ∧
              Prefixed operations base e

/-- What prefix operators are tried as, in order. -/
def prefixRules : List Rule :=
  [.preIncrement, .preDecrement, .logicalNot, .negate, .unaryPlus, .bitwiseNot, .keyword .typeof,
    .keyword .void, .keyword .delete, .keyword .await]

section

variable {rest text : List Char} {e : Expr} {wrapped : Bool}

/-- The characters of a prefix operation come before those of its operand. -/
theorem characters_prefixed {operation : PrefixOperation} (allows : operation.Allows e) :
    (operation.apply e).characters =
      operation.characters ++ e.wrappedIf (operation.wraps e) := by
  cases operation with
  | unary operator => exact characters_unary operator e
  | update operator => exact characters_update operator true allows
  | await => exact characters_await e

/-- An operation starts with some character. -/
theorem Expr.IsOperation.characters_ne_nil (operation : e.IsOperation) : e.characters ≠ [] := by
  intro empty
  obtain ⟨head, member, fits⟩ := operation.startsIn (show startsWord [] = false from rfl)
  rw [empty] at fits
  cases head with
  | marks known => exact fits.2.1 (List.prefix_nil.mp fits.2.2)
  | named word => exact Bool.false_ne_true (by rw [← fits.1] at fits; exact fits.2)
  | plain => exact Bool.false_ne_true fits.1
  | digit =>
    obtain ⟨c, others, same, _⟩ := fits
    cases same

/-- A sign is printed so that it does not form a change by one with its operand. -/
theorem clashes_operand (operation : e.IsOperation) (prefixed : PrefixOperation)
    (rest : List Char) :
    prefixed.clashes (e.wrappedIf (prefixed.wraps e) ++ rest) = false := by
  have sign (operator : UnaryOperator) (c : Char) (spelled : operator.spelling.toList = [c])
      (signs : operator = .minus ∨ operator = .plus) (other : c ≠ '(') :
      (e.wrappedIf (operator.wraps e) ++ rest).head? ≠ some c := by
    intro same
    cases wraps : operator.wraps e with
    | true =>
      rw [wraps] at same
      exact other (Option.some.inj same).symm
    | false =>
      rw [wraps] at same
      have bare := wraps
      rw [UnaryOperator.wraps, Bool.or_eq_false_iff, spelled] at bare
      obtain ⟨d, others, spelling⟩ := List.exists_cons_of_ne_nil operation.characters_ne_nil
      rw [Expr.wrappedIf, if_neg Bool.false_ne_true, spelling] at same
      cases Option.some.inj same
      have starts : ([c].isPrefixOf e.characters) = true := by
        rw [spelling]
        simp [List.isPrefixOf]
      rw [starts] at bare
      rcases signs with rfl | rfl <;> cases bare.2
  rcases prefixed with operator | operator | _
  · cases operator with
    | minus => exact decide_eq_false (sign .minus '-' rfl (.inl rfl) (by decide))
    | plus => exact decide_eq_false (sign .plus '+' rfl (.inr rfl) (by decide))
    | _ => rfl
  · rfl
  · rfl

/-- A prefix operator is read by one rule if the rules before it do not fit. -/
theorem Reads.prefixRule {asked : List Asked} (before : List Rule) {rule : Rule}
    {after : List Rule} (split : prefixRules = before ++ rule :: after)
    (earlier : ∀ other ∈ before, Rejects outermost (.once (.call other)) text)
    (one : Reads outermost (.once (.call rule)) text rest asked) :
    Reads outermost (.once (.call .prefixOperator)) text rest asked := by
  refine .hidden rfl ?_
  change Reads outermost (.once (firstOf (prefixRules.map .call))) _ _ _
  rw [split, List.map_append, List.map_cons]
  refine .firstOf_split (fun other member => ?_) one
  obtain ⟨rule, listed, rfl⟩ := List.mem_map.mp member
  exact earlier rule listed

/-- A prefix operator is read by one rule if the rules before it do not open with its beginning. -/
theorem Reads.prefixRule_among {asked : List Asked} (head : Head) (fits : head.Fits text)
    (before : List Rule) {rule : Rule} {after : List Rule}
    (split : prefixRules = before ++ rule :: after)
    (shut : (before.all fun other => !Peg.Expression.isNullable ranking (.call other) &&
      head.isSettled && !head.opens 64 (.call other)) = true)
    (one : Reads outermost (.once (.call rule)) text rest asked) :
    Reads outermost (.once (.call .prefixOperator)) text rest asked := by
  refine .prefixRule before split (fun other member => ?_) one
  have facts := List.all_eq_true.mp shut other member
  simp only [Bool.and_eq_true, Bool.not_eq_true'] at facts
  exact .of_head head fits (head.settled fits facts.1.2) rfl facts.1.1 facts.2

/-- A prefix operator that is a word is read. -/
theorem Reads.prefixWord (word : Keyword) (before : List Rule) {after : List Rule}
    (split : prefixRules = before ++ .keyword word :: after)
    (isWord : word.spelling.toList.all isIdentifierChar = true)
    (starts : startsName word.spelling.toList = true)
    (shut : (before.all fun other => !Peg.Expression.isNullable ranking (.call other) &&
      (Head.named word.spelling.toList).isSettled &&
        !(Head.named word.spelling.toList).opens 64 (.call other)) = true) (rest : List Char) :
    Reads outermost (.once (.call .prefixOperator)) (word.spelling.toList ++ ' ' :: rest)
      (' ' :: rest) [Marks (.keyword word)] := by
  have first : firstWord (word.spelling.toList ++ ' ' :: rest) = word.spelling.toList :=
    firstWord_append isWord rfl
  have known : firstWord (word.spelling.toList ++ ' ' :: rest) ∈
      (Rule.keyword word).words.map String.toList := by
    rw [first]
    exact List.mem_map_of_mem (List.mem_singleton_self _)
  have one := Reads.words_node (.keyword word) (word.spelling.toList ++ ' ' :: rest)
    (show outermost.makesNodes = true from rfl) known
  rw [dropWord_append isWord rfl] at one
  exact .prefixRule_among _ (Head.named_fits isWord starts rfl) before split shut one

/-- A mark that the text after it does not repeat is no change by one. -/
theorem Rejects.double {c : Char} (others : rest.head? ≠ some c) :
    Rejects outermost (.once (.literal [c, c])) ([c] ++ rest) := by
  refine .literal outermost _ _ ?_
  cases rest with
  | nil => simp [List.isPrefixOf]
  | cons d rest =>
    have differs : d ≠ c := fun same => others (congrArg some same)
    simp [List.isPrefixOf, differs.symm]

/-- A sign is read, unless the text after it makes it a change by one. -/
theorem Reads.sign (operator : UnaryOperator) (signs : operator = .minus ∨ operator = .plus)
    (apart : (PrefixOperation.unary operator).clashes rest = false) :
    Reads outermost (.once (.call .prefixOperator)) (operator.spelling.toList ++ rest) rest
      [Marks (PrefixOperation.unary operator).rule] := by
  have other {c d : Char} (differs : c ≠ d) {rule : Rule} {characters : List Char}
      (body : rule.body = .literal (d :: characters)) :
      Rejects outermost (.once (.call rule)) ([c] ++ rest) := by
    refine .call ?_
    rw [body]
    exact .literal_head _ characters rest differs
  rcases signs with rfl | rfl
  · refine .prefixRule [.preIncrement, .preDecrement, .logicalNot] rfl (fun rule member => ?_)
      (.marks_node rfl rfl rfl rest)
    simp only [List.mem_cons, List.not_mem_nil, or_false] at member
    rcases member with rfl | rfl | rfl
    · exact other (by decide) rfl
    · exact .call (.double (of_decide_eq_false apart))
    · exact other (by decide) rfl
  · refine .prefixRule [.preIncrement, .preDecrement, .logicalNot, .negate] rfl
      (fun rule member => ?_) (.marks_node rfl rfl rfl rest)
    simp only [List.mem_cons, List.not_mem_nil, or_false] at member
    rcases member with rfl | rfl | rfl | rfl
    · exact .call (.double (of_decide_eq_false apart))
    · exact other (by decide) rfl
    · exact other (by decide) rfl
    · exact other (by decide) rfl

/-- A prefix operator is read, unless the text after it makes it a change by one. -/
theorem Reads.prefixOperator (operation : PrefixOperation)
    (apart : operation.clashes rest = false) :
    Reads outermost (.once (.call .prefixOperator)) (operation.characters ++ rest)
      (operation.gap ++ rest) [Marks operation.rule] := by
  have marks (known : List Char) (marks : startsWord known = false) (filled : known ≠ []) :
      (Head.marks known).Fits (known ++ rest) := Head.marks_fits marks filled rest
  rcases operation with operator | operator | _
  · cases operator with
    | minus => exact .sign .minus (.inl rfl) apart
    | plus => exact .sign .plus (.inr rfl) apart
    | logicalNot =>
      exact .prefixRule_among _ (marks ['!'] rfl (by decide)) (prefixRules.take 2) rfl
        (by decide) (.marks_node rfl rfl rfl rest)
    | bitwiseNot =>
      exact .prefixRule_among _ (marks ['~'] rfl (by decide)) (prefixRules.take 5) rfl
        (by decide) (.marks_node rfl rfl rfl rest)
    | typeOf =>
      exact .prefixWord .typeof (prefixRules.take 6) rfl (by decide) rfl (by decide) rest
    | void =>
      exact .prefixWord .void (prefixRules.take 7) rfl (by decide) rfl (by decide) rest
    | delete =>
      exact .prefixWord .delete (prefixRules.take 8) rfl (by decide) rfl (by decide) rest
  · cases operator with
    | increment => exact .prefixRule [] rfl nofun (.marks_node rfl rfl rfl rest)
    | decrement =>
      exact .prefixRule_among _ (marks ['-', '-'] rfl (by decide)) (prefixRules.take 1) rfl
        (by decide) (.marks_node rfl rfl rfl rest)
  · exact .prefixWord .await (prefixRules.take 9) rfl (by decide) rfl (by decide) rest

/-- What the rule for changes after their target reads is read without prefix operators. -/
theorem ReadsPostfix.prefixed (operand : ReadsPostfix wrapped e)
    (starts : ∀ {rest : List Char}, startsWord rest = false →
      StartsIn objectHeads (e.wrappedIf wrapped ++ rest)) : ReadsPrefixed wrapped e := by
  intro rest text seam here
  refine ⟨[], e, text, .done text, ?_, ?_, .operand e⟩
  · rw [here]
    exact starts seam.ends
  · rw [here]
    exact operand rest seam

/-- A prefix operation on an operand is read. -/
theorem ReadsPrefixed.applied {operation : PrefixOperation}
    (operand : ReadsPrefixed (operation.wraps e) e) (isOperation : e.IsOperation)
    (allows : operation.Allows e) : ReadsPrefixed false (operation.apply e) := by
  intro rest text seam here
  have settled := isOperation.settled_wrappedIf (operation.wraps e) seam.ends
  have whole : (operation.apply e).wrappedIf false ++ rest =
      operation.characters ++ (e.wrappedIf (operation.wraps e) ++ rest) := by
    rw [← List.append_assoc]
    exact congrArg (· ++ rest) (characters_prefixed allows)
  have later : padded outermost (operation.gap ++ (e.wrappedIf (operation.wraps e) ++ rest)) =
      e.wrappedIf (operation.wraps e) ++ rest := by
    have gap : operation.gap = [] ∨ operation.gap = [' '] := by
      rcases operation with operator | operator | _
      · cases operator <;> first | exact .inl rfl | exact .inr rfl
      · exact .inl rfl
      · exact .inr rfl
    rcases gap with none | blank
    · rw [none]
      exact padded_settled settled
    · rw [blank, padded_outermost]
      exact afterBlanks_spaced settled
  obtain ⟨operations, base, middle, others, starts, last, inner⟩ := operand rest _ seam later
  have one := Reads.prefixOperator operation (clashes_operand isOperation operation rest)
  rw [← whole, ← here] at one
  exact ⟨operation :: operations, base, middle, .more one others, starts, last,
    .operation operation allows inner⟩

/-- A prefix operation is read by the rule for them. -/
theorem ReadsPrefixed.unaryExpression (operand : ReadsPrefixed wrapped e)
    (isOperation : e.IsOperation) (seam : Seam afterOperand rest) :
    Reads outermost (.once (.call .unaryExpression)) (e.wrappedIf wrapped ++ rest)
      (afterBlanks rest) [Denotes .unaryExpression e] := by
  have settled := isOperation.settled_wrappedIf wrapped seam.ends
  obtain ⟨operations, base, middle, others, starts, last, whole⟩ :=
    operand rest _ seam (padded_settled settled)
  have none : Rejects outermost (.once (.call .prefixOperator)) (padded outermost middle) :=
    .of_heads starts (by decide) rfl rfl
  obtain ⟨left, ends, operators⟩ := others.reads_many none
  rw [padded_settled settled] at operators
  have stays : padded outermost left = padded outermost middle := by
    rcases ends with rfl | rfl
    · rfl
    · exact padded_settled (starts.settled (by decide))
  rw [← stays] at last
  exact .node nofun rfl (operators.seq last) fun node children same _ meets =>
    denotes_prefixed whole same meets

/-- Of two choices that read the same, one is taken if a test fails, and else the other. -/
theorem Reads.unless {guard e after : Peg.Expression Rule} {asked : List Asked}
    (ranked : guard.isRanked ranking = true) (settled : padded outermost text = text)
    (first : Reads outermost (.once e) text rest asked)
    (second : Reads outermost (.once (.seq e after)) text rest asked) :
    Reads outermost (.once (.choice (.seq (.notAhead guard) e) (.seq e after))) text rest asked := by
  intro place here
  obtain ⟨result, derived⟩ := ranking_fits.total outermost.refuting guard place ranked
  cases result with
  | none =>
    obtain ⟨stop, trees, one, leaves, meets⟩ :=
      first (grammar.padded outermost place) (by rw [padded_rest, here, settled])
    exact ⟨stop, trees, .choiceFirst (.seq (.notAhead derived) one), leaves, meets⟩
  | some found =>
    obtain ⟨stop, trees, other, leaves, meets⟩ := second place here
    exact ⟨stop, trees, .choiceSecond (.seqFails (.notAheadFails derived)) other, leaves, meets⟩

/-- A prefix operation is read as an operand, unless it is the left operand of a power. -/
theorem ReadsPrefixed.binaryOperand (operand : ReadsPrefixed wrapped e)
    (isOperation : e.IsOperation) (seam : Seam afterOperand rest)
    (allowed : StartsIn (headsFrom updateStrength) (e.wrappedIf wrapped ++ rest) ∨
      "**".toList.isPrefixOf (afterBlanks rest) = false) :
    Reads outermost (.once (.call .binaryOperand)) (e.wrappedIf wrapped ++ rest)
      (afterBlanks rest) [Denotes .unaryExpression e] := by
  have settled : padded outermost (e.wrappedIf wrapped ++ rest) = e.wrappedIf wrapped ++ rest :=
    padded_settled (isOperation.settled_wrappedIf wrapped seam.ends)
  have read := operand.unaryExpression isOperation seam
  refine .hidden rfl ?_
  rcases allowed with starts | noPower
  · have free : Reads outermost (.once (.notAhead (.call .unaryOperatorStart)))
        (e.wrappedIf wrapped ++ rest) (e.wrappedIf wrapped ++ rest) [] :=
      .notAhead (.unaryOperatorStart rfl starts)
    have guarded := free.seq (by rw [settled]; exact read)
    exact guarded.choice_first _
  · have named : afterOperand ⊆ afterName :=
      List.Subset.trans after_subset.2.1 after_subset.1
    have alone : Reads outermost (.once (.notAhead (.call (.operator (.binary .exponent)))))
        (padded outermost (afterBlanks rest)) (afterBlanks rest) [] := by
      rw [seam.padded_padded named]
      exact .notAhead (.call (.literal _ _ _ noPower))
    exact .unless rfl settled read (read.seq alone)

end

end PluginSandbox.Syntax
