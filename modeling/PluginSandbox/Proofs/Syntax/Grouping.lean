import PluginSandbox.Syntax.Grouping

/-!
# Operands that need no parentheses

The printer puts an operand of an infix operator in parentheses unless the operations in it are
strong enough. Then the reader, which sees one chain of operands and operators, groups the chain
as it was before.
-/
namespace PluginSandbox.Syntax

namespace InfixOperator

/-- The strength that the operand before an operator needs to stand without parentheses. -/
def leftNeed : InfixOperator → Nat
  | .binary .exponent => 16
  | .logical .nullish => 6
  | operator => operator.strength

/-- The strength that the operand after an operator needs to stand without parentheses. -/
def rightNeed : InfixOperator → Nat
  | .binary .exponent => 14
  | .logical .nullish => 6
  | operator => operator.strength + 1

/-- Only a power groups from the right, and nothing else is as strong. -/
theorem groupsRight_eq (operator : InfixOperator) :
    operator.groupsRight = decide (operator.strength = 14) := by
  rcases operator with operator | operator <;> cases operator <;> rfl

/-- No infix operator is stronger than a power. -/
theorem strength_le (operator : InfixOperator) : operator.strength ≤ 14 := by
  rcases operator with operator | operator <;> cases operator <;> decide

/-- What an operator asks of the operand before it, in terms of its strength. -/
theorem leftNeed_cases (operator : InfixOperator) :
    (operator.strength = 14 ∧ operator.leftNeed = 16) ∨
      (operator.strength = 3 ∧ operator.leftNeed = 6) ∨
      (operator.strength ≠ 14 ∧ operator.leftNeed = operator.strength) := by
  rcases operator with operator | operator <;> cases operator <;> decide

/-- What an operator asks of the operand after it, in terms of its strength. -/
theorem rightNeed_cases (operator : InfixOperator) :
    (operator.strength = 14 ∧ operator.rightNeed = 14) ∨
      (operator.strength = 3 ∧ operator.rightNeed = 6) ∨
      (operator.strength ≠ 14 ∧ operator.rightNeed = operator.strength + 1) := by
  rcases operator with operator | operator <;> cases operator <;> decide

/-- No operand of an infix operator is a choice or an assignment without parentheses. -/
theorem needs (operator : InfixOperator) : 2 < operator.leftNeed ∧ 2 < operator.rightNeed := by
  rcases operator with operator | operator <;> cases operator <;> decide

/-- An operator binds before the next one if it is stronger, or as strong and no power. -/
theorem bindsBefore_iff (operator next : InfixOperator) :
    operator.bindsBefore next = true ↔
      next.strength < operator.strength ∨
        (operator.strength = next.strength ∧ next.strength ≠ 14) := by
  rw [bindsBefore, groupsRight_eq]
  simp

/-- An operation that is strong enough for the operand before an operator is combined first. -/
theorem bindsBefore_of_leftNeed {inner operator : InfixOperator}
    (strong : operator.leftNeed ≤ inner.strength) : inner.bindsBefore operator = true := by
  rw [bindsBefore_iff]
  have most := inner.strength_le
  have need := operator.leftNeed_cases
  omega

/-- An operation that is strong enough for the operand after an operator is combined first. -/
theorem not_bindsBefore_of_rightNeed {operator inner : InfixOperator}
    (strong : operator.rightNeed ≤ inner.strength) : operator.bindsBefore inner = false := by
  rw [← Bool.not_eq_true, bindsBefore_iff]
  have most := inner.strength_le
  have need := operator.rightNeed_cases
  omega

end InfixOperator

section

variable {α β : Type} {combine : InfixOperator → α → α → α}

/-- Whether no operation of at least a strength has its first operand taken by a pending
operator. -/
def Waits (needed : Nat) (pending : Pending α) : Prop :=
  ∀ operator : InfixOperator, needed ≤ operator.strength →
    ∀ waiting ∈ pending.head?, waiting.2.bindsBefore operator = false

/-- Whether every operation of at least a strength is combined before a chain goes on. -/
def Yields (needed : Nat) (chain : List (InfixOperator × α)) : Prop :=
  ∀ operator : InfixOperator, needed ≤ operator.strength →
    ∀ next ∈ chain.head?, operator.bindsBefore next.1 = true

/-- A chain stands for one operand, wherever operations of at least a strength may stand. -/
def Groups (combine : InfixOperator → α → α → α) (needed : Nat) (first : α)
    (chain : List (InfixOperator × α)) (whole : α) : Prop :=
  ∀ (pending : Pending α) (more : List (InfixOperator × α)), Waits needed pending →
    Yields needed more →
    groupFrom combine pending first (chain ++ more) = groupFrom combine pending whole more

/-- An operand stands for itself. -/
theorem Groups.operand (combine : InfixOperator → α → α → α) (needed : Nat) (whole : α) :
    Groups combine needed whole [] whole :=
  fun _ _ _ _ => rfl

/-- Pending operands wait where none of their operators binds. -/
theorem combinePending_waits {binds : InfixOperator → Bool} {pending : Pending α} (right : α)
    (waits : ∀ waiting ∈ pending.head?, binds waiting.2 = false) :
    combinePending combine binds pending right = (pending, right) := by
  cases pending with
  | nil => rfl
  | cons waiting pending =>
    obtain ⟨left, operator⟩ := waiting
    have stays := waits (left, operator) rfl
    rw [combinePending, if_neg (by rw [stays]; exact Bool.false_ne_true)]

/-- An operation is combined once the chain after it goes on or ends. -/
theorem groupFrom_combine (pending : Pending α) (operator : InfixOperator) (left right : α)
    (more : List (InfixOperator × α))
    (yields : ∀ next ∈ more.head?, operator.bindsBefore next.1 = true) :
    groupFrom combine ((left, operator) :: pending) right more =
      groupFrom combine pending (combine operator left right) more := by
  cases more with
  | nil => rfl
  | cons next more =>
    obtain ⟨next, operand⟩ := next
    have binds := yields (next, operand) rfl
    rw [groupFrom, groupFrom, combinePending, if_pos binds]

/-- Chains that stand for the operands of an operator stand, with the operator between them, for
the operation. -/
theorem Groups.operation {needed : Nat} {operator : InfixOperator} {first second left right : α}
    {chain others : List (InfixOperator × α)} (strong : needed ≤ operator.strength)
    (before : Groups combine operator.leftNeed first chain left)
    (after : Groups combine operator.rightNeed second others right) :
    Groups combine needed first (chain ++ (operator, second) :: others)
      (combine operator left right) := by
  intro pending more waits yields
  have lower : needed ≤ operator.leftNeed ∧ needed ≤ operator.rightNeed := by
    have leftNeed := operator.leftNeed_cases
    have rightNeed := operator.rightNeed_cases
    omega
  have waitsLeft : Waits operator.leftNeed pending :=
    fun inner need => waits inner (Nat.le_trans lower.1 need)
  have yieldsLeft : Yields operator.leftNeed ((operator, second) :: (others ++ more)) := by
    rintro inner need _ ⟨⟩
    exact InfixOperator.bindsBefore_of_leftNeed need
  have waitsRight : Waits operator.rightNeed ((left, operator) :: pending) := by
    rintro inner need _ ⟨⟩
    exact InfixOperator.not_bindsBefore_of_rightNeed need
  have yieldsRight : Yields operator.rightNeed more :=
    fun inner need => yields inner (Nat.le_trans lower.2 need)
  calc groupFrom combine pending first ((chain ++ (operator, second) :: others) ++ more)
      = groupFrom combine pending first (chain ++ ((operator, second) :: (others ++ more))) := by
        rw [List.append_assoc, List.cons_append]
    _ = groupFrom combine pending left ((operator, second) :: (others ++ more)) :=
        before pending _ waitsLeft yieldsLeft
    _ = groupFrom combine ((left, operator) :: pending) second (others ++ more) := by
        rw [groupFrom, combinePending_waits left (waits operator strong)]
    _ = groupFrom combine ((left, operator) :: pending) right more :=
        after _ more waitsRight yieldsRight
    _ = groupFrom combine pending (combine operator left right) more :=
        groupFrom_combine pending operator left right more (yields operator strong)

/-- A chain that stands for an operand is grouped to it. -/
theorem Groups.group_eq {needed : Nat} {first whole : α} {chain : List (InfixOperator × α)}
    (groups : Groups combine needed first chain whole) : group combine first chain = whole := by
  have alone := groups [] [] (fun _ _ _ member => nomatch member) (fun _ _ _ member => nomatch member)
  rw [List.append_nil] at alone
  exact alone

variable {combineToo : InfixOperator → β → β → β} {f : α → β}

/-- Combining pending operands goes along with a map that keeps the operations. -/
theorem combinePending_map (keeps : ∀ operator left right,
      f (combine operator left right) = combineToo operator (f left) (f right))
    (binds : InfixOperator → Bool) (pending : Pending α) (right : α) :
    combinePending combineToo binds (pending.map fun waiting => (f waiting.1, waiting.2)) (f right)
      = ((combinePending combine binds pending right).1.map fun waiting => (f waiting.1, waiting.2),
        f (combinePending combine binds pending right).2) := by
  induction pending generalizing right with
  | nil => rfl
  | cons waiting pending ih =>
    obtain ⟨left, operator⟩ := waiting
    rw [List.map_cons, combinePending, combinePending]
    split
    case isTrue => rw [← keeps, ih]
    case isFalse => rfl

/-- Grouping goes along with a map that keeps the operations. -/
theorem groupFrom_map (keeps : ∀ operator left right,
      f (combine operator left right) = combineToo operator (f left) (f right))
    (pending : Pending α) (operand : α) (chain : List (InfixOperator × α)) :
    f (groupFrom combine pending operand chain) =
      groupFrom combineToo (pending.map fun waiting => (f waiting.1, waiting.2)) (f operand)
        (chain.map fun next => (next.1, f next.2)) := by
  induction chain generalizing pending operand with
  | nil => rw [groupFrom, List.map_nil, groupFrom, combinePending_map keeps]
  | cons next chain ih =>
    obtain ⟨operator, operand'⟩ := next
    rw [groupFrom, List.map_cons, groupFrom, combinePending_map keeps]
    exact ih _ _

/-- Grouping goes along with a map that keeps the operations. -/
theorem group_map (keeps : ∀ operator left right,
      f (combine operator left right) = combineToo operator (f left) (f right))
    (first : α) (chain : List (InfixOperator × α)) :
    f (group combine first chain) =
      group combineToo (f first) (chain.map fun next => (next.1, f next.2)) :=
  groupFrom_map keeps [] first chain

end

end PluginSandbox.Syntax
