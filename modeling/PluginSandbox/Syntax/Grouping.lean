import PluginSandbox.Syntax.Operator

/-!
# Grouping infix operations

A chain of operands with operators between them is grouped by the strengths of the operators.
Pending left operands wait on a stack until an operator follows that does not take the operand
between them for itself.
-/
namespace PluginSandbox.Syntax

/-- Whether an operator takes the operand between it and the next operator for itself. -/
def InfixOperator.bindsBefore (operator next : InfixOperator) : Bool :=
  next.strength < operator.strength
    || (operator.strength == next.strength && !next.groupsRight)

/-- Left operands with their operators, the last one first. -/
abbrev Pending (α : Type) := List (α × InfixOperator)

/-- Combines the pending operands whose operators bind before the next one. -/
def combinePending {α : Type} (combine : InfixOperator → α → α → α)
    (binds : InfixOperator → Bool) : Pending α → α → Pending α × α
  | [], right => ([], right)
  | (left, operator) :: pending, right =>
    if binds operator then combinePending combine binds pending (combine operator left right)
    else ((left, operator) :: pending, right)

/-- Groups a chain that goes on after some pending operands and one more operand. -/
def groupFrom {α : Type} (combine : InfixOperator → α → α → α) :
    Pending α → α → List (InfixOperator × α) → α
  | pending, operand, [] => (combinePending combine (fun _ => true) pending operand).2
  | pending, operand, (operator, next) :: chain =>
    let (pending, left) := combinePending combine (·.bindsBefore operator) pending operand
    groupFrom combine ((left, operator) :: pending) next chain

/-- Groups a chain of operands with operators between them. -/
def group {α : Type} (combine : InfixOperator → α → α → α) (first : α)
    (chain : List (InfixOperator × α)) : α :=
  groupFrom combine [] first chain

end PluginSandbox.Syntax
