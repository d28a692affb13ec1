/-!
# Operators

The operators of the script language with their spelling and their binding strength. A larger
strength binds tighter, and the printer and the reader of expressions use the same numbers.
-/
namespace PluginSandbox.Syntax

/-- Operators before one operand. -/
inductive UnaryOperator where
  | minus | plus | logicalNot | bitwiseNot | typeOf | void | delete
  deriving DecidableEq, Repr

/-- Operators that change a variable or a property by one. -/
inductive UpdateOperator where
  | increment | decrement
  deriving DecidableEq, Repr

/-- Operators between two operands that are both evaluated. -/
inductive BinaryOperator where
  | strictEqual | strictUnequal | looseEqual | looseUnequal
  | less | greater | lessEqual | greaterEqual
  | add | subtract | multiply | divide | modulo | exponent
  | bitOr | bitXor | bitAnd | isIn | instanceOf
  deriving DecidableEq, Repr

/-- Operators between two operands of which the second may be left out. -/
inductive LogicalOperator where
  | or | and | nullish
  deriving DecidableEq, Repr

/-- Operators that write to a variable or a property. -/
inductive AssignmentOperator where
  | assign
  | add | subtract | multiply | divide | modulo
  | or | and | nullish
  deriving DecidableEq, Repr

/-- The spelling of an operator. -/
def UnaryOperator.spelling : UnaryOperator → String
  | .minus => "-"
  | .plus => "+"
  | .logicalNot => "!"
  | .bitwiseNot => "~"
  | .typeOf => "typeof"
  | .void => "void"
  | .delete => "delete"

/-- Whether an operator is spelled as a word. -/
def UnaryOperator.isWord : UnaryOperator → Bool
  | .typeOf | .void | .delete => true
  | _ => false

/-- The spelling of an operator. -/
def UpdateOperator.spelling : UpdateOperator → String
  | .increment => "++"
  | .decrement => "--"

/-- The spelling of an operator. -/
def BinaryOperator.spelling : BinaryOperator → String
  | .strictEqual => "==="
  | .strictUnequal => "!=="
  | .looseEqual => "=="
  | .looseUnequal => "!="
  | .less => "<"
  | .greater => ">"
  | .lessEqual => "<="
  | .greaterEqual => ">="
  | .add => "+"
  | .subtract => "-"
  | .multiply => "*"
  | .divide => "/"
  | .modulo => "%"
  | .exponent => "**"
  | .bitOr => "|"
  | .bitXor => "^"
  | .bitAnd => "&"
  | .isIn => "in"
  | .instanceOf => "instanceof"

/-- The spelling of an operator. -/
def LogicalOperator.spelling : LogicalOperator → String
  | .or => "||"
  | .and => "&&"
  | .nullish => "??"

/-- The spelling of an operator. -/
def AssignmentOperator.spelling : AssignmentOperator → String
  | .assign => "="
  | .add => "+="
  | .subtract => "-="
  | .multiply => "*="
  | .divide => "/="
  | .modulo => "%="
  | .or => "||="
  | .and => "&&="
  | .nullish => "??="

/-- How tightly an operator binds. -/
def LogicalOperator.strength : LogicalOperator → Nat
  | .nullish => 3
  | .or => 4
  | .and => 5

/-- How tightly an operator binds. -/
def BinaryOperator.strength : BinaryOperator → Nat
  | .bitOr => 6
  | .bitXor => 7
  | .bitAnd => 8
  | .strictEqual | .strictUnequal | .looseEqual | .looseUnequal => 9
  | .less | .greater | .lessEqual | .greaterEqual | .isIn | .instanceOf => 10
  | .add | .subtract => 12
  | .multiply | .divide | .modulo => 13
  | .exponent => 14

/-- An operator between two operands. -/
inductive InfixOperator where
  /-- Both operands are evaluated. -/
  | binary (operator : BinaryOperator)
  /-- The second operand may be left out. -/
  | logical (operator : LogicalOperator)
  deriving DecidableEq, Repr

/-- The spelling of an operator. -/
def InfixOperator.spelling : InfixOperator → String
  | .binary operator => operator.spelling
  | .logical operator => operator.spelling

/-- How tightly an operator binds. -/
def InfixOperator.strength : InfixOperator → Nat
  | .binary operator => operator.strength
  | .logical operator => operator.strength

/-- Whether a chain of the operator groups from the right. -/
def InfixOperator.groupsRight : InfixOperator → Bool
  | .binary .exponent => true
  | _ => false

end PluginSandbox.Syntax
