import PluginSandbox.Script.Evaluation.Functions
import PluginSandbox.Script.Handover

/-!
# Expressions

Operands are evaluated from left to right. An assignment evaluates its value, and a compound one
the value of its target, before the target is evaluated to be written to. A chain of property
reads and calls ends as a whole at an optional link that finds nothing.
-/
namespace PluginSandbox.Script.Evaluation

open Code
open Syntax

/-- The value of a literal. -/
def literalValue : Literal → Value
  | .null => .null
  | .boolean value => .boolean value
  | .text value => .text value
  | .number value => .number value

/-- What an expression is called in a message about a callee. -/
def describeCallee : Expr → String
  | .identifier name => name
  | .member object name _ => describeCallee object ++ "." ++ name
  | .index .. => "member"
  | .this => "this"
  | _ => "expression"

section Pieces

variable (self : Interpreter) (context : Context)

/-- The text that the pieces of a template make, after the text of those before them. -/
def evaluateTemplate (text : String) : List String → List Expr → Eval Value
  | [], _ => return .text text
  | quasi :: quasis, [] => do
    evaluateTemplate (← ofExcept (joinTexts text quasi)) quasis []
  | quasi :: quasis, expression :: expressions => do
    let text ← ofExcept (joinTexts text quasi)
    let value ← self.expression expression context
    let text ← tryHeap fun heap => joinTexts text (heap.textOf value)
    evaluateTemplate text quasis expressions

/-- The values of the items of a list. -/
def evaluateItems : List Element → Eval (List Value)
  | [] => return []
  | .item expression :: rest => do
    let value ← self.expression expression context
    return value :: (← evaluateItems rest)
  | .spread source :: rest => do
    let value ← self.expression source context
    let values ← tryHeap fun heap => heap.itemsOf value
    return values ++ (← evaluateItems rest)

/-- The key of a property. -/
def evaluateKey : PropertyKey → Eval String
  | .fixed name => return name
  | .computed key => do
    let value ← self.expression key context
    readHeap fun heap => heap.keyOf value

/-- Writes the own properties of a value to an object. -/
def spreadInto (object source : Value) : Eval Unit := do
  if source.isNullish then return
  let keys ← readHeap fun heap => heap.ownKeys source
  keys.forM fun key => do
    let value ← tryHeap fun heap => heap.read context.realm source key
    writeProperty object key value

/-- Writes a property of an object expression. -/
def evaluateProperty (object : Value) : Property → Eval Unit
  | .init key value _ => do
    let key ← evaluateKey self context key
    let value ← self.expression value context
    writeProperty object key value
  | .method key definition => do
    let key ← evaluateKey self context key
    let value ← createFunction definition context
    writeProperty object key value
  | .spread source => do
    spreadInto context object (← self.expression source context)

/-- The object of an object expression. -/
def evaluateObject (properties : List Property) : Eval Value := do
  let object ← create (.ordinary {})
  properties.forM (evaluateProperty self context object)
  return object

/-- The object and the key of a property that is written or deleted. -/
def evaluateTarget? : Expr → Option (Eval (Value × String))
  | .member object name _ => some do
    return (← self.expression object context, name)
  | .index object key _ => some do
    let object ← self.expression object context
    let key ← self.expression key context
    return (object, ← readHeap fun heap => heap.keyOf key)
  | _ => none

/-- Writes to a variable or a property. -/
def assignTo (target : Expr) (value : Value) : Eval Unit := do
  match target with
  | .identifier name =>
    let ref ← tryHeap fun heap => heap.writableScope context.environment name
    changeHeap fun heap => heap.setVariable ref name value
  | target =>
    match evaluateTarget? self context target with
    | some evaluate =>
      let (object, key) ← evaluate
      writeProperty object key value
    | none => fail (.raised .syntaxFault "Invalid left-hand side in assignment")

/-- The word that names the kind of the value of an expression; an unbound name is undefined. -/
def evaluateTypeOf (operand : Expr) : Eval Value := do
  let isBound ← readHeap fun heap =>
    match operand with
    | .identifier name => heap.binds context.environment name
    | _ => true
  if isBound then
    let value ← self.expression operand context
    readHeap fun heap => .text (heap.typeOf value)
  else return .text "undefined"

/-- Deletes a property; anything else is left alone and not even evaluated. -/
def evaluateDelete (operand : Expr) : Eval Value := do
  match evaluateTarget? self context operand with
  | some evaluate =>
    let (object, key) ← evaluate
    changeHeap fun heap => heap.delete object key
    return .boolean true
  | none => return .boolean true

/-- The value of an operator with one operand. -/
def evaluateUnary (operator : UnaryOperator) (operand : Expr) : Eval Value := do
  match operator with
  | .typeOf => evaluateTypeOf self context operand
  | .delete => evaluateDelete self context operand
  | operator =>
    let value ← self.expression operand context
    readHeap fun heap =>
      match operator with
      | .minus => .number (-heap.numberOf value)
      | .plus => .number (heap.numberOf value)
      | .logicalNot => .boolean !value.isTrue
      | .bitwiseNot => .number (Number.ofInt (~~~heap.wordOf value).toInt)
      | _ => .undefined

/-- The value of a change by one. -/
def evaluateUpdate (operator : UpdateOperator) (isPrefix : Bool) (target : Expr) :
    Eval Value := do
  let value ← self.expression target context
  let old ← readHeap fun heap => heap.numberOf value
  let new :=
    match operator with
    | .increment => old + 1.0
    | .decrement => old - 1.0
  assignTo self context target (.number new)
  return .number (if isPrefix then new else old)

/-- Whether an operator leaves out its second operand, given the value of the first. -/
def skipsSecond : LogicalOperator → Value → Bool
  | .or, value => value.isTrue
  | .and, value => !value.isTrue
  | .nullish, value => !value.isNullish

/-- The value of an operator that may leave out its second operand. -/
def evaluateLogical (operator : LogicalOperator) (left right : Expr) : Eval Value := do
  let value ← self.expression left context
  if skipsSecond operator value then return value else self.expression right context

/-- The operator that decides whether an assignment writes at all. -/
def guardOperator? : AssignmentOperator → Option LogicalOperator
  | .or => some .or
  | .and => some .and
  | .nullish => some .nullish
  | _ => none

/-- The value of an assignment. -/
def evaluateAssignment (operator : AssignmentOperator) (target value : Expr) : Eval Value := do
  match guardOperator? operator, compoundOperator? operator with
  | some guardOperator, _ =>
    let current ← self.expression target context
    if skipsSecond guardOperator current then return current
    else store (← self.expression value context)
  | none, some binary =>
    let current ← self.expression target context
    let operand ← self.expression value context
    store (← tryHeap fun heap => heap.apply context.realm binary current operand)
  | none, none => store (← self.expression value context)
where
  /-- Writes a value to the target and yields it. -/
  store (value : Value) : Eval Value := do
    assignTo self context target value
    return value

/-- Follows a read of a property, whose key is evaluated if the object is reached. -/
def followRead (object : Expr) (optional : Bool) (key : Eval String) : Eval Link := do
  match ← self.chain object context with
  | .skipped => return .skipped
  | .reached _ object =>
    if optional && object.isNullish then return .skipped
    else
      let key ← key
      let value ← tryHeap fun heap => heap.read context.realm object key
      return .reached object value

/-- Follows a call, whose arguments are evaluated if the callee is reached. -/
def followCall (callee : Expr) (arguments : List Element) (optional : Bool) : Eval Link := do
  match ← self.chain callee context with
  | .skipped => return .skipped
  | .reached receiver function =>
    if optional && function.isNullish then return .skipped
    else
      let arguments ← evaluateItems self context arguments
      if ← readHeap fun heap => heap.isCallable function then
        return .reached .undefined (← self.call context.realm function receiver arguments)
      else fail (.type (describeCallee callee ++ " is not a function"))

/-- Evaluates a chain of property reads and calls. -/
def evaluateChain : Expr → Eval Link
  | .member object name optional => followRead self context object optional (pure name)
  | .index object key optional =>
    followRead self context object optional do
      let value ← self.expression key context
      readHeap fun heap => heap.keyOf value
  | .call callee arguments optional => followCall self context callee arguments optional
  | expression => do return .reached .undefined (← self.expression expression context)

/-- Evaluates an expression. A wait yields the value itself: asynchronous functions have run to
their end when their call returns. -/
def evaluate (expression : Expr) : Eval Value := do
  match expression with
  | .literal value => return literalValue value
  | .identifier name => tryHeap fun heap => heap.readName context.environment name
  | .this => return context.this
  | .template quasis expressions => evaluateTemplate self context "" quasis expressions
  | .array elements =>
    let values ← evaluateItems self context elements
    let _ ← ofExcept (checkedLength values.length)
    createArray values
  | .object properties => evaluateObject self context properties
  | .function definition => createFunctionExpression definition context
  | .arrow definition => createFunction definition context
  | .unary operator operand => evaluateUnary self context operator operand
  | .update operator isPrefix target => evaluateUpdate self context operator isPrefix target
  | .binary operator left right =>
    let left ← self.expression left context
    let right ← self.expression right context
    tryHeap fun heap => heap.apply context.realm operator left right
  | .logical operator left right => evaluateLogical self context operator left right
  | .assign operator target value => evaluateAssignment self context operator target value
  | .conditional test whenTrue whenFalse =>
    if (← self.expression test context).isTrue then self.expression whenTrue context
    else self.expression whenFalse context
  | .call .. | .member .. | .index .. =>
    return (← self.chain expression context).result
  | .new callee arguments =>
    let callee ← self.expression callee context
    construct self context callee (← evaluateItems self context arguments)
  | .await operand => self.expression operand context

end Pieces

end PluginSandbox.Script.Evaluation
