import PluginSandbox.Script.Interpreter

/-!
# Functions of scripts

A function remembers the environment in which it was created. An arrow remembers the receiver as
well, and a named function expression sees itself under its name.
-/
namespace PluginSandbox.Script.Evaluation

open Code
open Syntax (Function)

/-- The function object for a definition in a context. -/
def functionObject (definition : Function) (context : Context) : Object :=
  let lexicalThis := if definition.isArrow then some context.this else none
  .function (definition.name.getD "")
    (.script definition context.environment lexicalThis) {}

/-- Creates a function. -/
def createFunction (definition : Function) (context : Context) : Eval Value :=
  create (functionObject definition context)

/-- The context with a new scope inside its own. -/
def openScope (context : Context) : Eval Context := do
  return context.within (← updateHeap fun heap => heap.newChild context.environment)

/-- Gives a name of the innermost scope its first value. -/
def bindName (context : Context) (name : String) (value : Value) (isMutable : Bool) :
    Eval Unit :=
  changeHeap fun heap => heap.bindName context.environment name value isMutable

/-- Creates the function of a function expression. -/
def createFunctionExpression (definition : Function) (context : Context) : Eval Value := do
  match definition.name with
  | some name =>
    let inner ← openScope context
    let value ← createFunction definition inner
    bindName inner name value false
    return value
  | none => createFunction definition context

/-- Whether an object can be constructed from: any function but arrows and asynchronous ones. -/
def isConstructor : Object → Bool
  | .function _ (.script definition _ _) _ => !definition.isArrow && !definition.isAsync
  | .function .. => true
  | _ => false

/-- Whether an object is a function of a script. -/
def isScriptFunction : Object → Bool
  | .function _ (.script ..) _ => true
  | _ => false

/-- Constructs an object. A function of a script gets a new object as its receiver, which is the
result unless the function returns another object; any other function is called. -/
def construct (self : Interpreter) (context : Context) (callee : Value)
    (arguments : List Value) : Eval Value := do
  let target ← readHeap fun heap => heap.unwrap callee
  match ← readHeap fun heap => heap.objectOf? target with
  | some object =>
    if !isConstructor object then refuse
    else if isScriptFunction object then
      let this ← create (.ordinary {})
      match ← self.call context.realm target this arguments with
      | .object ref => return .object ref
      | _ => return this
    else self.call context.realm target .undefined arguments
  | none => refuse
where
  /-- Fails because the callee cannot be constructed from. -/
  refuse : Eval Value :=
    tryHeap fun heap => .error (.type (heap.textOf callee ++ " is not a constructor"))

end PluginSandbox.Script.Evaluation
