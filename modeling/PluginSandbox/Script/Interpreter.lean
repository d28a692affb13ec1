import PluginSandbox.Script.Operation
import PluginSandbox.Script.Run

/-!
# Interpreters

The meaning of each construct of the language is given in terms of an interpreter for the parts
of the construct, for the code of the functions that it calls, and for the rounds of a loop that
are still to come. An interpreter that works within a bound on nesting is built from one with a
smaller bound, which ends the recursion.
-/
namespace PluginSandbox.Script

open Syntax (Expr Statement Pattern)

/-- What code sees while it runs. -/
structure Context where
  /-- The realm whose library it uses. -/
  realm : RealmRef
  /-- The scopes that it sees. -/
  environment : Environment
  /-- The receiver of the running call. -/
  this : Value
  deriving Inhabited

/-- The same context with other scopes. -/
def Context.within (context : Context) (environment : Environment) : Context :=
  { context with environment }

/-- How a statement ends, if it does not fail. -/
inductive Completion where
  /-- The next statement follows. -/
  | normal
  /-- The running function returns a value. -/
  | returned (value : Value)
  /-- The innermost loop or switch ends. -/
  | broke
  /-- The next round of the innermost loop follows. -/
  | continued

/-- Where a chain of property reads and calls has got. -/
inductive Link where
  /-- An optional link found nothing, which ends the whole chain. -/
  | skipped
  /-- A value, and the object that it was read from. -/
  | reached (receiver value : Value)

/-- What a chain yields. -/
def Link.result : Link → Value
  | .skipped => .undefined
  | .reached _ value => value

/-- An interpreter of the language. -/
structure Interpreter where
  /-- Evaluates an expression. -/
  expression : Expr → Context → Eval Value
  /-- Evaluates a chain of property reads and calls. -/
  chain : Expr → Context → Eval Link
  /-- Runs a statement. -/
  statement : Statement → Context → Eval Completion
  /-- Runs the rounds of a counting loop with a test, an update and a body, whose variables are
  copied for every round. -/
  rounds : Option Expr → Option Expr → Statement → List String → Context → Eval Completion
  /-- Binds the names of a pattern to the parts of a value; they may be mutable. -/
  bind : Pattern → Value → Bool → Context → Eval Unit
  /-- Calls a value in a realm, with a receiver and arguments. -/
  call : RealmRef → Value → Value → List Value → Eval Value

/-- The interpreter whose bound is exceeded. -/
def Interpreter.exhausted : Interpreter where
  expression _ _ := Code.exhausted
  chain _ _ := Code.exhausted
  statement _ _ := Code.exhausted
  rounds _ _ _ _ _ := Code.exhausted
  bind _ _ _ _ := Code.exhausted
  call _ _ _ _ := Code.exhausted

/-- The argument at a place, undefined when it is missing. -/
def argument (arguments : List Value) (place : Nat) : Value :=
  (arguments[place]?).getD .undefined

/-- Writes a property of a value. -/
def writeProperty (target : Value) (key : String) (value : Value) : Eval Unit := do
  let (ref, object) ← Code.tryHeap fun heap => heap.written target key value
  Code.changeHeap fun heap => heap.replace ref object

end PluginSandbox.Script
