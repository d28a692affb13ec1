import PluginSandbox.Plugin.Resolution
import PluginSandbox.Script.Library

/-!
# Calls

A call runs the code of a script, of the library or of the host. The calls of script functions
that run in a realm at one time are counted and bounded; the count goes down when a call ends,
whether it fails or not.
-/
namespace PluginSandbox.Script.Evaluation

open Code
open Syntax (Function Pattern)

/-- How many calls of script functions may run in a realm. -/
def maximumDepth : Nat := 64

/-- Changes how many calls of script functions a realm counts. -/
def countCalls (realm : RealmRef) (count : Nat → Nat) (state : State) : State :=
  { state with
    heap := state.heap.changeRealm realm fun realm =>
      { realm with callDepth := count realm.callDepth } }

/-- Counts a call that begins. -/
def beginCall (realm : RealmRef) (state : State) : State :=
  (countCalls realm (· + 1) state).recordCall .began realm

/-- Counts a call that ends. -/
def leaveCall (realm : RealmRef) (state : State) : State :=
  (countCalls realm (· - 1) state).recordCall .ended realm

/-- Begins a call, unless too many are running. -/
def enterCall (realm : RealmRef) : Eval Unit := do
  let depth ← readHeap fun heap => (heap.realm realm).callDepth
  if maximumDepth ≤ depth then
    change (State.recordCall .refused realm)
    fail (.range "Maximum call stack size exceeded")
  else change (beginCall realm)

section Pieces

variable (self : Interpreter)

/-- Binds the parameters of a function to its arguments; missing arguments are undefined. -/
def bindParameters (context : Context) (parameters : List Pattern) (rest : Option Pattern)
    (arguments : List Value) : Eval Unit := do
  bindItems self context true parameters arguments
  match rest with
  | none => return
  | some pattern =>
    let remaining ← createArray (arguments.drop parameters.length)
    self.bind pattern remaining true context

/-- Runs the body of a function. -/
def runBody (context : Context) (definition : Function) (arguments : List Value) :
    Eval Value := do
  bindParameters self context definition.parameters definition.rest arguments
  match definition.body with
  | .expression expression => self.expression expression context
  | .block statements =>
    match ← runStatements self context statements with
    | .returned value => return value
    | _ => return .undefined

/-- Calls a function of a script. -/
def callScript (realm : RealmRef) (definition : Function) (environment : Environment)
    (this : Value) (arguments : List Value) : Eval Value := do
  enterCall realm
  afterwards
    (do
      let inner ← updateHeap fun heap => heap.newChild environment
      runBody self ⟨realm, inner, this⟩ definition arguments)
    (leaveCall realm)

/-- Calls a function of the host. -/
def callHost (behaviour : HostBehaviour) (waits : Bool) (this : Value)
    (arguments : List Value) : Eval Value := do
  if waits then let _ ← request .pause
  match behaviour with
  | .giveArguments => createArray arguments
  | .giveReceiver => return this
  | .throwArgument => fail (.thrown (argument arguments 0))
  | .raise kind message => fail (.raised kind message)

/-- A module from a source of modules. -/
def loadModule (source : ModuleSource) (module : String) : Code Plugin.ResolveError Value :=
  match source with
  | .resolver resolver => Plugin.resolve self resolver module
  | .table modules =>
    match modules.lookup module with
    | some (some value) => updateHeap fun heap => heap.ofHost value
    | some none => fail (.unresolvedModule module)
    | none => pure .undefined

/-- Loads the module that the first argument names. -/
def callRequire (source : ModuleSource) (arguments : List Value) : Eval Value := do
  match argument arguments 0 with
  | .text module => mapError .importFailed (loadModule self source module)
  | other =>
    tryHeap fun heap =>
      .error (.type ("require expects a module name, got " ++ heap.typeOf other))

/-- Calls a value. -/
def callValue (realm : RealmRef) (callee this : Value) (arguments : List Value) :
    Eval Value := do
  match ← readHeap fun heap => heap.objectOf? (heap.unwrap callee) with
  | some (.function _ callable _) =>
    match callable with
    | .script definition environment lexicalThis =>
      callScript self realm definition environment (lexicalThis.getD this) arguments
    | .builtin function => Library.run self realm function this arguments
    | .host behaviour waits => callHost behaviour waits this arguments
    | .require source => callRequire self source arguments
  | _ => tryHeap fun heap => .error (.type (heap.textOf callee ++ " is not a function"))

end Pieces

end PluginSandbox.Script.Evaluation
