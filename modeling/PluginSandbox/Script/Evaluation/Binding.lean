import PluginSandbox.Script.Evaluation.Expressions

/-!
# Patterns

A pattern takes a value apart and gives the names in it their values in the innermost scope, from
left to right. A default is evaluated only where a part is undefined.
-/
namespace PluginSandbox.Script.Evaluation

open Code
open Syntax

section Pieces

variable (self : Interpreter) (context : Context) (isMutable : Bool)

/-- Binds the properties of an object pattern and gives their keys. -/
def bindProperties (value : Value) : List PatternProperty → Eval (List String)
  | [] => return []
  | .mk key pattern _ :: rest => do
    let key ← evaluateKey self context key
    let part ← tryHeap fun heap => heap.read context.realm value key
    self.bind pattern part isMutable context
    return key :: (← bindProperties value rest)

/-- The own properties of a value other than those with the given keys. -/
def remainingEntries (value : Value) (used : List String) : Eval (List (String × Value)) := do
  let keys ← readHeap fun heap => heap.ownKeys value
  (keys.filter fun key => !used.contains key).mapM fun key => do
    return (key, ← tryHeap fun heap => heap.read context.realm value key)

/-- Binds an object pattern. -/
def bindObject (properties : List PatternProperty) (rest : Option Pattern) (value : Value) :
    Eval Unit := do
  if value.isNullish then
    tryHeap fun heap =>
      let text := heap.textOf value
      .error (.type ("Cannot destructure '" ++ text ++ "' as it is " ++ text ++ "."))
  else
    let used ← bindProperties self context isMutable value properties
    match rest with
    | none => return
    | some pattern =>
      let entries ← remainingEntries context value used
      let object ← updateHeap fun heap => heap.createObject entries
      self.bind pattern object isMutable context

/-- Binds the patterns of an array pattern to items; missing items are undefined. -/
def bindItems : List Pattern → List Value → Eval Unit
  | [], _ => return
  | pattern :: patterns, items => do
    self.bind pattern (items.head?.getD .undefined) isMutable context
    bindItems patterns items.tail

/-- Binds an array pattern. -/
def bindArray (elements : List Pattern) (rest : Option Pattern) (value : Value) :
    Eval Unit := do
  let items ← tryHeap fun heap => heap.itemsOf value
  bindItems self context isMutable elements items
  match rest with
  | none => return
  | some pattern =>
    let remaining ← createArray (items.drop elements.length)
    self.bind pattern remaining isMutable context

/-- Binds a pattern. -/
def bind (pattern : Pattern) (value : Value) : Eval Unit := do
  match pattern with
  | .identifier name => bindName context name value isMutable
  | .withDefault target default =>
    let value ← if value.isUndefined then self.expression default context else pure value
    self.bind target value isMutable context
  | .object properties rest => bindObject self context isMutable properties rest value
  | .array elements rest => bindArray self context isMutable elements rest value

end Pieces

end PluginSandbox.Script.Evaluation
