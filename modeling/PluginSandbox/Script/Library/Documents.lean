import PluginSandbox.Json.Reader
import PluginSandbox.Script.Document
import PluginSandbox.Script.Handover
import PluginSandbox.Script.Interpreter

/-!
# JSON and console

`JSON` reads documents into values and writes values as documents, with an indentation of at most
ten blanks or characters. The console writes its arguments to the log.
-/
namespace PluginSandbox.Script.Library

open Code

/-- The indentation that an argument gives: as many blanks as a number says, or the start of a
text. -/
def indentation : Value → String
  | .number number => String.ofList (List.replicate (Number.clampToInt 0 10 number).toNat ' ')
  | .text text => String.ofList (text.toList.take 10)
  | _ => ""

/-- The text of a document with an indentation, compact without one. -/
def documentText (unit : String) (json : Json) : String :=
  if unit.isEmpty then Json.compact json else Json.indented unit json

/-- What a function of `JSON` does. -/
def runJson (function : JsonFunction) (arguments : List Value) : Eval Value := do
  let first := argument arguments 0
  match function with
  | .parse =>
    let text ← readHeap fun heap => heap.textOf first
    match Json.parse text with
    | .ok json => updateHeap fun heap => heap.ofJson json
    | .error failure => fail (.raised .syntaxFault ("JSON.parse: " ++ failure.message text))
  | .stringify =>
    match ← tryHeap fun heap => heap.jsonOf first with
    | some json => return .text (documentText (indentation (argument arguments 2)) json)
    | none => return .undefined

/-- Creates an error with a name and a message from its arguments. -/
def runError (name : String) (arguments : List Value) : Eval Value := do
  let message ← readHeap fun heap =>
    match argument arguments 0 with
    | .undefined => ""
    | value => heap.textOf value
  create (.ofError name message)

/-- Writes a line to the log. -/
def runConsole (level : LogLevel) (arguments : List Value) : Eval Value := do
  note level .plugin (← readHeap fun heap => heap.consoleLine arguments)
  return .undefined

end PluginSandbox.Script.Library
