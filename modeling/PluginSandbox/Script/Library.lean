import PluginSandbox.Script.Library.Documents
import PluginSandbox.Script.Library.Mathematics
import PluginSandbox.Script.Library.Numbers
import PluginSandbox.Script.Library.Objects
import PluginSandbox.Script.Library.Strings

/-!
# The library

What the built-in functions do when they are called.
-/
namespace PluginSandbox.Script.Library

/-- What a built-in function does in a realm, with a receiver and arguments. -/
def run (self : Interpreter) (realm : RealmRef) (function : Builtin) (this : Value)
    (arguments : List Value) : Eval Value :=
  match function with
  | .object function => runObject function this arguments
  | .array function => runArray self realm function this arguments
  | .string function => runString function this arguments
  | .number function => runNumber function this arguments
  | .math function => runMath function arguments
  | .json function => runJson function arguments
  | .error name => runError name arguments
  | .errorText => Code.readHeap fun heap => .text (heap.textOf this)
  | .console level => runConsole level arguments

end PluginSandbox.Script.Library
