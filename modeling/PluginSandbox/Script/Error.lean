import PluginSandbox.Plugin.ResolveError
import PluginSandbox.Script.Value

/-!
# Errors of a running script

A script fails with an error of the interpreter, with a value that it throws itself, or with the
failure of an import. The last keeps its cause until the script catches it.
-/
namespace PluginSandbox.Script

/-- Why a script fails. -/
inductive RuntimeError where
  /-- The interpreter raises an error. -/
  | raised (kind : ErrorKind) (message : String)
  /-- The script throws a value. -/
  | thrown (value : Value)
  /-- An import fails. -/
  | importFailed (error : Plugin.ResolveError)

namespace RuntimeError

/-- A type error. -/
def type (message : String) : RuntimeError := .raised .type message

/-- A range error. -/
def range (message : String) : RuntimeError := .raised .range message

/-- A reference error. -/
def reference (message : String) : RuntimeError := .raised .reference message

end RuntimeError

end PluginSandbox.Script
