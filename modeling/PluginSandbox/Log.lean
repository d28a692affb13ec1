/-!
# The log

What a program reports while it runs: the entries of the console of a plugin, and those of the
host itself.
-/
namespace PluginSandbox

/-- How grave an entry is. -/
inductive LogLevel where
  | error | warn | info | debug | trace
  deriving DecidableEq, Repr

/-- The name of a level. -/
def LogLevel.name : LogLevel → String
  | .error => "error"
  | .warn => "warn"
  | .info => "info"
  | .debug => "debug"
  | .trace => "trace"

/-- Who writes an entry. -/
inductive LogOrigin where
  /-- A plugin, through its console. -/
  | plugin
  /-- The host. -/
  | host
  deriving DecidableEq, Repr

/-- The name of an origin. -/
def LogOrigin.name : LogOrigin → String
  | .plugin => "plugin"
  | .host => "host"

/-- An entry of the log. -/
structure LogEntry where
  /-- How grave it is. -/
  level : LogLevel
  /-- Who writes it. -/
  origin : LogOrigin
  /-- What it says. -/
  text : String
  deriving DecidableEq, Repr

/-- The line that shows an entry. -/
def LogEntry.render (entry : LogEntry) : String :=
  entry.level.name ++ " " ++ entry.origin.name ++ ": " ++ entry.text

end PluginSandbox
