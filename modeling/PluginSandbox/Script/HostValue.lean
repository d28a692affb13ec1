import PluginSandbox.Script.Value

/-!
# Values of the host

What a host hands to a script before it is on the heap: plain data, errors, and functions that
the host runs. Every time a host value is handed over, its objects are created anew.
-/
namespace PluginSandbox.Script

/-- What a function of the host does. -/
inductive HostBehaviour where
  /-- It returns an array of its arguments. -/
  | giveArguments
  /-- It returns its receiver. -/
  | giveReceiver
  /-- It throws its first argument. -/
  | throwArgument
  /-- It raises an error. -/
  | raise (kind : ErrorKind) (message : String)
  deriving DecidableEq, Repr

/-- The behaviour that goes with the name of a function of the host. -/
def HostBehaviour.ofName : String → HostBehaviour
  | "args" => .giveArguments
  | "this" => .giveReceiver
  | "throw" => .throwArgument
  | "reference" => .raise .reference "host"
  | "syntax" => .raise .syntaxFault "host"
  | name => .raise .type ("host " ++ name)

/-- A value as the host describes it. -/
inductive HostValue where
  /-- The absence of a value. -/
  | undefined
  /-- The null value. -/
  | null
  /-- A truth value. -/
  | boolean (value : Bool)
  /-- A number. -/
  | number (value : Float)
  /-- A text. -/
  | text (value : String)
  /-- An array. -/
  | array (items : List HostValue)
  /-- An object. -/
  | object (members : List (String × HostValue))
  /-- An error. -/
  | error (name message : String)
  /-- A function of the host; one that waits gives way to others before it runs. -/
  | function (name : String) (waits : Bool)

instance : Inhabited HostValue := ⟨.undefined⟩

end PluginSandbox.Script
