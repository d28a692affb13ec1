import PluginSandbox.Script.Value

/-!
# Modules and tokens of the host

The host hands out whole modules by name, and tokens by the name of a module and of one of its
attributes. A token shadows the attribute of that name, wherever the module comes from. Both
tables keep the last value that was registered.
-/
namespace PluginSandbox.Plugin

open Script (Value)

/-- The modules that the host provides. -/
structure KnownModules where
  /-- The modules by name, the last registered first. -/
  entries : List (String × Value) := []
  deriving Inhabited

namespace KnownModules

/-- The table with a module registered. -/
def register (modules : KnownModules) (module : String) (value : Value) : KnownModules :=
  ⟨(module, value) :: modules.entries⟩

/-- The value of a module. -/
def get? (modules : KnownModules) (module : String) : Option Value :=
  modules.entries.lookup module

/-- Whether a module is registered. -/
def contains (modules : KnownModules) (module : String) : Bool :=
  (modules.get? module).isSome

end KnownModules

/-- The tokens that the host provides. A key is a pair, so names that contain a colon stay
apart. -/
structure TokenRegistry where
  /-- The tokens by module and attribute, each pair once. -/
  entries : List ((String × String) × Value) := []
  deriving Inhabited

namespace TokenRegistry

/-- The table with a token registered. -/
def register (tokens : TokenRegistry) (module key : String) (value : Value) :
    TokenRegistry :=
  ⟨((module, key), value)
    :: tokens.entries.filter fun entry => entry.1 ≠ (module, key)⟩

/-- The token for an attribute of a module. -/
def lookup (tokens : TokenRegistry) (module key : String) : Option Value :=
  tokens.entries.lookup (module, key)

/-- Whether a module has a token. -/
def hasModule (tokens : TokenRegistry) (module : String) : Bool :=
  tokens.entries.any fun entry => entry.1.1 == module

/-- How many tokens there are. -/
def size (tokens : TokenRegistry) : Nat := tokens.entries.length

end TokenRegistry

/-- A module value as seen through the tokens of the module. -/
structure TokenView where
  /-- The name of the module. -/
  module : String
  /-- The value without the tokens. -/
  target : Value
  /-- The tokens of all modules. -/
  tokens : TokenRegistry

/-- The token that shadows an attribute. -/
def TokenView.lookup (view : TokenView) (key : String) : Option Value :=
  view.tokens.lookup view.module key

end PluginSandbox.Plugin
