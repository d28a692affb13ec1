import PluginSandbox.Host.FileTree
import PluginSandbox.Json.Reader
import PluginSandbox.Plugin.ResolveError

/-!
# Documents in files

A file whose name ends in `.json` holds a JSON document; any other file is a text.
-/
namespace PluginSandbox.Host

open Plugin (DocumentError)

/-- Whether the file at a path holds a JSON document. -/
def holdsJson (path : String) : Bool := Path.extension? path.toList == some "json".toList

/-- The document that reading the file at a path yields. -/
def documentOf (path : String) : Except FileError String → Except DocumentError Json
  | .error .notFound => .error .notFound
  | .error error => .error (.file error.message)
  | .ok text =>
    if holdsJson path then
      match Json.parse text with
      | .ok json => .ok json
      | .error failure => .error (.other ("invalid JSON: " ++ failure.message text))
    else .ok (.text text)

end PluginSandbox.Host
