import PluginSandbox.CommandLine.Serving
import PluginSandbox.Plugin.Loading
import PluginSandbox.Script.Document
import PluginSandbox.Script.Evaluation
import PluginSandbox.Syntax.Parsing

/-!
# Commands

The command line transpiles a plugin, shows its parse tree, or loads it and shows its default
export. What goes wrong is told on the output for errors, and the exit code is then one.
-/
namespace PluginSandbox.CommandLine

open Plugin Script

/-- The lines that tell how to use the command line. -/
def usage : List String :=
  ["playground - plugin compiler and runner",
    "",
    "Usage:",
    "  playground transpile <file>                 Print the sandbox body",
    "  playground tokens <file>                    Print the parse tree",
    "  playground run <file> [--settings <json>]   Load the plugin and print its default export"]

/-- Tells how to use the command line. -/
def showUsage : Program Unit := usage.forM Program.complain

/-- Tells what went wrong. -/
def giveUp (text : String) : Program Nat := do
  Program.complain text
  return 1

/-- Goes on with the text of a file, if it can be read. -/
def withSource (path : String) (next : String → Program Nat) : Program Nat := do
  match ← Program.perform (.readFile path) with
  | .ok source => next source
  | .error error => giveUp ("Error reading file '" ++ path ++ "': " ++ error.message)

/-- Shows the body that the source of a plugin becomes. -/
def transpileSource (source : String) : Program Nat := do
  let transpilation := transpile source false
  showLog { log := transpilation.log }
  match transpilation.result with
  | .error error => giveUp ("Transpile error: " ++ error.message)
  | .ok body =>
    Program.print body
    transpilation.diagnostics.forM fun diagnostic =>
      Program.complain ("warning: " ++ diagnostic.render)
    return 0

/-- Shows the parse tree of a source. -/
def listTokens (source : String) : Program Nat := do
  match Syntax.listing source with
  | .ok listing =>
    Program.print (listing ++ "\n")
    return 0
  | .error problem => giveUp ("Parse error: " ++ problem.render source)

/-- The settings in a file, or the defaults without one. -/
def openSettings (path? : Option String) : Program (Except SettingsError Settings) := do
  match path? with
  | none => return .ok {}
  | some path =>
    let text ← Program.perform (.readFile path)
    return (SettingsFile.ofRead path text).map SettingsFile.settings

/-- The resolver for a plugin in a file. -/
def resolverFor (path : String) : Resolver :=
  { hasDocuments := true, hasRemote := true, hasDialog := true, basePath := some path }

/-- Loads a plugin and shows its default export. -/
def loadSource (path : String) (settingsPath? : Option String) (settings : Settings)
    (source : String) : Program Nat := do
  match ← serveRun settingsPath? (load interpreter (resolverFor path) source { settings }) with
  | some (.ok plugin, heap) =>
    Program.print (heap.consoleLine [plugin.defaultExport] ++ "\n")
    return 0
  | some (.error error, heap) => giveUp ("Error: " ++ error.message heap)
  | none => giveUp "Error: the plugin nests too deeply"

/-- Loads the plugin in a file. -/
def runFile (path : String) (settingsPath? : Option String) : Program Nat :=
  withSource path fun source => do
    match ← openSettings settingsPath? with
    | .error error =>
      giveUp ("Error reading settings '" ++ settingsPath?.getD "" ++ "': " ++ error.message)
    | .ok settings => loadSource path settingsPath? settings source

/-- What the command line does with its arguments. -/
def run : List String → Program Nat
  | "-h" :: _ | "--help" :: _ => do
    showUsage
    return 0
  | ["transpile", path] => withSource path transpileSource
  | ["tokens", path] => withSource path listTokens
  | ["run", path] => runFile path none
  | ["run", path, "--settings", settingsPath] => runFile path (some settingsPath)
  | _ => do
    showUsage
    return 1

end PluginSandbox.CommandLine
