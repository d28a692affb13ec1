import PluginSandbox.Plugin.Resolution

/-!
# Loading plugins

Loading transpiles the source of a plugin, which needs a default export, and runs it in a realm
of its own. The default export is one plugin, or an array of them.
-/
namespace PluginSandbox.Plugin

open Script Script.Code

/-- Why a plugin could not be loaded. -/
inductive LoadError where
  /-- The source could not be transpiled. -/
  | untranspiled (error : TranspileError)
  /-- The plugin could not be run. -/
  | failed (error : ExecutionError)

/-- What a load error tells the user. The failure of an import is told without the word that
marks it in scripts. -/
def LoadError.message (heap : Heap) : LoadError → String
  | .untranspiled error => error.message
  | .failed (.failed (.importFailed error)) => error.message
  | .failed error => error.message heap

/-- A plugin that has run. -/
structure LoadedPlugin where
  /-- The object of all exports. -/
  exports : Value
  /-- The default export. -/
  defaultExport : Value
  /-- The plugins that the default export holds. -/
  plugins : List Value
  /-- What the plugin imports. -/
  imports : List Import
  /-- What was found in its source. -/
  diagnostics : List Diagnostic

/-- The plugins that a default export holds: the elements of an array, or the export itself. -/
def pluginsOf (heap : Heap) (defaultExport : Value) : List Value :=
  (heap.elementsOf? defaultExport).getD [defaultExport]

/-- Transpiles and runs the source of a plugin. -/
def load (self : Interpreter) (resolver : Resolver) (source : String) :
    Code LoadError LoadedPlugin := do
  let transpilation := transpile source true
  noteAll transpilation.log
  match transpilation.result with
  | .error error => fail (.untranspiled error)
  | .ok body =>
    let exports ← mapError .failed (executeAfresh self (.resolver resolver) body)
    let defaultExport ← readHeap fun heap => (heap.getOwn? exports "default").getD .undefined
    let plugins ← readHeap fun heap => pluginsOf heap defaultExport
    note .info .host ("loaded " ++ toString plugins.length ++ " plugin(s)")
    return { exports, defaultExport, plugins
             imports := transpilation.imports, diagnostics := transpilation.diagnostics }

end PluginSandbox.Plugin
