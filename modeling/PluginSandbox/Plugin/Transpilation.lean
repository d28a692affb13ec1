import PluginSandbox.Plugin.Lowering
import PluginSandbox.Syntax.Parsing

/-!
# Transpilation

The source of a plugin is a module; what runs is the body of a function that is given `require`
and returns the exports. A transpilation says what the body is or why there is none, and what
is known about the source besides.
-/
namespace PluginSandbox.Plugin

open Syntax

/-- Why a source has no body. -/
inductive TranspileError where
  /-- A default export is needed, and there is none. -/
  | missingDefaultExport
  /-- The source is no module. -/
  | malformed (source : String) (problem : Problem)

/-- The text of an error. -/
def TranspileError.message : TranspileError → String
  | .missingDefaultExport => "plugin has no default export"
  | .malformed source problem => problem.render source

/-- The body of a function and what is known about its source. -/
structure Transpilation where
  /-- The body, or why there is none. -/
  result : Except TranspileError String
  /-- What the source imports. -/
  imports : List Import := []
  /-- The text of the default export. -/
  defaultExport : Option String := none
  /-- What was found. -/
  diagnostics : List Diagnostic := []

/-- The body that runs lowered statements. -/
def renderBody (statements : List Statement) : String :=
  line 0 "\"use strict\";" ++ line 0 ("const " ++ exportsName ++ " = \x7b\x7d;")
    ++ renderScript statements ++ line 0 ("return " ++ exportsName ++ ";")

/-- Transpiles the source of a plugin. -/
def transpile (source : String) (requireDefault : Bool) : Transpilation :=
  match parseModule source with
  | .error problem => { result := .error (.malformed source problem) }
  | .ok items =>
    let lowered := lower source items
    { result :=
        if requireDefault && lowered.defaultExport.isNone then .error .missingDefaultExport
        else .ok (renderBody lowered.statements)
      imports := lowered.imports
      defaultExport := lowered.defaultExport
      diagnostics := lowered.diagnostics }

/-- What the host reports while it transpiles: the findings, and a summary at the end. -/
def Transpilation.log (transpilation : Transpilation) : List LogEntry :=
  transpilation.diagnostics.map (fun diagnostic => ⟨.warn, .host, diagnostic.render⟩)
    ++ match transpilation.result with
      | .ok _ =>
        [⟨.debug, .host, "transpiled plugin: " ++ toString transpilation.imports.length
          ++ " import(s), " ++ toString transpilation.diagnostics.length ++ " diagnostic(s)"⟩]
      | .error _ => []

end PluginSandbox.Plugin
