import PluginSandbox.Log
import PluginSandbox.Plugin.Awaiting
import PluginSandbox.Plugin.Import
import PluginSandbox.Syntax.Printer
import PluginSandbox.Text.Blank
import PluginSandbox.Text.Bytes

/-!
# From modules to scripts

A module becomes a script that loads what it imports and collects what it exports. An import
declaration loads its module once; exports are written to one object, those of an export list
after all statements of the module have run. What a module imports is described, also an import
of types alone, which leaves nothing in the script.
-/
namespace PluginSandbox.Plugin

open Syntax

/-- The name of the object that collects the exports. -/
def exportsName : String := "exports"

/-- A finding that does not keep a module from running. -/
structure Diagnostic where
  /-- What was found. -/
  message : String
  /-- The part of the source where it was found. -/
  span : Span
  deriving DecidableEq, Repr

/-- The text of a finding. -/
def Diagnostic.render (diagnostic : Diagnostic) : String :=
  diagnostic.message ++ " (at " ++ toString diagnostic.span.start ++ ".."
    ++ toString diagnostic.span.stop ++ ")"

/-- The finding that an assignment to all exports was dropped. -/
def droppedAssignment (span : Span) : Diagnostic :=
  { message := "`export =` is not supported in plugins, use `export default` instead; "
      ++ "the statement was dropped"
    span }

/-- The finding that a default export replaces an earlier one. -/
def duplicateDefault (span : Span) : Diagnostic :=
  { message := "duplicate default export, the last one wins", span }

/-- A module on its way to a script. -/
structure Lowering where
  /-- The statements so far. -/
  body : List Statement := []
  /-- The statements that come after all others. -/
  trailing : List Statement := []
  /-- What the module imports. -/
  imports : List Import := []
  /-- What was found. -/
  diagnostics : List Diagnostic := []
  /-- The text of the default export. -/
  defaultExport : Option String := none
  /-- How many modules were loaded under a name of their own. -/
  loaded : Nat := 0

/-- The property with a fixed name, in brackets. -/
def propertyOf (base : Expr) (name : String) : Expr :=
  .index base (.literal (.text name)) false

/-- The place of an export. -/
def exportPlace (name : String) : Expr :=
  if isIdentifierName name then .member (.identifier exportsName) name false
  else propertyOf (.identifier exportsName) name

/-- A call that loads a module. -/
def requireCall (module : String) : Expr :=
  .call (.identifier requireName) [.item (.literal (.text module))] false

/-- The statement that exports a value under a name. -/
def exportStatement (name : String) (value : Expr) : Statement :=
  .expression (.assign .assign (exportPlace name) value)

/-- The declaration of a constant. -/
def constant (target : Pattern) (value : Expr) : Statement :=
  .variables (.mk .const [.mk target (some value)])

/-- The loop that exports all attributes of a module but its default value. -/
def exportAllFrom (module : String) : Statement :=
  let key := "__key"
  let at_ (base : String) : Expr := .index (.identifier base) (.identifier key) false
  .forIn .const (.identifier key) (.identifier module)
    (.if (.binary .strictUnequal (.identifier key) (.literal (.text "default")))
      (.expression (.assign .assign (at_ exportsName) (at_ module))) none)

/-- The imports that a specifier describes. -/
def describeSpecifier (module : String) (isTypeOnly : Bool) : ImportSpecifier → Import
  | .default name => (Import.default module name).withTypeOnly isTypeOnly
  | .whole name => (Import.whole module name).withTypeOnly isTypeOnly
  | .named imported name specifierIsTypeOnly =>
    ((Import.named module imported).withAlias name).withTypeOnly
      (isTypeOnly || specifierIsTypeOnly)

/-- The attribute that a specifier reads and the name it binds, if any. -/
def boundAttribute : ImportSpecifier → Option (String × String)
  | .default name => some ("default", name)
  | .whole _ => none
  | .named imported name isTypeOnly => if isTypeOnly then none else some (imported, name)

/-- The name that a specifier binds to the whole module, if any. -/
def boundModule : ImportSpecifier → Option String
  | .whole name => some name
  | _ => none

/-- The statements that an import declaration becomes. -/
def importStatements (specifiers : List ImportSpecifier) (module : String) : List Statement :=
  if specifiers.isEmpty then [.expression (requireCall module)]
  else
    let attributes := specifiers.filterMap boundAttribute
    let properties := attributes.map fun (imported, name) =>
      PatternProperty.mk (.fixed imported) (.identifier name) (imported = name)
    let (whole, source) :=
      match (specifiers.filterMap boundModule).getLast? with
      | some name => ([constant (.identifier name) (requireCall module)], .identifier name)
      | none => ([], requireCall module)
    if properties.isEmpty then whole
    else whole ++ [constant (.object properties none) source]

namespace Lowering

/-- Adds statements. -/
def push (state : Lowering) (statements : List Statement) : Lowering :=
  { state with body := state.body ++ statements }

/-- Adds a description of an import. -/
def describe (state : Lowering) (imports : List Import) : Lowering :=
  { state with imports := state.imports ++ imports }

/-- Adds a finding. -/
def find (state : Lowering) (diagnostic : Diagnostic) : Lowering :=
  { state with diagnostics := state.diagnostics ++ [diagnostic] }

/-- Notes the part of the source that is the default export. -/
def noteDefault (source : List Char) (span : Span) (state : Lowering) : Lowering :=
  let state := if state.defaultExport.isSome then state.find (duplicateDefault span) else state
  { state with
    defaultExport := some (Text.trim (String.ofList (Text.slice span.start span.stop source))) }

/-- Notes the text of the default export. -/
def noteDefaultText (exported text : String) (state : Lowering) : Lowering :=
  if exported = "default" then { state with defaultExport := some text } else state

/-- Loads a module under a name of its own, which is given. -/
def load (state : Lowering) (module : String) : Lowering × String :=
  let name := "__reexport_" ++ toString (state.loaded + 1)
  ({ state with loaded := state.loaded + 1 }.push
    [constant (.identifier name) (requireCall module)], name)

/-- Lowers one item of a module. -/
def item (source : List Char) (state : Lowering) : ModuleItem → Lowering
  | .statement statement => state.push [statement]
  | .importDeclaration specifiers module isTypeOnly =>
    let state := state.describe (specifiers.map (describeSpecifier module isTypeOnly))
    if isTypeOnly then state else state.push (importStatements specifiers module)
  | .exportDefault (.expression value) span =>
    (state.noteDefault source span).push [exportStatement "default" value]
  | .exportDefault (.function definition) span =>
    let (statements, value) :=
      match definition.name with
      | some name => ([Statement.function definition], Expr.identifier name)
      | none => ([], .function definition)
    (state.noteDefault source span).push (statements ++ [exportStatement "default" value])
  | .exportAssignment _ span => state.find (droppedAssignment span)
  | .exportDeclaration declaration =>
    let (statement, names) :=
      match declaration with
      | .function definition => (Statement.function definition, definition.name.toList)
      | .variables declared => (.variables declared, declared.boundNames)
    state.push (statement :: names.map fun name => exportStatement name (.identifier name))
  | .exportList _ _ true => state
  | .exportList specifiers none false =>
    specifiers.foldl
      (fun state specifier =>
        { state.noteDefaultText specifier.exported specifier.name with
          trailing := state.trailing
            ++ [exportStatement specifier.exported (.identifier specifier.name)] })
      state
  | .exportList specifiers (some module) false =>
    let (state, name) := state.load module
    specifiers.foldl
      (fun state specifier =>
        ((state.describe
            [(Import.named module specifier.name).withAlias specifier.exported]).noteDefaultText
          specifier.exported (module ++ "." ++ specifier.name)).push
          [exportStatement specifier.exported
            (propertyOf (.identifier name) specifier.name)])
      state
  | .exportAll (some exported) module =>
    (state.describe [Import.whole module exported]).push
      [exportStatement exported (requireCall module)]
  | .exportAll none module =>
    let (state, name) := (state.describe [Import.whole module module]).load module
    state.push [exportAllFrom name]

/-- All statements, with the modules they require awaited. -/
def statements (state : Lowering) : List Statement :=
  awaitInStatements (state.body ++ state.trailing)

end Lowering

/-- Lowers a module with the given source. -/
def lower (source : String) (items : List ModuleItem) : Lowering :=
  items.foldl (Lowering.item source.toList) {}

end PluginSandbox.Plugin
