import PluginSandbox.Path
import PluginSandbox.Plugin.ConsentGate
import PluginSandbox.Plugin.Transpilation
import PluginSandbox.Script.Evaluation.Statements
import PluginSandbox.Script.Library.Globals

/-!
# Resolving imports

The first of these that provides a module wins: a token for the requested attribute, a module
that the host knows, the document at a relative path, tokens alone, and the network after
consent. A local module is transpiled and runs in a realm of its own, where it imports through a
resolver for its own path. Every failure is told to the user once, where it arises.
-/
namespace PluginSandbox.Plugin

open Script Script.Code
open Syntax (Statement)
open Text (ticked)

/-- Wraps a module value so that reads see the tokens of the module. -/
def viewThrough (tokens : TokenRegistry) (module : String) (value : Value) :
    Code ResolveError Value :=
  create (.view ⟨module, value, tokens⟩)

/-- Why code that ran to load a module has no result. -/
inductive ExecutionError where
  /-- The code is no script. -/
  | malformed (source : String) (problem : Syntax.Problem)
  /-- The code fails. -/
  | failed (error : RuntimeError)

/-- The text that describes why code has no result. -/
def ExecutionError.message (heap : Heap) : ExecutionError → String
  | .malformed source problem => problem.render source
  | .failed error => heap.describe error

/-- Runs statements as the body of a function that is given `require`, and yields what it
returns. -/
def executeStatements (self : Interpreter) (realm : RealmRef) (source : ModuleSource)
    (statements : List Statement) : Eval Value := do
  let globals ← readHeap fun heap => (heap.realm realm).globals
  let environment ← updateHeap fun heap => heap.newChild ⟨globals, []⟩
  let require ← create (.function "require" (.require source) {})
  changeHeap fun heap => heap.bindName environment "require" require false
  match ← Evaluation.runStatements self ⟨realm, environment, .undefined⟩ statements with
  | .returned value => return value
  | _ => return .undefined

/-- Runs a text as the body of a function that is given `require`. -/
def execute (self : Interpreter) (realm : RealmRef) (source : ModuleSource) (body : String) :
    Code ExecutionError Value :=
  match Syntax.parseScript body with
  | .error problem => fail (.malformed body problem)
  | .ok statements => mapError .failed (executeStatements self realm source statements)

/-- Runs a text in a new realm. -/
def executeAfresh (self : Interpreter) (source : ModuleSource) (body : String) :
    Code ExecutionError Value := do
  execute self (← updateHeap Library.createRealm) source body

/-- The failure of a local module whose body has no result. -/
def localFailure (path : String) (heap : Heap) : ExecutionError → ResolveError
  | .failed (.importFailed error) => .nested path error
  | error => .moduleFailed path (error.message heap)

/-- Writes the entries of a log. -/
def noteAll {ε : Type} (entries : List LogEntry) : Code ε Unit :=
  entries.forM fun entry => note entry.level entry.origin entry.text

section Resolving

variable (self : Interpreter) (resolver : Resolver)

/-- Transpiles and runs a local module; its exports are the module. -/
def runLocalModule (path source : String) : Code ResolveError Value := do
  let transpilation := transpile source false
  noteAll transpilation.log
  match transpilation.result with
  | .error error => fail (.moduleFailed path error.message)
  | .ok body =>
    match ← attempt (executeAfresh self (.resolver (resolver.forBasePath path)) body) with
    | .ok value => return value
    | .error error => tryHeap fun heap => .error (localFailure path heap error)

/-- Loads the document that a relative path names. Scripts are run, and other documents are
values. -/
def loadLocal (module : String) : Code ResolveError Value := do
  if !resolver.hasDocuments then
    fail (.configuration ("no document service to load local module " ++ ticked module))
  else
    match resolver.basePath with
    | none =>
      fail (.configuration ("no base path to resolve local module " ++ ticked module
        ++ " against"))
    | some basePath =>
      let path := Path.resolveRelative basePath module
      if path = basePath ∨ path ∈ resolver.ancestors then fail (.circularImport path)
      else
        note .debug .host (ticked module ++ ": local file " ++ ticked path)
        match ← request (.document path) with
        | .error error => fail (.document path error)
        | .ok (.text source) =>
          if Path.isScript path then runLocalModule self resolver path source
          else return .text source
        | .ok content => updateHeap fun heap => heap.ofJson content

/-- Fetches a module from the network after consent. -/
def loadRemote (module : String) : Code ResolveError Value := do
  if !resolver.hasRemote then fail (.unresolvedModule module)
  else
    let cdnUrl ← checkConsent resolver.hasDialog module
    note .debug .host (ticked module ++ ": CDN " ++ ticked cdnUrl)
    match ← request (.fetch module cdnUrl) with
    | .error problem => fail (.fetch module problem)
    | .ok value => updateHeap fun heap => heap.ofHost value

/-- A module that the host knows, seen through its tokens. -/
def knownModule (module : String) : Code ResolveError (Option Value) := do
  match resolver.known.get? module with
  | none => return none
  | some value =>
    note .debug .host (ticked module ++ ": known module")
    return some (← viewThrough resolver.tokens module value)

/-- A module that the host does not know, seen through its tokens if it has any. -/
def externalModule (module : String) : Code ResolveError Value := do
  let hasTokens := resolver.tokens.hasModule module
  let value ←
    if Path.isRelative module then loadLocal self resolver module
    else if hasTokens then do
      note .debug .host (ticked module ++ ": tokens only")
      create (.ordinary {})
    else loadRemote resolver module
  if hasTokens then viewThrough resolver.tokens module value else return value

/-- A whole module. -/
def resolveModule (module : String) : Code ResolveError Value := do
  match ← knownModule resolver module with
  | some value => return value
  | none => externalModule self resolver module

/-- What an attribute of a module that the host knows is. The default of a module without one is
the module. -/
def knownAttribute (heap : Heap) (statement : Import) (value : Value) :
    Except ResolveError Value :=
  match statement.requestedAttribute? with
  | none => .ok value
  | some name =>
    match heap.getOwn? value name with
    | some part => .ok part
    | none =>
      if statement.isDefault then .ok value
      else .error (.missingAttribute statement.module name)

/-- What an attribute of any other module is. A missing one is undefined, except that the default
of a module without one is the module. -/
def externalAttribute (heap : Heap) (statement : Import) (value : Value) : Value :=
  match statement.requestedAttribute? with
  | none => value
  | some name =>
    (heap.getOwn? value name).getD (if statement.isDefault then value else .undefined)

/-- What a module provides for an import, when no token does. -/
def resolveFromModule (statement : Import) : Code ResolveError Value := do
  match ← knownModule resolver statement.module with
  | some value => tryHeap fun heap => knownAttribute heap statement value
  | none =>
    let value ← externalModule self resolver statement.module
    readHeap fun heap => externalAttribute heap statement value

/-- The token for what an import asks for. -/
def requestedToken? (statement : Import) : Option (String × Value) := do
  let name ← statement.requestedAttribute?
  return (name, ← resolver.tokens.lookup statement.module name)

/-- The value that an import binds, types aside. -/
def resolveStatement (statement : Import) : Code ResolveError Value := do
  match requestedToken? resolver statement with
  | some (name, token) =>
    note .debug .host (ticked name ++ " from " ++ ticked statement.module ++ ": token")
    return token
  | none => resolveFromModule self resolver statement

/-- Tells the user of a failure of a request, through the log if nobody else tells it. -/
def report (error : ResolveError) (request : ImportRequest) : Code ResolveError Unit :=
  if resolver.reportsToLog then
    note .error .host (reportTitle ++ ": " ++ reportBody error request)
  else tell (.reported reportTitle (reportBody error request))

/-- Enters the end of a request in the record. -/
def record (resolution : Resolution) : Code ResolveError Unit :=
  change fun state => { state with resolutions := state.resolutions ++ [resolution] }

/-- Satisfies a request and tells the user of a failure, unless that was done already. -/
def reporting (request : ImportRequest) (action : Code ResolveError Value) :
    Code ResolveError Value := do
  match ← attempt action with
  | .ok value =>
    record ⟨request, none⟩
    return value
  | .error error =>
    if error.needsReport then report resolver error request
    record ⟨request, some error⟩
    fail error

/-- Resolves a whole module. -/
def resolve (module : String) : Code ResolveError Value :=
  reporting resolver (.module module) (resolveModule self resolver module)

/-- Resolves what an import binds; an import of types binds nothing. -/
def resolveImport (statement : Import) : Code ResolveError Value :=
  if statement.isTypeOnly then pure .undefined
  else reporting resolver (.statement statement) (resolveStatement self resolver statement)

end Resolving

end PluginSandbox.Plugin
