import PluginSandbox.Plugin.Import
import PluginSandbox.Plugin.Settings
import PluginSandbox.Text.Quoted

/-!
# Failures of imports

Why an import could not be satisfied, and what the user is told about it. A failure inside a
local module is wrapped once for every module on the way out; it was told to the user where it
arose and is not told again.
-/
namespace PluginSandbox.Plugin

open Text (ticked)

/-- Why a document could not be read. -/
inductive DocumentError where
  /-- There is no such document. -/
  | notFound
  /-- The file could not be read. -/
  | file (message : String)
  /-- Any other failure. -/
  | other (message : String)
  deriving DecidableEq, Repr

/-- What a document error tells the user. -/
def DocumentError.message : DocumentError → String
  | .notFound => "document not found"
  | .file message => message
  | .other message => message

/-- Why an import could not be satisfied. -/
inductive ResolveError where
  /-- Nobody provides the module. -/
  | unresolvedModule (module : String)
  /-- The module lacks the attribute. -/
  | missingAttribute (module name : String)
  /-- The standing decision forbids fetching. -/
  | consentDenied (module : String)
  /-- The user was asked and made no decision. -/
  | consentAborted (module : String)
  /-- The host lacks what the import needs. -/
  | configuration (problem : String)
  /-- Fetching failed. -/
  | fetch (module problem : String)
  /-- The document of a local module could not be read. -/
  | document (path : String) (error : DocumentError)
  /-- The decision of the user could not be written. -/
  | settings (error : SettingsError)
  /-- A local module imports itself, directly or through others. -/
  | circularImport (path : String)
  /-- A local module failed. -/
  | moduleFailed (path problem : String)
  /-- An import of a local module failed. -/
  | nested (path : String) (error : ResolveError)
  deriving DecidableEq, Repr

namespace ResolveError

/-- What an import failure tells the user. -/
def message : ResolveError → String
  | .unresolvedModule module => "could not resolve module " ++ ticked module
  | .missingAttribute module name =>
    "module " ++ ticked module ++ " has no attribute " ++ ticked name
  | .consentDenied module =>
    "loading " ++ ticked module ++ " from the CDN is not allowed (CDN policy is "
      ++ ticked CdnPolicy.never.name ++ ")"
  | .consentAborted module => "loading " ++ ticked module ++ " from the CDN was aborted"
  | .configuration problem => "resolver is not configured for this import: " ++ problem
  | .fetch module problem =>
    "failed to fetch " ++ ticked module ++ " from the CDN: " ++ problem
  | .document path error => "failed to read " ++ ticked path ++ ": " ++ error.message
  | .settings error => "failed to persist the CDN policy: " ++ error.message
  | .circularImport path => "circular import of " ++ ticked path
  | .moduleFailed path problem => "module " ++ ticked path ++ " failed: " ++ problem
  | .nested path error => "while loading " ++ ticked path ++ ": " ++ error.message

/-- Whether the user has yet to be told. -/
def needsReport : ResolveError → Bool
  | .nested _ _ => false
  | _ => true

end ResolveError

/-- What a failed resolution was asked for. -/
inductive ImportRequest where
  /-- A whole module. -/
  | module (name : String)
  /-- What one import declaration binds. -/
  | statement (statement : Import)
  deriving DecidableEq, Repr

/-- A request that has ended. -/
structure Resolution where
  /-- What was asked for. -/
  request : ImportRequest
  /-- Why it failed, if it did. -/
  failure : Option ResolveError
  deriving DecidableEq, Repr

/-- The title under which failures are told. -/
def reportTitle : String := "Plugin import failed"

/-- The text that tells a failure of a request. -/
def reportBody (error : ResolveError) : ImportRequest → String
  | .module name => "Importing " ++ ticked name ++ " failed: " ++ error.message
  | .statement statement =>
    "Importing " ++ ticked statement.localName ++ " from " ++ ticked statement.module
      ++ " failed: " ++ error.message

end PluginSandbox.Plugin
