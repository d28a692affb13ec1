import PluginSandbox.Plugin.Registry

/-!
# Resolvers

A resolver satisfies the imports of one plugin or local module. It is plain data: what the host
provides, and the path of the importing document with those of the documents whose loading led
to it. A resolver for a local module differs from its parent in the paths alone.
-/
namespace PluginSandbox.Plugin

/-- What the imports of one document are satisfied from. -/
structure Resolver where
  /-- The modules that the host provides. -/
  known : KnownModules := {}
  /-- The tokens that the host provides. -/
  tokens : TokenRegistry := {}
  /-- Whether the host reads documents. -/
  hasDocuments : Bool := false
  /-- Whether the host fetches modules from the network. -/
  hasRemote : Bool := false
  /-- Whether the host asks the user for consent. -/
  hasDialog : Bool := false
  /-- Whether failures are told through the log instead of to the user. -/
  reportsToLog : Bool := true
  /-- The path of the importing document. -/
  basePath : Option String := none
  /-- The paths of the documents whose loading led to the importing one. -/
  ancestors : List String := []
  deriving Inhabited

/-- The resolver for the imports of the document at a path, which the present document
imports. -/
def Resolver.forBasePath (resolver : Resolver) (path : String) : Resolver :=
  { resolver with
    basePath := some path
    ancestors := resolver.ancestors ++ resolver.basePath.toList }

end PluginSandbox.Plugin
