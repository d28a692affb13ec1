import PluginSandbox.Json.Record
import PluginSandbox.Text.Blank

/-!
# Settings

Two settings matter to a plugin: whether modules may be fetched from the content delivery
network, and the address of that network. They are kept as a JSON object; a missing member, and
a missing or blank file, stand for the defaults.
-/
namespace PluginSandbox.Plugin

/-- The standing decision on fetching modules from the network. -/
inductive CdnPolicy where
  /-- Nothing was decided yet, so the user is asked. -/
  | awaitingDecision
  /-- Modules are fetched. -/
  | alwaysInsecure
  /-- Modules are not fetched. -/
  | never
  deriving DecidableEq, Repr, Inhabited

namespace CdnPolicy

/-- The name of a policy in the settings. -/
def name : CdnPolicy → String
  | .awaitingDecision => "awaiting-decision"
  | .alwaysInsecure => "always-insecure"
  | .never => "never"

/-- All policies by name. -/
def byName : List (String × CdnPolicy) :=
  [CdnPolicy.awaitingDecision, .alwaysInsecure, .never].map fun policy => (policy.name, policy)

/-- The policy with a given name. -/
def ofName? (name : String) : Option CdnPolicy := byName.lookup name

end CdnPolicy

/-- The network that is used when the settings name none. -/
def defaultCdnUrl : String := "https://cdn.jsdelivr.net/npm/"

/-- The settings as a plugin sees them. -/
structure Settings where
  /-- The standing decision. -/
  policy : CdnPolicy := .awaitingDecision
  /-- The address of the network. -/
  cdnUrl : String := defaultCdnUrl
  deriving DecidableEq, Repr, Inhabited

/-- Why the settings could not be read or written. -/
inductive SettingsError where
  /-- The file could not be read or written. -/
  | file (message : String)
  /-- The text of the file is no settings object. -/
  | malformed (message : String)
  /-- A policy was written, but the settings still hold the one before. -/
  | notPersisted
  /-- The settings refused to be written. -/
  | rejected (message : String)
  deriving DecidableEq, Repr

/-- What a settings error tells the user. -/
def SettingsError.message : SettingsError → String
  | .file message => "settings I/O failed: " ++ message
  | .malformed message => "settings are not valid JSON: " ++ message
  | .notPersisted => "the CDN policy was written but did not persist"
  | .rejected message => message

namespace Settings

/-- What a field of the settings holds. -/
inductive FieldValue where
  /-- The standing decision. -/
  | policy (value : CdnPolicy)
  /-- An address. -/
  | url (value : String)

/-- The fields of the settings in the order of an array. -/
def fields : List (Json.Scan.Field FieldValue) :=
  [⟨"allowCDN", FieldValue.policy <$> Json.Scan.choice CdnPolicy.byName,
      some (.policy .awaitingDecision)⟩,
    ⟨"requirejsCDN", FieldValue.url <$> Json.Scan.text "a string", some (.url defaultCdnUrl)⟩]

/-- The settings with the given field values. -/
def ofFields? : List FieldValue → Option Settings
  | [.policy policy, .url cdnUrl] => some { policy, cdnUrl }
  | _ => none

/-- Reads settings from the text of a file. A blank text stands for the defaults. -/
def parse (text : String) : Except SettingsError Settings :=
  if text.toList.all Text.isBlank then .ok {}
  else
    match Json.scanAll (Json.Scan.record "CompositeSettings" fields) text with
    | .error failure => .error (.malformed (failure.message text))
    | .ok values =>
      match ofFields? values with
      | some settings => .ok settings
      | none => .error (.malformed "invalid type")

/-- The settings as a JSON object. -/
def toJson (settings : Settings) : Json :=
  .object [("allowCDN", .text settings.policy.name), ("requirejsCDN", .text settings.cdnUrl)]

/-- The text of a settings file. -/
def render (settings : Settings) : String := Json.indented "  " settings.toJson

end Settings

end PluginSandbox.Plugin
