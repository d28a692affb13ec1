import PluginSandbox.Host.FileTree
import PluginSandbox.Plugin.Settings

/-!
# Settings in a file

The settings are read once, when they are opened, and written whenever the decision changes. They
change only after the file was written. A file that does not exist stands for the defaults.
-/
namespace PluginSandbox.Plugin

open Host (FileError)

/-- Settings that are kept in a file. -/
structure SettingsFile where
  /-- The path of the file. -/
  path : String
  /-- The settings as they read now. -/
  settings : Settings
  deriving DecidableEq, Repr

namespace SettingsFile

/-- Whether a failure to read a file means that there is none. -/
def isMissing : FileError → Bool
  | .notFound | .notDirectory | .nameTooLong | .invalidName => true
  | _ => false

/-- Opens the settings in a file, given what reading it yields. -/
def ofRead (path : String) : Except FileError String → Except SettingsError SettingsFile
  | .ok text => do return ⟨path, ← Settings.parse text⟩
  | .error error =>
    if isMissing error then .ok ⟨path, {}⟩ else .error (.file error.message)

/-- The settings with another decision. -/
def updated (file : SettingsFile) (policy : CdnPolicy) : Settings :=
  { file.settings with policy }

/-- The text that is written when the decision changes. -/
def textFor (file : SettingsFile) (policy : CdnPolicy) : String := (file.updated policy).render

/-- The settings after an attempt to write another decision to the file. -/
def afterWrite (file : SettingsFile) (policy : CdnPolicy) :
    Except FileError Unit → Except SettingsError SettingsFile
  | .ok () => .ok { file with settings := file.updated policy }
  | .error error => .error (.file error.message)

end SettingsFile

end PluginSandbox.Plugin
