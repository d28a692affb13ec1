import PluginSandbox.Plugin.Settings

/-!
# Decisions of the user

The user answers the question whether modules may be fetched. Allowing and forbidding become the
standing decision; giving no decision leaves it open.
-/
namespace PluginSandbox.Plugin

/-- An answer of the user. -/
inductive ConsentDecision where
  | forbid | allow | abort
  deriving DecidableEq, Repr

/-- The policy that an answer becomes. -/
def ConsentDecision.policy? : ConsentDecision → Option CdnPolicy
  | .forbid => some .never
  | .allow => some .alwaysInsecure
  | .abort => none

end PluginSandbox.Plugin
