import PluginSandbox.Script.Run

/-!
# Scripted hosts

A host whose replies are laid down in advance: the documents and modules that it has, the
decisions of the user in the order in which they are given, and whether its settings can be
written. Reading a document and writing the settings take no time; everything else is answered
when the code that waits for it is resumed.
-/
namespace PluginSandbox.Host

open Plugin Script

/-- What becomes of a decision that is written. -/
inductive Storage where
  /-- It is kept. -/
  | keeps
  /-- It is lost without notice. -/
  | loses
  /-- It is refused. -/
  | refuses
  deriving DecidableEq, Repr

/-- A host with replies laid down in advance. -/
structure ScriptedHost where
  /-- What becomes of a decision that is written. -/
  storage : Storage := .keeps
  /-- The decisions of the user that are still to come. -/
  decisions : List ConsentDecision := []
  /-- The documents by path. -/
  documents : List (String × Except DocumentError Json) := []
  /-- The modules that can be fetched. -/
  remote : List (String × HostValue) := []

namespace ScriptedHost

/-- The document at a path. -/
def document (host : ScriptedHost) (path : String) : Except DocumentError Json :=
  (host.documents.lookup path).getD (.error .notFound)

/-- The module that a fetch yields. -/
def fetched (host : ScriptedHost) (module cdnUrl : String) : Except String HostValue :=
  match host.remote.lookup module with
  | some value => .ok value
  | none => .error ("404 for " ++ cdnUrl ++ module)

/-- Writes a decision. -/
def persist (host : ScriptedHost) (policy : CdnPolicy) (state : State) :
    Except SettingsError Unit × State :=
  match host.storage with
  | .keeps => (.ok (), { state with settings := { state.settings with policy } })
  | .loses => (.ok (), state)
  | .refuses => (.error (.rejected "store is read-only"), state)

/-- The reply to a request that takes no time. -/
def immediate? (host : ScriptedHost) (state : State) :
    (request : Request) → Option (request.Reply × State)
  | .document path => some (host.document path, state)
  | .persist policy => some (host.persist policy state)
  | .turn | .ask _ _ | .fetch _ _ | .pause => none

/-- The reply to a request when the code that waits for it is resumed; none while another check
is under way. -/
def delayed? (host : ScriptedHost) (state : State) :
    (request : Request) → Option (request.Reply × ScriptedHost)
  | .document path => some (host.document path, host)
  | .persist policy => some ((host.persist policy state).1, host)
  | .turn => if state.isChecking then none else some ((), host)
  | .ask _ _ =>
    some (host.decisions.head?.getD .abort, { host with decisions := host.decisions.tail })
  | .fetch module cdnUrl => some (host.fetched module cdnUrl, host)
  | .pause => some ((), host)

end ScriptedHost

end PluginSandbox.Host
