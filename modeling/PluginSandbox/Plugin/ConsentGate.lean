import PluginSandbox.Script.Run
import PluginSandbox.Text.Quoted

/-!
# The consent gate

Before a module is fetched, the settings decide whether it may be. While they leave the decision
open, the user is asked, and the answer becomes the standing decision. One check runs at a time,
so a check that waits for its turn sees the decision of the one before it and does not ask again.

    awaiting decision -- allow  --> always
    awaiting decision -- forbid --> never
    awaiting decision -- abort  --> awaiting decision, and nothing is written
-/
namespace PluginSandbox.Plugin

open Script Script.Code
open Text (ticked)

/-- What the settings say about fetching a module. -/
inductive Standing where
  /-- The module may be fetched from a network. -/
  | allowed (cdnUrl : String)
  /-- Nothing may be fetched. -/
  | denied
  /-- The user is to be asked. -/
  | undecided (cdnUrl : String)
  deriving DecidableEq, Repr

/-- What settings say about fetching. -/
def Settings.standing (settings : Settings) : Standing :=
  match settings.policy with
  | .alwaysInsecure => .allowed settings.cdnUrl
  | .never => .denied
  | .awaitingDecision => .undecided settings.cdnUrl

/-- What the settings say about fetching now. -/
def readStanding {ε : Type} : Code ε Standing := reading fun state => state.settings.standing

/-- Waits until no check is under way and starts one. -/
def takeTurn {ε : Type} : Code ε Unit := fun state =>
  let start (state : State) : Run ε Unit := .done () { state with isChecking := true }
  if state.isChecking then .waiting .turn state fun _ state => start state else start state

/-- Ends the check that is under way. -/
def endTurn (state : State) : State := { state with isChecking := false }

/-- Refuses to fetch a module. -/
def deny (module : String) : Code ResolveError String := do
  note .warn .host ("not loading " ++ ticked module ++ " from the CDN: CDN policy is "
    ++ ticked CdnPolicy.never.name)
  fail (.consentDenied module)

/-- Asks the user about a module and writes the decision. -/
def askUser (hasDialog : Bool) (module cdnUrl : String) : Code ResolveError Unit := do
  if !hasDialog then
    fail (.configuration ("no consent dialog to ask about loading " ++ ticked module
      ++ " from the CDN"))
  else
    let decision ← request (.ask module cdnUrl)
    match ConsentDecision.policy? decision with
    | none => fail (.consentAborted module)
    | some policy =>
      match ← request (.persist policy) with
      | .error error => fail (.settings error)
      | .ok () =>
        note .info .host ("CDN policy set to " ++ ticked policy.name ++ " while loading "
          ++ ticked module)

/-- Decides about a module while no other check is under way. -/
def decideFetch (hasDialog : Bool) (module : String) : Code ResolveError String := do
  match ← readStanding with
  | .allowed cdnUrl => return cdnUrl
  | .denied => deny module
  | .undecided cdnUrl =>
    askUser hasDialog module cdnUrl
    match ← readStanding with
    | .allowed cdnUrl => return cdnUrl
    | .denied => deny module
    | .undecided _ => fail (.settings .notPersisted)

/-- Decides whether a module may be fetched, and from where. -/
def checkConsent (hasDialog : Bool) (module : String) : Code ResolveError String := do
  takeTurn
  afterwards (decideFetch hasDialog module) endTurn

end PluginSandbox.Plugin
