import PluginSandbox.CommandLine.Program
import PluginSandbox.Host.Documents
import PluginSandbox.Plugin.SettingsFile
import PluginSandbox.Script.Run
import PluginSandbox.Text.Blank

/-!
# Serving a run from the command line

What a run asks for is served from files and from the terminal; nothing is fetched. The log
appears on the output for errors as soon as the run waits for something or ends, from the level
of information upward.
-/
namespace PluginSandbox.CommandLine

open Plugin Script
open Text (ticked)

/-- The line that shows an entry of the log; finer entries than information have none. -/
def logLine? (entry : LogEntry) : Option String :=
  match entry.level with
  | .error => some ("[ERROR] " ++ entry.text)
  | .warn => some ("[WARN] " ++ entry.text)
  | .info => some ("[INFO] " ++ entry.text)
  | .debug | .trace => none

/-- Shows the log of a state. -/
def showLog (state : State) : Program Unit :=
  (state.log.filterMap logLine?).forM Program.complain

/-- The decision that an answer of the user stands for. -/
def decisionOf (line : String) : ConsentDecision :=
  match Text.trim line with
  | "a" | "allow" => .allow
  | "f" | "forbid" => .forbid
  | _ => .abort

/-- Asks the user about fetching a module. -/
def askTerminal (module cdnUrl : String) : Program ConsentDecision := do
  Program.complain (ticked module ++ " is not available locally. Load it from " ++ cdnUrl
    ++ "? Code from the CDN runs with full access.")
  Program.printError "[a]llow / [f]orbid / anything else aborts: "
  return decisionOf (← Program.perform .readLine)

/-- Writes a decision to the file of the settings, if they are kept in one. -/
def persistDecision (path? : Option String) (policy : CdnPolicy) (state : State) :
    Program (Except SettingsError Unit × State) := do
  let settings := { state.settings with policy }
  match path? with
  | none => return (.ok (), { state with settings })
  | some path =>
    let file : SettingsFile := ⟨path, state.settings⟩
    let written ← Program.perform (.writeFile path (file.textFor policy))
    match file.afterWrite policy written with
    | .ok file => return (.ok (), { state with settings := file.settings })
    | .error error => return (.error error, state)

/-- The reply to a request, and the state afterwards. -/
def serve (path? : Option String) (state : State) :
    (request : Request) → Program (request.Reply × State)
  | .turn => return ((), state)
  | .ask module cdnUrl => return (← askTerminal module cdnUrl, state)
  | .persist policy => persistDecision path? policy state
  | .document path => do
    return (Host.documentOf path (← Program.perform (.readFile path)), state)
  | .fetch module cdnUrl =>
    return (.error ("cannot fetch " ++ ticked module ++ " from " ++ cdnUrl ++ " while offline"),
      state)
  | .pause => return ((), state)

/-- Serves a run to its end and gives its outcome, which is missing if the run exceeded its
bound. -/
def serveRun {ε α : Type} (path? : Option String) :
    Run ε α → Program (Option (Except ε α × Heap))
  | .done value state => do
    showLog state
    return some (.ok value, state.heap)
  | .failed error state => do
    showLog state
    return some (.error error, state.heap)
  | .exhausted => return none
  | .waiting request state resume => do
    showLog state
    let (reply, state) ← serve path? { state with log := [] } request
    serveRun path? (resume reply state)

end PluginSandbox.CommandLine
