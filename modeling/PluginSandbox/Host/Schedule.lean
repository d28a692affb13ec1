import PluginSandbox.Host.Scripted

/-!
# Running several actions at once

Several actions run on one state, a round at a time: in every round each action that has not
ended is resumed once, in order, and runs until it has to wait again.
-/
namespace PluginSandbox.Host

open Script

/-- An action that is under way. -/
inductive Task (ε α : Type) where
  /-- It has not started. -/
  | fresh (action : Code ε α)
  /-- It waits for the reply to a request. -/
  | suspended (request : Request) (resume : request.Reply → State → Run ε α)
  /-- It has ended; without an outcome if it exceeded its bound. -/
  | ended (outcome : Option (Except ε α))

namespace Task

variable {ε α : Type}

/-- The outcome of an action that has ended. -/
def outcome? : Task ε α → Option (Except ε α)
  | .ended outcome => outcome
  | _ => none

/-- Whether an action has ended. -/
def hasEnded : Task ε α → Bool
  | .ended _ => true
  | _ => false

/-- Follows a run until it ends or makes a request that takes time. The state is the one before
the run, for a run without a state of its own. -/
def settle (host : ScriptedHost) (before : State) : Run ε α → Task ε α × State
  | .done value state => (.ended (some (.ok value)), state)
  | .failed error state => (.ended (some (.error error)), state)
  | .exhausted => (.ended none, before)
  | .waiting request state resume =>
    match host.immediate? state request with
    | some (reply, next) => settle host next (resume reply next)
    | none => (.suspended request resume, state)

/-- Resumes an action once. -/
def poll (host : ScriptedHost) (state : State) :
    Task ε α → Task ε α × ScriptedHost × State
  | .fresh action =>
    let (task, state) := settle host state (action state)
    (task, host, state)
  | .suspended request resume =>
    match host.delayed? state request with
    | some (reply, next) =>
      let (task, state) := settle next state (resume reply state)
      (task, next, state)
    | none => (.suspended request resume, host, state)
  | .ended outcome => (.ended outcome, host, state)

/-- Resumes each of some actions once, in order. -/
def pollAll (host : ScriptedHost) (state : State) :
    List (Task ε α) → List (Task ε α) × ScriptedHost × State
  | [] => ([], host, state)
  | task :: rest =>
    let (task, host, state) := poll host state task
    let (rest, host, state) := pollAll host state rest
    (task :: rest, host, state)

/-- Resumes actions round by round until all have ended, for a bounded count of rounds. -/
def pollRounds : Nat → ScriptedHost → State → List (Task ε α) →
    List (Task ε α) × ScriptedHost × State
  | 0, host, state, tasks => (tasks, host, state)
  | bound + 1, host, state, tasks =>
    if tasks.all hasEnded then (tasks, host, state)
    else
      let (tasks, host, state) := pollAll host state tasks
      pollRounds bound host state tasks

end Task

/-- A bound on rounds that programs do not reach. -/
def roundBound : Nat := 1 <<< 62

/-- Runs actions at once and gives their outcomes in order. -/
def runAll {ε α : Type} (host : ScriptedHost) (state : State) (actions : List (Code ε α)) :
    List (Option (Except ε α)) × ScriptedHost × State :=
  let (tasks, host, state) := Task.pollRounds roundBound host state (actions.map .fresh)
  (tasks.map Task.outcome?, host, state)

/-- Runs one action. -/
def runAlone {ε α : Type} (host : ScriptedHost) (state : State) (action : Code ε α) :
    Option (Except ε α) × ScriptedHost × State :=
  let (outcomes, host, state) := runAll host state [action]
  ((outcomes.head?).join, host, state)

end PluginSandbox.Host
