import PluginSandbox.Host.Schedule

/-!
# Interleavings of tasks

Tasks share one state and are resumed one at a time, in any order and with any reply that the
host may give. A write of the settings is requested, reaches the settings at some later moment,
and is acknowledged after that; the settings may also be changed from outside at any moment. A
turn is granted only while no check is under way: that is all that is assumed of the lock.
-/
namespace PluginSandbox.Interleaving

open Host Plugin Script

/-- A reply of the host to a request of some kind. -/
inductive Answer where
  /-- The turn to check is granted. -/
  | turn
  /-- The user has answered. -/
  | decided (decision : ConsentDecision)
  /-- A write has ended. -/
  | written (outcome : Except SettingsError Unit)
  /-- A document was read, or could not be. -/
  | document (outcome : Except DocumentError Json)
  /-- A module was fetched, or could not be. -/
  | fetched (outcome : Except String HostValue)
  /-- A pause is over. -/
  | paused

/-- The reply that an answer is to a request, if its kind fits. -/
def Answer.reply? : Answer → (request : Request) → Option request.Reply
  | .turn, .turn => some ()
  | .decided decision, .ask _ _ => some decision
  | .written outcome, .persist _ => some outcome
  | .document outcome, .document _ => some outcome
  | .fetched outcome, .fetch _ _ => some outcome
  | .paused, .pause => some ()
  | _, _ => none

/-- Tasks on one state. -/
structure World (ε α : Type) where
  /-- The shared state. -/
  state : State
  /-- The tasks in the order in which they were called. -/
  tasks : List (Task ε α) := []
  /-- The tasks whose pending write has reached the settings. -/
  landed : List Nat := []

/-- One move of the host, of the tasks or from outside. -/
inductive Move (γ : Type) where
  /-- A task is called. -/
  | call (argument : γ)
  /-- A task runs for the first time. -/
  | start (task : Nat)
  /-- A task goes on with an answer. -/
  | resume (task : Nat) (answer : Answer)
  /-- The pending write of a task reaches the settings. -/
  | land (task : Nat)
  /-- The settings are changed explicitly. -/
  | settle (settings : Settings)

/-- The task that a move runs. -/
def Move.polled {γ : Type} : Move γ → Option Nat
  | .start task | .resume task _ => some task
  | .call _ | .land _ | .settle _ => none

/-- Whether a move sets the settings so that the decision is open. -/
def Move.reopens {γ : Type} : Move γ → Bool
  | .settle settings => settings.policy == .awaitingDecision
  | _ => false

namespace World

variable {ε α γ : Type}

/-- The task and the state that a run leaves when it waits or ends. -/
def suspend (before : State) : Run ε α → Task ε α × State
  | .done value state => (.ended (some (.ok value)), state)
  | .failed error state => (.ended (some (.error error)), state)
  | .exhausted => (.ended none, before)
  | .waiting request state resume => (.suspended request resume, state)

/-- The world after a task has run. -/
def advance (world : World ε α) (task : Nat) (run : Run ε α) : World ε α :=
  { state := (suspend world.state run).2
    tasks := world.tasks.set task (suspend world.state run).1
    landed := world.landed.filter (· ≠ task) }

/-- Whether the host may give a reply now: a turn while no check is under way, and the
acknowledgement of a write after it has reached the settings. -/
def mayReply (world : World ε α) (task : Nat) : (request : Request) → request.Reply → Bool
  | .turn, _ => !world.state.isChecking
  | .persist _, .ok _ => world.landed.contains task
  | _, _ => true

/-- The world with other settings. -/
def withSettings (world : World ε α) (settings : Settings) : World ε α :=
  { world with state := { world.state with settings } }

/-- The world after a move, if the move is possible. -/
def move? (program : γ → Code ε α) (world : World ε α) : Move γ → Option (World ε α)
  | .call argument => some { world with tasks := world.tasks ++ [.fresh (program argument)] }
  | .start task =>
    match world.tasks[task]? with
    | some (.fresh action) => some (world.advance task (action world.state))
    | _ => none
  | .resume task answer =>
    match world.tasks[task]? with
    | some (.suspended request resume) =>
      match answer.reply? request with
      | some reply =>
        if world.mayReply task request reply then
          some (world.advance task (resume reply world.state))
        else none
      | none => none
    | _ => none
  | .land task =>
    match world.tasks[task]? with
    | some (.suspended (.persist policy) _) =>
      if world.landed.contains task then none
      else
        let settings := { world.state.settings with policy }
        some { world.withSettings settings with landed := task :: world.landed }
    | _ => none
  | .settle settings => some (world.withSettings settings)

/-- The world after several moves, if they are possible. -/
def run? (program : γ → Code ε α) (world : World ε α) : List (Move γ) → Option (World ε α)
  | [] => some world
  | move :: moves => (world.move? program move).bind fun next => next.run? program moves

/-- A world without tasks, in which no check is under way. -/
def idle (state : State) : World ε α := { state := { state with isChecking := false } }

/-- Whether a task has the question to the user open. -/
def isAsking (world : World ε α) (task : Nat) : Bool :=
  match world.tasks[task]? with
  | some (.suspended (.ask _ _) _) => true
  | _ => false

/-- How many questions to the user are open. -/
def openPrompts (world : World ε α) : Nat :=
  world.tasks.countP fun
    | .suspended (.ask _ _) _ => true
    | _ => false

/-- Whether a move that leads to a world opens a question to the user. A task that is run stops
at its next request, so it opens a question exactly if it stops at one. -/
def opensPrompt (after : World ε α) (move : Move γ) : Bool :=
  match move.polled with
  | some task => after.isAsking task
  | none => false

/-- How many questions to the user a task opens in the course of some moves. -/
def promptsOf (program : γ → Code ε α) (task : Nat) (world : World ε α) :
    List (Move γ) → Nat
  | [] => 0
  | move :: moves =>
    match world.move? program move with
    | some next =>
      (if next.opensPrompt move && move.polled == some task then 1 else 0)
        + next.promptsOf program task moves
    | none => 0

end World

end PluginSandbox.Interleaving
