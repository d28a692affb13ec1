import PluginSandbox.Json.Value
import PluginSandbox.Plugin.Consent
import PluginSandbox.Script.Conversion

/-!
# Runs

Running code changes a state and may suspend: it asks its host for something, and goes on with
the reply and with whatever state the host hands back, which other code may have changed in the
meantime. A run therefore is a tree of requests whose leaves are results. Results and failures
carry the state that the run leaves behind; a failure undoes nothing.

A run that exceeds its bound on nested evaluations is exhausted, which is neither a result nor a
failure that a script could catch.
-/
namespace PluginSandbox.Script

open Plugin (CdnPolicy ConsentDecision DocumentError Resolution Settings SettingsError)

/-- What running code asks of its host. -/
inductive Request where
  /-- The turn to decide about fetching, which one check has at a time. -/
  | turn
  /-- The decision of the user about fetching a module from a network. -/
  | ask (module cdnUrl : String)
  /-- The writing of a decision. -/
  | persist (policy : CdnPolicy)
  /-- The content of a document. -/
  | document (path : String)
  /-- A module from a network. -/
  | fetch (module cdnUrl : String)
  /-- Nothing but a pause. -/
  | pause
  deriving DecidableEq, Repr

/-- What the host replies to a request. -/
@[reducible] def Request.Reply : Request → Type
  | .turn => Unit
  | .ask _ _ => ConsentDecision
  | .persist _ => Except SettingsError Unit
  | .document _ => Except DocumentError Json
  | .fetch _ _ => Except String HostValue
  | .pause => Unit

/-- What the host learns of, in order. -/
inductive Event where
  /-- A request was made. -/
  | requested (request : Request)
  /-- A failure was told to the user. -/
  | reported (title body : String)
  deriving DecidableEq, Repr

/-- What happens to a call of a script function. -/
inductive CallStage where
  /-- It begins. -/
  | began
  /-- It ends, with a result or a failure. -/
  | ended
  /-- It is refused, as too many calls are running. -/
  | refused
  deriving DecidableEq, Repr

/-- What happened to a call of a script function. -/
structure CallEvent where
  /-- Whether it began, ended or was refused. -/
  stage : CallStage
  /-- The realm that it runs in. -/
  realm : RealmRef
  /-- How many running calls the realm counted after that. -/
  depth : Nat
  deriving DecidableEq, Repr

/-- What running code reads and changes. -/
structure State where
  /-- The objects, scopes and realms. -/
  heap : Heap := {}
  /-- The entries of the log, in order. -/
  log : List LogEntry := []
  /-- What the host learned of, in order. -/
  journal : List Event := []
  /-- The settings as they read now. -/
  settings : Settings := {}
  /-- Whether a check about fetching is under way. -/
  isChecking : Bool := false
  /-- The state of the generator of random numbers. -/
  random : UInt64 := 0x2545f4914f6cdd1d
  /-- The requests for imports that have ended, in order. They are a record of what happened, and
  no code reads them. -/
  resolutions : List Resolution := []
  /-- What happened to calls of script functions, latest first. It is a record as well. -/
  calls : List CallEvent := []

instance : Inhabited State := ⟨{}⟩

/-- Enters what happened to a call in the record, with the count of its realm. -/
def State.recordCall (stage : CallStage) (realm : RealmRef) (state : State) : State :=
  { state with calls := ⟨stage, realm, (state.heap.realm realm).callDepth⟩ :: state.calls }

/-- A run that yields a result or fails, or waits for a reply of its host. -/
inductive Run (ε α : Type) where
  /-- The run has a result. -/
  | done (value : α) (state : State)
  /-- The run failed. -/
  | failed (error : ε) (state : State)
  /-- The run exceeded its bound. -/
  | exhausted
  /-- The run waits for the reply to a request. -/
  | waiting (request : Request) (state : State) (resume : request.Reply → State → Run ε α)

instance {ε α : Type} : Inhabited (Run ε α) := ⟨.exhausted⟩

namespace Run

/-- Goes on after a run, with its outcome and the state that it leaves. -/
def andThen {ε ε' α β : Type} (run : Run ε α) (next : Except ε α → State → Run ε' β) :
    Run ε' β :=
  match run with
  | .done value state => next (.ok value) state
  | .failed error state => next (.error error) state
  | .exhausted => .exhausted
  | .waiting request state resume =>
    .waiting request state fun reply state => (resume reply state).andThen next

/-- Goes on after a run that has a result. -/
def bind {ε α β : Type} (run : Run ε α) (next : α → State → Run ε β) : Run ε β :=
  match run with
  | .done value state => next value state
  | .failed error state => .failed error state
  | .exhausted => .exhausted
  | .waiting request state resume =>
    .waiting request state fun reply state => (resume reply state).bind next

end Run

/-- Code that can be run in a state. -/
def Code (ε α : Type) : Type := State → Run ε α

/-- Code of a script. -/
abbrev Eval (α : Type) : Type := Code RuntimeError α

namespace Code

variable {ε α β : Type}

instance : Monad (Code ε) where
  pure value := fun state => .done value state
  bind action next := fun state => (action state).bind next

instance : Inhabited (Code ε α) := ⟨fun _ => .exhausted⟩

/-- Code that exceeds its bound. -/
def exhausted : Code ε α := fun _ => .exhausted

/-- Code that fails. -/
def fail (error : ε) : Code ε α := fun state => .failed error state

/-- Code that computes from the state. -/
def reading (read : State → α) : Code ε α := fun state => .done (read state) state

/-- Code that changes the state. -/
def change (f : State → State) : Code ε Unit := fun state => .done () (f state)

/-- Code that yields a result or fails without a change. -/
def ofExcept : Except ε α → Code ε α
  | .ok value => pure value
  | .error error => fail error

/-- Runs code and turns its failure into a result. -/
def attempt {ε' : Type} (action : Code ε α) : Code ε' (Except ε α) := fun state =>
  (action state).andThen fun outcome state => .done outcome state

/-- Runs code and, whether it fails or not, changes the state in the end. -/
def afterwards (action : Code ε α) (f : State → State) : Code ε α := fun state =>
  (action state).andThen fun outcome state =>
    match outcome with
    | .ok value => .done value (f state)
    | .error error => .failed error (f state)

/-- Runs code with its failure turned into another one. -/
def mapError {ε' : Type} (f : ε → ε') (action : Code ε α) : Code ε' α := fun state =>
  (action state).andThen fun outcome state =>
    match outcome with
    | .ok value => .done value state
    | .error error => .failed (f error) state

/-- Computes from the heap. -/
def readHeap (read : Heap → α) : Code ε α := reading fun state => read state.heap

/-- Computes from the heap, or fails. -/
def tryHeap (read : Heap → Except ε α) : Code ε α := fun state =>
  match read state.heap with
  | .ok value => .done value state
  | .error error => .failed error state

/-- Changes the heap and yields a result. -/
def updateHeap (f : Heap → α × Heap) : Code ε α := fun state =>
  let (value, heap) := f state.heap
  .done value { state with heap }

/-- Changes the heap. -/
def changeHeap (f : Heap → Heap) : Code ε Unit :=
  change fun state => { state with heap := f state.heap }

/-- Creates an object. -/
def create (object : Object) : Code ε Value := updateHeap fun heap => heap.allocateValue object

/-- Creates an array. -/
def createArray (elements : List Value) : Code ε Value := create (.array elements {})

/-- Writes an entry of the log. -/
def note (level : LogLevel) (origin : LogOrigin) (text : String) : Code ε Unit :=
  change fun state => { state with log := state.log ++ [⟨level, origin, text⟩] }

/-- Tells the host of an event. -/
def tell (event : Event) : Code ε Unit :=
  change fun state => { state with journal := state.journal ++ [event] }

/-- Makes a request and waits for the reply. -/
def request (request : Request) : Code ε request.Reply := fun state =>
  .waiting request { state with journal := state.journal ++ [.requested request] }
    fun reply state => .done reply state

end Code

end PluginSandbox.Script
