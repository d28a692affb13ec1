import PluginSandbox.Proofs.Script.Faults
import PluginSandbox.Proofs.Script.Runs
import PluginSandbox.Proofs.Script.Scopes
import PluginSandbox.Proofs.Script.Sources
import PluginSandbox.Script.Evaluation.Calls

/-!
# Conduct

Code shares its state with other code, which runs whenever it waits. A conduct says what all of
them keep to: what holds of the state whenever code waits or ends, how code may change the state
until then, what it has to expect of others and of the host while it waits, and what it may ask
for. Code that keeps to a conduct does so whatever the host answers and others do within the
conduct.

What scripts do by themselves is listed once, as steps, and every conduct admits these steps.
Whether a script keeps to a conduct is then a matter of the modules that it loads. A conduct may
also measure the state by a level, which calls of script functions change and code restores before
it ends, and it may name scopes in which no code declares a name. What it says of single scopes is
assumed of those that running code sees, and of those that functions see.
-/
namespace PluginSandbox.Script

open Plugin (ResolveError)

/-- What a script does to the state by itself, apart from loading modules and running calls. -/
inductive ScriptStep (allowed : ModuleSource → Prop) (declares : ScopeRef → Prop)
    (sees : Environment → Prop) (state : State) : State → Prop where
  /-- It changes objects and scopes. Functions that it creates see what it sees, modules are loaded
  from allowed sources alone, and names are declared in allowed scopes alone. -/
  | heap (heap : Heap)
    (obeys : ∀ {rule : FunctionRule}, rule.Suits allowed sees → state.heap.Obeys rule →
      heap.Obeys rule)
    (realms : heap.realms = state.heap.realms) (spares : state.heap.Spares declares heap) :
    ScriptStep allowed declares sees state { state with heap }
  /-- It draws a random number. -/
  | draw (random : UInt64) : ScriptStep allowed declares sees state { state with random }
  /-- It writes to the log. -/
  | print (level : LogLevel) (text : String) :
    ScriptStep allowed declares sees state
      { state with log := state.log ++ [⟨level, .plugin, text⟩] }
  /-- It pauses. -/
  | pause : ScriptStep allowed declares sees state
      { state with journal := state.journal ++ [.requested .pause] }
  /-- A call of it is refused. -/
  | refuse (realm : RealmRef)
    (full : Evaluation.maximumDepth ≤ (state.heap.realm realm).callDepth) :
    ScriptStep allowed declares sees state (state.recordCall .refused realm)

/-- A step keeps the sources that modules are loaded from. -/
theorem ScriptStep.loads {allowed : ModuleSource → Prop} {declares : ScopeRef → Prop}
    {sees : Environment → Prop} {before after : State}
    (step : ScriptStep allowed declares sees before after)
    (loads : before.heap.LoadsFrom allowed) : after.heap.LoadsFrom allowed := by
  cases step with
  | heap heap obeys => exact obeys (FunctionRule.suits_loading allowed sees) loads.obeys
  | _ => exact loads

/-- Whether a change of the state is one that code may make: what is to hold holds after it, and
the level stays. -/
structure Admitted (holds : State → Prop) (acts : State → State → Prop)
    (level : Nat → State → Prop) (before after : State) : Prop where
  acts : acts before after
  holds : holds after
  level : ∀ height, level height before → level height after

/-- What code that shares a state keeps to. -/
structure Conduct where
  /-- Where functions load modules from. -/
  source : ModuleSource → Prop
  /-- The scopes in which code may declare names. -/
  declares : ScopeRef → Prop := fun _ => True
  /-- What is known in a state of the scopes that code sees. -/
  knows : ScopeRef → State → Prop := fun _ _ => True
  /-- What holds whenever code waits or ends. -/
  holds : State → Prop
  /-- How code may change the state until it waits or ends. -/
  acts : State → State → Prop
  /-- How others may change the state while code waits. -/
  others : State → State → Prop
  /-- What the host may answer to a request. -/
  answers : (request : Request) → request.Reply → Prop := fun _ _ => True
  /-- What code may ask for in a state. -/
  asks : Request → State → Prop
  /-- The failures of imports that code may fail with in a state. -/
  raises : ResolveError → State → Prop
  /-- On which level a state is. Code ends on the level that it started on. -/
  level : Nat → State → Prop := fun _ _ => True
  /-- The level on which a call in a realm runs that is made on some level. -/
  callLevel : RealmRef → Nat → Nat := fun _ height => height
  acts_refl : ∀ state, acts state state
  acts_trans : ∀ {before state after}, acts before state → acts state after → acts before after
  raises_acts : ∀ {before after} error, acts before after → raises error before →
    raises error after
  raises_others : ∀ {before after} error, others before after → raises error before →
    raises error after
  level_others : ∀ {before after height}, others before after → level height before →
    level height after := by exact fun _ now => now
  knows_acts : ∀ {before after ref}, acts before after → knows ref before → knows ref after := by
    exact fun _ _ => trivial
  knows_others : ∀ {before after ref}, others before after → knows ref before →
    knows ref after := by exact fun _ _ => trivial
  knows_new : ∀ {state} (scope : Scope) (outer : List ScopeRef), holds state →
    knows ⟨state.heap.scopes.size⟩
      { state with heap := (state.heap.newScope scope outer).2 } := by exact fun _ _ _ => trivial
  knows_globals : ∀ {state} (realm : RealmRef) (scope : Scope) (outer : List ScopeRef),
    holds state → knows (state.heap.realm realm).globals
      { state with heap := (state.heap.newScope scope outer).2 } := by
    exact fun _ _ _ _ => trivial
  functions : ∀ {state}, holds state → state.heap.Obeys (.seeing (knows · state)) := by
    exact fun {state} _ => state.heap.obeys_seeing_anything
  loads : ∀ {state}, holds state → state.heap.LoadsFrom source
  fresh : ∀ {state}, holds state → declares ⟨state.heap.scopes.size⟩ := by exact fun _ => trivial
  step : ∀ {before after}, holds before →
    ScriptStep source declares (fun environment => ∀ ref ∈ environment.scopes, knows ref before)
      before after → Admitted holds acts level before after
  begins : ∀ {state} realm, holds state →
    (state.heap.realm realm).callDepth < Evaluation.maximumDepth →
    acts state (Evaluation.beginCall realm state) ∧ holds (Evaluation.beginCall realm state) ∧
      ∀ height, level height state →
        level (callLevel realm height) (Evaluation.beginCall realm state)
  leaves : ∀ {state} realm height, holds state → level (callLevel realm height) state →
    acts state (Evaluation.leaveCall realm state) ∧ holds (Evaluation.leaveCall realm state) ∧
      level height (Evaluation.leaveCall realm state)
  pauses : ∀ {state}, holds state → asks .pause state

/-- Whether code of a conduct may change the state in this way, between calls. -/
abbrev Conduct.Admits (conduct : Conduct) (before after : State) : Prop :=
  Admitted conduct.holds conduct.acts conduct.level before after

/-- What others may do while code waits: the conduct is kept. -/
def Conduct.Interferes (conduct : Conduct) (before after : State) : Prop :=
  conduct.holds after ∧ conduct.others before after

variable {ε ε' α β : Type} {conduct : Conduct}

namespace Run

/-- Whether a run that goes on from a state keeps to a conduct and comes to an allowed end. -/
def Keeps (conduct : Conduct) (ends : α → State → Prop) (fails : ε → State → Prop) :
    State → Run ε α → Prop
  | before, .done value state =>
    (conduct.acts before state ∧ conduct.holds state) ∧ ends value state
  | before, .failed error state =>
    (conduct.acts before state ∧ conduct.holds state) ∧ fails error state
  | _, .exhausted => True
  | before, .waiting request state resume =>
    (conduct.acts before state ∧ conduct.holds state) ∧ conduct.asks request state ∧
      ∀ reply next, conduct.answers request reply → conduct.holds next →
        conduct.others state next → (resume reply next).Keeps conduct ends fails next

variable {ends : α → State → Prop} {fails : ε → State → Prop} {before state : State}
  {run : Run ε α}

/-- A run also keeps to a conduct from an earlier state. -/
theorem Keeps.since (keeps : run.Keeps conduct ends fails state)
    (acts : conduct.acts before state) : run.Keeps conduct ends fails before := by
  cases run with
  | done value after => exact ⟨⟨conduct.acts_trans acts keeps.1.1, keeps.1.2⟩, keeps.2⟩
  | failed error after => exact ⟨⟨conduct.acts_trans acts keeps.1.1, keeps.1.2⟩, keeps.2⟩
  | exhausted => trivial
  | waiting request after resume =>
    exact ⟨⟨conduct.acts_trans acts keeps.1.1, keeps.1.2⟩, keeps.2⟩

/-- A run that keeps to a conduct goes on to one that does. -/
theorem Keeps.andThen {ends' : β → State → Prop} {fails' : ε' → State → Prop}
    {next : Except ε α → State → Run ε' β} (keeps : run.Keeps conduct ends fails before)
    (done : ∀ value state, conduct.holds state → ends value state →
      (next (.ok value) state).Keeps conduct ends' fails' state)
    (failed : ∀ error state, conduct.holds state → fails error state →
      (next (.error error) state).Keeps conduct ends' fails' state) :
    (run.andThen next).Keeps conduct ends' fails' before := by
  induction run generalizing before with
  | done value state => exact (done value state keeps.1.2 keeps.2).since keeps.1.1
  | failed error state => exact (failed error state keeps.1.2 keeps.2).since keeps.1.1
  | exhausted => trivial
  | waiting request state resume ih =>
    obtain ⟨step, asks, goesOn⟩ := keeps
    exact ⟨step, asks, fun reply next answers holds seen =>
      ih reply next (goesOn reply next answers holds seen)⟩

/-- A run with a result goes on to one that keeps to the conduct. -/
theorem Keeps.bind {ends' : β → State → Prop} {next : α → State → Run ε β}
    (keeps : run.Keeps conduct ends fails before)
    (done : ∀ value state, conduct.holds state → ends value state →
      (next value state).Keeps conduct ends' fails state) :
    (run.bind next).Keeps conduct ends' fails before := by
  rw [Run.bind_eq_andThen]
  exact keeps.andThen done fun error state holds now => ⟨⟨conduct.acts_refl state, holds⟩, now⟩

/-- The ends that are allowed may be more. -/
theorem Keeps.mono {ends' : α → State → Prop} {fails' : ε → State → Prop}
    (keeps : run.Keeps conduct ends fails before)
    (done : ∀ value state, conduct.holds state → ends value state → ends' value state)
    (failed : ∀ error state, conduct.holds state → fails error state → fails' error state) :
    run.Keeps conduct ends' fails' before := by
  induction run generalizing before with
  | done value state => exact ⟨keeps.1, done value state keeps.1.2 keeps.2⟩
  | failed error state => exact ⟨keeps.1, failed error state keeps.1.2 keeps.2⟩
  | exhausted => trivial
  | waiting request state resume ih =>
    obtain ⟨step, asks, goesOn⟩ := keeps
    exact ⟨step, asks, fun reply next answers holds seen =>
      ih reply next (goesOn reply next answers holds seen)⟩

/-- What neither the code nor others undo still holds in the end. -/
theorem Keeps.frame {assumed : State → Prop}
    (own : ∀ {before after}, conduct.acts before after → assumed before → assumed after)
    (foreign : ∀ {before after}, conduct.others before after → assumed before → assumed after)
    (keeps : run.Keeps conduct ends fails before) (now : assumed before) :
    run.Keeps conduct (fun value state => ends value state ∧ assumed state)
      (fun error state => fails error state ∧ assumed state) before := by
  induction run generalizing before with
  | done value state => exact ⟨keeps.1, keeps.2, own keeps.1.1 now⟩
  | failed error state => exact ⟨keeps.1, keeps.2, own keeps.1.1 now⟩
  | exhausted => trivial
  | waiting request state resume ih =>
    obtain ⟨step, asks, goesOn⟩ := keeps
    exact ⟨step, asks, fun reply next answers holds seen =>
      ih reply next (goesOn reply next answers holds seen) (foreign seen (own step.1 now))⟩

/-- What a run that keeps to a conduct comes to, while others keep to it as well, is allowed. -/
theorem Keeps.comesTo {outcome : Except ε α} {after : State}
    (keeps : run.Keeps conduct ends fails before)
    (comes : run.ComesTo conduct.Interferes outcome after)
    (answers : ∀ request reply, conduct.answers request reply := by exact fun _ _ => trivial) :
    conduct.holds after ∧ (∀ value, outcome = .ok value → ends value after) ∧
      ∀ error, outcome = .error error → fails error after := by
  induction run generalizing before with
  | done value state =>
    obtain ⟨rfl, rfl⟩ := comes
    refine ⟨keeps.1.2, ?_, nofun⟩
    rintro _ ⟨⟩
    exact keeps.2
  | failed error state =>
    obtain ⟨rfl, rfl⟩ := comes
    refine ⟨keeps.1.2, nofun, ?_⟩
    rintro _ ⟨⟩
    exact keeps.2
  | exhausted => exact comes.elim
  | waiting request state resume ih =>
    obtain ⟨reply, next, ⟨holds, seen⟩, comes⟩ := comes
    exact ih reply next (keeps.2.2 reply next (answers request reply) holds seen) comes

/-- Whenever a run that keeps to a conduct waits, while others keep to it as well, it is kept, what
the run asks for is admitted, and what neither the code nor others undo still holds. -/
theorem Keeps.waits {assumed : State → Prop} {request : Request} {asking : State}
    (own : ∀ {before after}, conduct.acts before after → assumed before → assumed after)
    (foreign : ∀ {before after}, conduct.others before after → assumed before → assumed after)
    (keeps : run.Keeps conduct ends fails before) (now : assumed before)
    (asks : run.Asks conduct.Interferes request asking)
    (answers : ∀ request reply, conduct.answers request reply := by exact fun _ _ => trivial) :
    conduct.holds asking ∧ conduct.asks request asking ∧ assumed asking := by
  induction run generalizing before with
  | waiting earlier state resume ih =>
    obtain ⟨step, admitted, goesOn⟩ := keeps
    have still := own step.1 now
    rcases asks with ⟨rfl, rfl⟩ | ⟨reply, next, ⟨holds, seen⟩, asks⟩
    · exact ⟨step.2, admitted, still⟩
    · exact ih reply next (goesOn reply next (answers earlier reply) holds seen)
        (foreign seen still) asks
  | _ => exact asks.elim

/-- What a run that keeps to a conduct asks for, while others keep to it as well, is admitted. -/
theorem Keeps.asks {request : Request} {asking : State}
    (keeps : run.Keeps conduct ends fails before)
    (asks : run.Asks conduct.Interferes request asking)
    (answers : ∀ request reply, conduct.answers request reply := by exact fun _ _ => trivial) :
    conduct.asks request asking := by
  have own {before after} (_ : conduct.acts before after) (_ : True) : True := trivial
  exact (keeps.waits own (fun _ now => now) trivial asks answers).2.1

end Run

/-- Whether code that starts in allowed states keeps to a conduct and comes to an allowed end, on
the level that it started on. -/
def Conduct.Keeps (conduct : Conduct) (starts : State → Prop) (code : Code ε α)
    (ends : α → State → Prop) (fails : ε → State → Prop) : Prop :=
  ∀ height state, conduct.holds state → conduct.level height state → starts state →
    (code state).Keeps conduct (fun value after => ends value after ∧ conduct.level height after)
      (fun error after => fails error after ∧ conduct.level height after) state

namespace Conduct.Keeps

variable {starts : State → Prop} {ends : α → State → Prop} {fails : ε → State → Prop}
  {code : Code ε α}

/-- Code runs as it may from a state that is on some level. -/
theorem run (keeps : conduct.Keeps starts code ends fails) (state : State)
    (holds : conduct.holds state) (start : starts state)
    (leveled : ∃ height, conduct.level height state := by exact ⟨0, trivial⟩) :
    (code state).Keeps conduct ends fails state := by
  obtain ⟨height, level⟩ := leveled
  exact (keeps height state holds level start).mono (fun _ _ _ now => now.1) fun _ _ _ now => now.1

theorem pure {value : α} (now : ∀ state, conduct.holds state → starts state → ends value state) :
    conduct.Keeps starts (pure value : Code ε α) ends fails :=
  fun _ state holds level start =>
    ⟨⟨conduct.acts_refl state, holds⟩, now state holds start, level⟩

theorem fail {error : ε} (now : ∀ state, conduct.holds state → starts state → fails error state) :
    conduct.Keeps starts (Code.fail error : Code ε α) ends fails :=
  fun _ state holds level start =>
    ⟨⟨conduct.acts_refl state, holds⟩, now state holds start, level⟩

theorem exhausted : conduct.Keeps starts (Code.exhausted : Code ε α) ends fails :=
  fun _ _ _ _ _ => trivial

theorem ite {condition : Prop} [Decidable condition] {yes no : Code ε α}
    (first : conduct.Keeps starts yes ends fails) (second : conduct.Keeps starts no ends fails) :
    conduct.Keeps starts (if condition then yes else no) ends fails := by
  split
  · exact first
  · exact second

theorem reading {read : State → α}
    (now : ∀ state, conduct.holds state → starts state → ends (read state) state) :
    conduct.Keeps starts (Code.reading read : Code ε α) ends fails :=
  fun _ state holds level start =>
    ⟨⟨conduct.acts_refl state, holds⟩, now state holds start, level⟩

theorem tryHeap {read : Heap → Except ε α}
    (done : ∀ state value, conduct.holds state → starts state → read state.heap = .ok value →
      ends value state)
    (failed : ∀ state error, conduct.holds state → starts state →
      read state.heap = .error error → fails error state) :
    conduct.Keeps starts (Code.tryHeap read) ends fails := by
  intro height state holds level start
  cases result : read state.heap with
  | ok value =>
    simp only [Code.tryHeap, result]
    exact ⟨⟨conduct.acts_refl state, holds⟩, done state value holds start result, level⟩
  | error error =>
    simp only [Code.tryHeap, result]
    exact ⟨⟨conduct.acts_refl state, holds⟩, failed state error holds start result, level⟩

/-- Code that changes the state in a way that the conduct admits. -/
theorem admitted (f : State → α × State)
    (admits : ∀ state, conduct.holds state → conduct.Admits state (f state).2)
    (now : ∀ state, conduct.holds state → starts state → ends (f state).1 (f state).2) :
    conduct.Keeps starts (fun state => .done (f state).1 (f state).2 : Code ε α) ends fails :=
  fun height state holds level start =>
    have step := admits state holds
    ⟨⟨step.acts, step.holds⟩, now state holds start, step.level height level⟩

/-- A change that the conduct admits. -/
theorem change {f : State → State} {ends : Unit → State → Prop}
    (admits : ∀ state, conduct.holds state → conduct.Admits state (f state))
    (now : ∀ state, conduct.holds state → starts state → ends () (f state)) :
    conduct.Keeps starts (Code.change f : Code ε Unit) ends fails :=
  .admitted (fun state => ((), f state)) admits now

/-- A change of the heap that the conduct admits. -/
theorem updating {f : Heap → α × Heap}
    (admits : ∀ state, conduct.holds state →
      conduct.Admits state { state with heap := (f state.heap).2 }) :
    conduct.Keeps starts (Code.updateHeap f : Code ε α) (fun _ _ => True) fails :=
  .admitted (fun state => ((f state.heap).1, { state with heap := (f state.heap).2 })) admits
    fun _ _ _ => trivial

/-- A change of objects alone that brings in functions of the library and the host alone. -/
theorem updateHeap {f : Heap → α × Heap}
    (obeys : ∀ {rule : FunctionRule} (heap : Heap), heap.Obeys rule → (f heap).2.Obeys rule)
    (alters : ∀ heap : Heap, heap.AltersObjects (f heap).2 := by exact fun _ => ⟨rfl, rfl⟩) :
    conduct.Keeps starts (Code.updateHeap f : Code ε α) (fun _ _ => True) fails :=
  .updating fun state holds =>
    have alters := alters state.heap
    conduct.step holds
      (.heap _ (fun _ => obeys state.heap) alters.realms (.of_scopes alters.scopes))

theorem bind {middle : β → State → Prop} {first : Code ε β} {next : β → Code ε α}
    (before : conduct.Keeps starts first middle fails)
    (after : ∀ value, conduct.Keeps (middle value) (next value) ends fails) :
    conduct.Keeps starts (first >>= next) ends fails :=
  fun height state holds level start =>
    (before height state holds level start).bind fun value state holds now =>
      after value height state holds now.2 now.1

/-- Code that goes on whatever its first part has come to. -/
theorem seq {first : Code ε β} {next : β → Code ε α}
    (before : conduct.Keeps starts first (fun _ _ => True) fails)
    (after : ∀ value, conduct.Keeps (fun _ => True) (next value) ends fails) :
    conduct.Keeps starts (first >>= next) ends fails :=
  before.bind after

theorem mono {starts' : State → Prop} {ends' : α → State → Prop} {fails' : ε → State → Prop}
    (keeps : conduct.Keeps starts' code ends' fails')
    (start : ∀ state, conduct.holds state → starts state → starts' state)
    (done : ∀ value state, conduct.holds state → ends' value state → ends value state)
    (failed : ∀ error state, conduct.holds state → fails' error state → fails error state) :
    conduct.Keeps starts code ends fails :=
  fun height state holds level now =>
    (keeps height state holds level (start state holds now)).mono
      (fun value state holds now => ⟨done value state holds now.1, now.2⟩)
      (fun error state holds now => ⟨failed error state holds now.1, now.2⟩)

/-- Code that keeps to a conduct from some states does so from fewer. -/
theorem given {starts' : State → Prop} (keeps : conduct.Keeps starts' code ends fails)
    (start : ∀ state, starts state → starts' state) : conduct.Keeps starts code ends fails :=
  fun height state holds level now => keeps height state holds level (start state now)

/-- What does not depend on the state may be assumed of it. -/
theorem assuming {fact : Prop} (keeps : fact → conduct.Keeps (fun _ => True) code ends fails) :
    conduct.Keeps (fun _ => fact) code ends fails :=
  fun height state holds level now => keeps now height state holds level trivial

/-- A failure that becomes a result allows whatever is allowed of the failure. -/
theorem attempt {fails' : ε' → State → Prop} (keeps : conduct.Keeps starts code ends fails) :
    conduct.Keeps starts (Code.attempt code : Code ε' (Except ε α))
      (fun outcome state => match outcome with
        | .ok value => ends value state
        | .error error => fails error state) fails' :=
  fun height state holds level start => (keeps height state holds level start).andThen
    (fun _ state holds now => ⟨⟨conduct.acts_refl state, holds⟩, now⟩)
    (fun _ state holds now => ⟨⟨conduct.acts_refl state, holds⟩, now⟩)

theorem mapError {f : ε → ε'} {fails' : ε' → State → Prop}
    (keeps : conduct.Keeps starts code ends fails)
    (failed : ∀ error state, conduct.holds state → fails error state → fails' (f error) state) :
    conduct.Keeps starts (Code.mapError f code) ends fails' :=
  fun height state holds level start => (keeps height state holds level start).andThen
    (fun _ state holds now => ⟨⟨conduct.acts_refl state, holds⟩, now⟩)
    (fun error state holds now => ⟨⟨conduct.acts_refl state, holds⟩,
      failed error state holds now.1, now.2⟩)

/-- A change in the end that the conduct admits. -/
theorem afterwards {f : State → State} {ends' : α → State → Prop} {fails' : ε → State → Prop}
    (keeps : conduct.Keeps starts code ends fails)
    (last : ∀ state, conduct.holds state → conduct.Admits state (f state))
    (done : ∀ value state, conduct.holds state → ends value state → ends' value (f state))
    (failed : ∀ error state, conduct.holds state → fails error state → fails' error (f state)) :
    conduct.Keeps starts (Code.afterwards code f) ends' fails' :=
  fun height state holds level start => (keeps height state holds level start).andThen
    (fun value state holds now =>
      have step := last state holds
      ⟨⟨step.acts, step.holds⟩, done value state holds now.1, step.level height now.2⟩)
    (fun error state holds now =>
      have step := last state holds
      ⟨⟨step.acts, step.holds⟩, failed error state holds now.1, step.level height now.2⟩)

/-- A request that the conduct admits. -/
theorem request {request : Request} {ends : request.Reply → State → Prop}
    (admits : ∀ state, conduct.holds state → starts state →
      let asking := { state with journal := state.journal ++ [.requested request] }
      conduct.Admits state asking ∧ conduct.asks request asking)
    (now : ∀ reply state, conduct.answers request reply → conduct.holds state →
      ends reply state) :
    conduct.Keeps starts (Code.request request : Code ε request.Reply) ends fails :=
  fun height state holds level start =>
    have ⟨step, asks⟩ := admits state holds start
    ⟨⟨step.acts, step.holds⟩, asks, fun reply next answers holds others =>
      ⟨⟨conduct.acts_refl next, holds⟩, now reply next answers holds,
        conduct.level_others others (step.level height level)⟩⟩

/-- What neither the code nor others undo still holds when the code has a result. -/
theorem frame {assumed : State → Prop}
    (own : ∀ {before after}, conduct.acts before after → assumed before → assumed after)
    (foreign : ∀ {before after}, conduct.others before after → assumed before → assumed after)
    (keeps : conduct.Keeps starts code ends fails) :
    conduct.Keeps (fun state => starts state ∧ assumed state) code
      (fun value state => ends value state ∧ assumed state) fails :=
  fun height state holds level start =>
    ((keeps height state holds level start.1).frame own foreign start.2).mono
      (fun _ _ _ now => ⟨⟨now.1.1, now.2⟩, now.1.2⟩) (fun _ _ _ now => now.1)

end Conduct.Keeps

/-- A call of a script function runs between its begin and its end, or is refused if as many calls
as may run are running. -/
theorem Evaluation.enterCall_bind (realm : RealmRef) (code : Eval α) (state : State) :
    (enterCall realm >>= fun _ => code) state =
      if maximumDepth ≤ (state.heap.realm realm).callDepth then
        .failed (.range "Maximum call stack size exceeded") (state.recordCall .refused realm)
      else code (beginCall realm state) := by
  change Run.bind ((if maximumDepth ≤ (state.heap.realm realm).callDepth then _ else _ :
    Eval Unit) state) _ = _
  by_cases full : maximumDepth ≤ (state.heap.realm realm).callDepth
  · rw [if_pos full, if_pos full]
    rfl
  · rw [if_neg full, if_neg full]
    rfl

/-- What an error of a script tells of the state: the failure of an import was met by an
import. -/
def Conduct.Raises (conduct : Conduct) : RuntimeError → State → Prop
  | .importFailed error, state => conduct.raises error state
  | _, _ => True

/-- What is known of some scopes. -/
def Conduct.Knows (conduct : Conduct) (scopes : List ScopeRef) (state : State) : Prop :=
  ∀ ref ∈ scopes, conduct.knows ref state

theorem Conduct.Knows.acts {scopes : List ScopeRef} {before after : State}
    (acts : conduct.acts before after) (knows : conduct.Knows scopes before) :
    conduct.Knows scopes after :=
  fun ref member => conduct.knows_acts acts (knows ref member)

theorem Conduct.Knows.others {scopes : List ScopeRef} {before after : State}
    (others : conduct.others before after) (knows : conduct.Knows scopes before) :
    conduct.Knows scopes after :=
  fun ref member => conduct.knows_others others (knows ref member)

/-- What a script may do by itself under a conduct. -/
abbrev Conduct.Takes (conduct : Conduct) (before after : State) : Prop :=
  ScriptStep conduct.source conduct.declares
    (fun environment => conduct.Knows environment.scopes before) before after

/-- Whether the code of a script that sees some scopes keeps to a conduct. -/
def Conduct.Sound (conduct : Conduct) (scopes : List ScopeRef) (code : Eval α) : Prop :=
  conduct.Keeps (conduct.Knows scopes) code (fun _ _ => True) conduct.Raises

theorem Conduct.raises_of_fault {error : RuntimeError} (fault : error.IsFault) (state : State) :
    conduct.Raises error state := by
  cases error with
  | importFailed failure => exact fault.elim
  | _ => trivial

theorem Conduct.Raises.acts {error : RuntimeError} {before after : State}
    (raises : conduct.Raises error before) (acts : conduct.acts before after) :
    conduct.Raises error after := by
  cases error with
  | importFailed failure => exact conduct.raises_acts failure acts raises
  | _ => trivial

theorem Conduct.Raises.others {error : RuntimeError} {before after : State}
    (raises : conduct.Raises error before) (others : conduct.others before after) :
    conduct.Raises error after := by
  cases error with
  | importFailed failure => exact conduct.raises_others failure others raises
  | _ => trivial

/-- What is known of an outcome of a script: the failure of an import was met by an import. -/
def Conduct.Known (conduct : Conduct) (outcome : Except RuntimeError α) (state : State) : Prop :=
  ∀ error, outcome = .error error → conduct.Raises error state

theorem Conduct.known_acts (conduct : Conduct) (outcome : Except RuntimeError α)
    {before after : State} (acts : conduct.acts before after)
    (known : conduct.Known outcome before) : conduct.Known outcome after :=
  fun error failed => (known error failed).acts acts

theorem Conduct.known_others (conduct : Conduct) (outcome : Except RuntimeError α)
    {before after : State} (others : conduct.others before after)
    (known : conduct.Known outcome before) : conduct.Known outcome after :=
  fun error failed => (known error failed).others others

namespace Conduct.Sound

variable {code : Eval α} {scopes : List ScopeRef}

theorem pure (value : α) : conduct.Sound scopes (pure value) :=
  Keeps.pure fun _ _ _ => trivial

theorem fault {error : RuntimeError} (fault : error.IsFault) :
    conduct.Sound scopes (Code.fail error : Eval α) :=
  Keeps.fail fun state _ _ => raises_of_fault fault state

theorem exhausted : conduct.Sound scopes (Code.exhausted : Eval α) :=
  Keeps.exhausted

/-- Code that sees more scopes keeps to a conduct as well. -/
theorem weaken {others : List ScopeRef} (sound : conduct.Sound scopes code)
    (sees : scopes ⊆ others) : conduct.Sound others code :=
  sound.given fun _ knows ref member => knows ref (sees member)

/-- What is known of the scopes that code sees is still known when it goes on. -/
theorem bind {first : Eval β} {next : β → Eval α} (before : conduct.Sound scopes first)
    (after : ∀ value, conduct.Sound scopes (next value)) :
    conduct.Sound scopes (first >>= next) := by
  have framed : conduct.Keeps (fun state => conduct.Knows scopes state ∧ conduct.Knows scopes state)
      first (fun _ state => True ∧ conduct.Knows scopes state) conduct.Raises :=
    before.frame Knows.acts Knows.others
  exact Keeps.bind (framed.given fun _ knows => ⟨knows, knows⟩) fun value =>
    (after value).given fun _ now => now.2

theorem map {f : β → α} {code : Eval β} (sound : conduct.Sound scopes code) :
    conduct.Sound scopes (f <$> code) :=
  sound.bind fun value => pure (f value)

theorem ite {condition : Prop} [Decidable condition] {yes no : Eval α}
    (first : conduct.Sound scopes yes) (second : conduct.Sound scopes no) :
    conduct.Sound scopes (if condition then yes else no) :=
  Keeps.ite first second

theorem ofExcept {result : Except RuntimeError α} (faulty : Faulty result) :
    conduct.Sound scopes (Code.ofExcept result) := by
  cases result with
  | ok value => exact pure value
  | error error => exact fault (faulty error rfl)

/-- Code that goes on with what it reads from the heap may see more scopes, of which something is
known. -/
theorem bindRead {read : Heap → β} {next : β → Eval α}
    (after : ∀ state, conduct.holds state → ∃ others, conduct.Knows others state ∧
      conduct.Sound (others ++ scopes) (next (read state.heap))) :
    conduct.Sound scopes (Code.readHeap read >>= next) := by
  intro height state holds level start
  obtain ⟨others, knows, sound⟩ := after state holds
  exact sound height state holds level (List.forall_mem_append.mpr ⟨knows, start⟩)

theorem readHeap {read : Heap → α} : conduct.Sound scopes (Code.readHeap read) :=
  Keeps.reading fun _ _ _ => trivial

/-- Code that goes on with what it reads from the heap, if the read does not fail. -/
theorem bindTry {read : Heap → Except RuntimeError β} {next : β → Eval α}
    (faulty : ∀ heap, Faulty (read heap))
    (after : ∀ value, conduct.Sound scopes (next value)) :
    conduct.Sound scopes (Code.tryHeap read >>= next) := by
  intro height state holds level start
  cases result : read state.heap with
  | ok value =>
    simp only [Bind.bind, Code.tryHeap, result, Run.bind]
    exact after value height state holds level start
  | error error =>
    simp only [Bind.bind, Code.tryHeap, result, Run.bind]
    exact ⟨⟨conduct.acts_refl state, holds⟩,
      raises_of_fault (faulty state.heap error result) state, level⟩

theorem tryHeap {read : Heap → Except RuntimeError α} (faulty : ∀ heap, Faulty (read heap)) :
    conduct.Sound scopes (Code.tryHeap read) :=
  Keeps.tryHeap (fun _ _ _ _ _ => trivial) fun state error _ _ failed =>
    raises_of_fault (faulty state.heap error failed) state

/-- Code that goes on with what it reads from the heap does nothing but a step. -/
theorem tryStep {read : Heap → Except RuntimeError β} {f : β → Heap → Heap}
    (faulty : ∀ heap, Faulty (read heap))
    (step : ∀ state, conduct.holds state → ∀ value, read state.heap = .ok value →
      conduct.Takes state { state with heap := f value state.heap }) :
    conduct.Sound scopes
      (Code.tryHeap read >>= fun value => (Code.changeHeap (f value) : Eval Unit)) := by
  intro height state holds level _
  rw [Code.bind_apply, Code.tryHeap_apply]
  cases result : read state.heap with
  | ok value =>
    have step := conduct.step holds (step state holds value result)
    exact ⟨⟨step.acts, step.holds⟩, trivial, step.level height level⟩
  | error error =>
    exact ⟨⟨conduct.acts_refl state, holds⟩,
      raises_of_fault (faulty state.heap error result) state, level⟩

theorem updateHeap {f : Heap → α × Heap}
    (obeys : ∀ {rule : FunctionRule} (heap : Heap), heap.Obeys rule → (f heap).2.Obeys rule)
    (alters : ∀ heap : Heap, heap.AltersObjects (f heap).2 := by exact fun _ => ⟨rfl, rfl⟩) :
    conduct.Sound scopes (Code.updateHeap f) :=
  Keeps.updateHeap obeys alters

/-- Code that does nothing but a step. -/
theorem step {f : State → State}
    (step : ∀ state, conduct.holds state → conduct.Takes state (f state)) :
    conduct.Sound scopes (Code.change f) :=
  Keeps.change (fun state holds => conduct.step holds (step state holds)) fun _ _ _ => trivial

theorem changeHeap {f : Heap → Heap}
    (obeys : ∀ {rule : FunctionRule} (heap : Heap), heap.Obeys rule → (f heap).Obeys rule)
    (alters : ∀ heap : Heap, heap.AltersObjects (f heap) := by exact fun _ => ⟨rfl, rfl⟩) :
    conduct.Sound scopes (Code.changeHeap f) :=
  step fun state _ =>
    have alters := alters state.heap
    .heap _ (fun _ => obeys state.heap) alters.realms (.of_scopes alters.scopes)

/-- A change of scopes that declares names only where code may declare them. -/
theorem changeScopes {f : Heap → Heap}
    (alters : ∀ heap : Heap, heap.AltersScopes conduct.declares (f heap)) :
    conduct.Sound scopes (Code.changeHeap f) :=
  step fun state _ =>
    have alters := alters state.heap
    .heap _ (fun _ obeys => obeys.of_objects alters.objects) alters.realms alters.spares

/-- Code that goes on with a new scope may declare names in it, and sees it. -/
theorem bindScope {scope : Heap → Scope} {outer : Heap → List ScopeRef}
    {next : Environment → Eval α}
    (around : ∀ state, conduct.holds state → conduct.Knows scopes state →
      let opened := (state.heap.newScope (scope state.heap) (outer state.heap)).2
      conduct.acts state { state with heap := opened } →
        conduct.Knows (outer state.heap) { state with heap := opened })
    (after : ∀ environment, conduct.declares environment.innermost →
      conduct.Sound (environment.scopes ++ scopes) (next environment)) :
    conduct.Sound scopes
      (Code.updateHeap (fun heap => heap.newScope (scope heap) (outer heap)) >>= next) := by
  intro height state holds level start
  let opened := state.heap.newScope (scope state.heap) (outer state.heap)
  have alters : state.heap.AltersScopes conduct.declares opened.2 :=
    Heap.altersScopes_newScope (scope state.heap) (outer state.heap)
  have step := conduct.step holds
    (.heap _ (fun _ obeys => obeys.of_objects alters.objects) alters.realms alters.spares)
  have new := conduct.knows_new (scope state.heap) (outer state.heap) holds
  have knows : conduct.Knows (opened.1.scopes ++ scopes) { state with heap := opened.2 } :=
    List.forall_mem_append.mpr ⟨List.forall_mem_cons.mpr ⟨new, around state holds start step.acts⟩,
      start.acts step.acts⟩
  have goesOn := after opened.1 (conduct.fresh holds) height { state with heap := opened.2 }
    step.holds (step.level height level) knows
  exact goesOn.since step.acts

/-- What is known of scopes that code sees already is known once a scope is opened inside them. -/
theorem bindScopeWithin {scope : Heap → Scope} {outer : List ScopeRef}
    {next : Environment → Eval α} (within : outer ⊆ scopes)
    (after : ∀ environment, conduct.declares environment.innermost →
      conduct.Sound (environment.scopes ++ scopes) (next environment)) :
    conduct.Sound scopes
      (Code.updateHeap (fun heap => heap.newScope (scope heap) outer) >>= next) :=
  bindScope (fun _ _ knows acts ref member => conduct.knows_acts acts (knows ref (within member)))
    after

/-- An object may be created that does what functions of the code may do, if it is a function. -/
theorem create {object : Object}
    (obeys : ∀ {rule : FunctionRule},
      rule.Suits conduct.source (fun environment => environment.scopes ⊆ scopes) →
        object.Obeys rule) :
    conduct.Sound scopes (Code.create object) := by
  intro height state holds level start
  have step := conduct.step holds (.heap (state.heap.allocateValue object).2
    (fun suits present => present.allocateValue (obeys (suits.mono fun _ sees ref member =>
      start ref (sees member)))) rfl (.of_scopes rfl))
  exact ⟨⟨step.acts, step.holds⟩, trivial, step.level height level⟩

theorem createArray (elements : List Value) : conduct.Sound scopes (Code.createArray elements) :=
  create fun _ => trivial

theorem print (level : LogLevel) (text : String) :
    conduct.Sound scopes (Code.note level .plugin text) :=
  step fun _ _ => .print level text

theorem pause : conduct.Sound scopes (Code.request .pause) :=
  Keeps.request
    (fun _ holds _ =>
      have step := conduct.step holds .pause
      ⟨step, conduct.pauses step.holds⟩)
    fun _ _ _ _ => trivial

/-- A call of a script function keeps to a conduct if what it runs does. Its level is left when it
ends. -/
theorem call (realm : RealmRef) (sound : conduct.Sound scopes code) :
    conduct.Sound scopes (Evaluation.enterCall realm >>= fun _ =>
      Code.afterwards code (Evaluation.leaveCall realm)) := by
  intro height state holds level start
  rw [Evaluation.enterCall_bind]
  split
  · rename_i full
    have step := conduct.step holds (.refuse realm full)
    exact ⟨⟨step.acts, step.holds⟩, trivial, step.level height level⟩
  · rename_i free
    obtain ⟨acts, begun, above⟩ := conduct.begins realm holds (Nat.lt_of_not_le free)
    have inside := sound (conduct.callLevel realm height) _ begun (above height level)
      (start.acts acts)
    refine Run.Keeps.since (inside.andThen ?_ ?_) acts
    · intro value after holds now
      obtain ⟨acts, left, below⟩ := conduct.leaves realm height holds now.2
      exact ⟨⟨acts, left⟩, trivial, below⟩
    · intro error after holds now
      obtain ⟨acts, left, below⟩ := conduct.leaves realm height holds now.2
      exact ⟨⟨acts, left⟩, now.1.acts acts, below⟩

section Lists

variable {items : List β}

theorem forM {f : β → Eval PUnit} (each : ∀ item, conduct.Sound scopes (f item)) :
    conduct.Sound scopes (items.forM f) := by
  induction items with
  | nil => exact pure _
  | cons item rest ih => exact (each item).bind fun _ => ih

theorem mapM {f : β → Eval α} (each : ∀ item, conduct.Sound scopes (f item)) :
    conduct.Sound scopes (items.mapM f) := by
  induction items with
  | nil => exact pure _
  | cons item rest ih =>
    rw [List.mapM_cons]
    exact (each item).bind fun _ => ih.bind fun _ => pure _

theorem foldlM {f : α → β → Eval α} (each : ∀ value item, conduct.Sound scopes (f value item))
    (initial : α) : conduct.Sound scopes (items.foldlM f initial) := by
  induction items generalizing initial with
  | nil => exact pure _
  | cons item rest ih => exact (each initial item).bind fun value => ih value

theorem findM? {f : β → Eval Bool} (each : ∀ item, conduct.Sound scopes (f item)) :
    conduct.Sound scopes (items.findM? f) := by
  induction items with
  | nil => exact pure _
  | cons item rest ih =>
    refine (each item).bind fun found => ?_
    cases found
    · exact ih
    · exact pure _

theorem allM {f : β → Eval Bool} (each : ∀ item, conduct.Sound scopes (f item)) :
    conduct.Sound scopes (items.allM f) := by
  induction items with
  | nil => exact pure _
  | cons item rest ih =>
    refine (each item).bind fun found => ?_
    cases found
    · exact pure _
    · exact ih

theorem filterAuxM {f : β → Eval Bool} (each : ∀ item, conduct.Sound scopes (f item))
    (kept : List β) : conduct.Sound scopes (items.filterAuxM f kept) := by
  induction items generalizing kept with
  | nil => exact pure _
  | cons item rest ih => exact (each item).bind fun _ => ih _

theorem filterM {f : β → Eval Bool} (each : ∀ item, conduct.Sound scopes (f item)) :
    conduct.Sound scopes (items.filterM f) :=
  (filterAuxM each []).bind fun _ => pure _

end Lists

end Conduct.Sound

end PluginSandbox.Script
