import PluginSandbox.Proofs.Interleaving
import PluginSandbox.Proofs.Script.Conduct

/-!
# Tasks that keep to a conduct

Tasks on one state that keep to the same conduct may be interleaved in any way: what the conduct
says of the state holds after every move, every task comes to an end that its contract allows,
and whenever a task asks for something, it does so in a state in which it may.
-/
namespace PluginSandbox.Interleaving

open Host Plugin Script

variable {ε α γ : Type} {conduct : Conduct} {program : γ → Code ε α}

/-- Whether code has to expect what other code of the same conduct does, and explicit changes of
the settings. Code may start whenever the conduct is kept. -/
structure IsShared (conduct : Conduct) : Prop where
  acts : ∀ {before after}, conduct.acts before after → conduct.others before after
  refl : ∀ state, conduct.others state state
  trans : ∀ {before state after}, conduct.others before state → conduct.others state after →
    conduct.others before after
  settle : ∀ {state} settings, conduct.holds state →
    conduct.holds { state with settings } ∧ conduct.others state { state with settings }
  leveled : ∀ {state}, conduct.holds state → ∃ height, conduct.level height state := by
    exact fun _ => ⟨0, trivial⟩

/-- What a program for some argument comes to under a conduct, and what others do not undo. -/
structure Contract (conduct : Conduct) (program : γ → Code ε α) where
  /-- What is known when it has a result. -/
  ends : γ → α → State → Prop
  /-- What is known when it fails. -/
  fails : γ → ε → State → Prop
  keeps : ∀ argument, conduct.Keeps (fun _ => True) (program argument) (ends argument)
    (fails argument)
  ends_later : ∀ {before after} argument value, conduct.others before after →
    ends argument value before → ends argument value after
  fails_later : ∀ {before after} argument error, conduct.others before after →
    fails argument error before → fails argument error after

/-- What is known of a task that was called with an argument. -/
def Contract.Abides (contract : Contract conduct program) (argument : γ) (state : State) :
    Task ε α → Prop
  | .fresh action => conduct.Keeps (fun _ => True) action (contract.ends argument)
      (contract.fails argument)
  | .suspended request resume => ∀ (reply : request.Reply) (next : State),
      conduct.answers request reply → conduct.holds next → conduct.others state next →
      (resume reply next).Keeps conduct (contract.ends argument) (contract.fails argument) next
  | .ended (some (.ok value)) => contract.ends argument value state
  | .ended (some (.error error)) => contract.fails argument error state
  | .ended none => True

/-- What is known of a world whose tasks were called with the given arguments. -/
structure Abiding (contract : Contract conduct program) (arguments : List γ)
    (world : World ε α) : Prop where
  /-- The state is as the conduct says. -/
  holds : conduct.holds world.state
  /-- There is a task for every argument. -/
  count : world.tasks.length = arguments.length
  /-- Every task abides by the contract for its argument. -/
  tasks : ∀ (index : Nat) (argument : γ) (task : Task ε α), arguments[index]? = some argument →
    world.tasks[index]? = some task → contract.Abides argument world.state task

/-- The argument of a call. -/
def Move.argument? : Move γ → Option γ
  | .call argument => some argument
  | _ => none

/-- The arguments of the calls among some moves. -/
def called (moves : List (Move γ)) : List γ := moves.filterMap Move.argument?

variable {contract : Contract conduct program} {arguments : List γ} {world next : World ε α}

/-- What is known of a task is still known after others have run. -/
theorem Contract.Abides.later {argument : γ} {before after : State} {task : Task ε α}
    (shared : IsShared conduct) (abides : contract.Abides argument before task)
    (others : conduct.others before after) : contract.Abides argument after task := by
  cases task with
  | fresh action => exact abides
  | suspended request resume =>
    exact fun reply next answers holds more =>
      abides reply next answers holds (shared.trans others more)
  | ended outcome =>
    cases outcome with
    | none => trivial
    | some outcome =>
      cases outcome with
      | ok value => exact contract.ends_later argument value others abides
      | error error => exact contract.fails_later argument error others abides

/-- A task was called with an argument. -/
theorem Abiding.argument (abiding : Abiding contract arguments world) {index : Nat}
    {task : Task ε α} (found : world.tasks[index]? = some task) :
    ∃ argument, arguments[index]? = some argument :=
  have bound := (List.getElem?_eq_some_iff.mp found).1
  ⟨_, List.getElem?_eq_getElem (abiding.count ▸ bound)⟩

/-- A run that keeps to the conduct leaves a task that abides by its contract, and stops only at
a request that the conduct admits. -/
theorem Contract.suspend (contract : Contract conduct program) (argument : γ) (before : State)
    (holds : conduct.holds before) (run : Run ε α)
    (keeps : run.Keeps conduct (contract.ends argument) (contract.fails argument) before) :
    (conduct.acts before (World.suspend before run).2 ∧
      conduct.holds (World.suspend before run).2) ∧
    contract.Abides argument (World.suspend before run).2 (World.suspend before run).1 ∧
    ∀ request resume, (World.suspend before run).1 = .suspended request resume →
      conduct.asks request (World.suspend before run).2 := by
  cases run with
  | done value after => exact ⟨keeps.1, keeps.2, nofun⟩
  | failed error after => exact ⟨keeps.1, keeps.2, nofun⟩
  | exhausted => exact ⟨⟨conduct.acts_refl before, holds⟩, trivial, nofun⟩
  | waiting request after resume =>
    obtain ⟨step, asks, goesOn⟩ := keeps
    refine ⟨step, goesOn, ?_⟩
    rintro _ _ ⟨⟩
    exact asks

/-- What a poll of a task does: the conduct is kept, and if the task asks for something, it may. -/
theorem Abiding.advance (abiding : Abiding contract arguments world) (shared : IsShared conduct)
    (task : Nat) (argument : γ) (called : arguments[task]? = some argument) (run : Run ε α)
    (keeps : run.Keeps conduct (contract.ends argument) (contract.fails argument) world.state) :
    Abiding contract arguments (world.advance task run) ∧
    conduct.acts world.state (world.advance task run).state ∧
    ∀ request resume, (world.advance task run).tasks[task]? = some (.suspended request resume) →
      conduct.asks request (world.advance task run).state := by
  obtain ⟨⟨acts, holds⟩, abides, asks⟩ := contract.suspend argument _ abiding.holds run keeps
  refine ⟨⟨holds, ?_, ?_⟩, acts, ?_⟩
  · simpa [World.advance] using abiding.count
  · intro index other standing known found
    rw [World.advance, List.getElem?_set] at found
    split at found
    · rename_i same
      subst same
      split at found
      · obtain rfl := Option.some.inj (called.symm.trans known)
        exact Option.some.inj found ▸ abides
      · cases found
    · exact (abiding.tasks index other standing known found).later shared (shared.acts acts)
  · intro request resume found
    rw [World.advance, List.getElem?_set] at found
    simp only [if_true] at found
    split at found
    · exact asks request resume (Option.some.inj found)
    · cases found

/-- A poll of a task that goes on as it may keeps to the conduct. -/
theorem Abiding.poll (abiding : Abiding contract arguments world) (shared : IsShared conduct)
    (task : Nat) {standing : Task ε α} (found : world.tasks[task]? = some standing)
    (run : Run ε α)
    (keeps : ∀ argument, contract.Abides argument world.state standing →
      run.Keeps conduct (contract.ends argument) (contract.fails argument) world.state) :
    Abiding contract arguments (world.advance task run) ∧
    conduct.others world.state (world.advance task run).state ∧
    ∀ polled, some task = some polled →
      conduct.acts world.state (world.advance task run).state ∧
      ∀ request resume,
        (world.advance task run).tasks[polled]? = some (.suspended request resume) →
          conduct.asks request (world.advance task run).state := by
  obtain ⟨argument, known⟩ := abiding.argument found
  have goesOn := keeps argument (abiding.tasks task argument standing known found)
  obtain ⟨after, acts, asks⟩ := abiding.advance shared task argument known run goesOn
  exact ⟨after, shared.acts acts, fun _ polled => Option.some.inj polled ▸ ⟨acts, asks⟩⟩

/-- A change of the settings keeps to the conduct. -/
theorem Abiding.settle (abiding : Abiding contract arguments world) (shared : IsShared conduct)
    (settings : Settings) (tasks : next.tasks = world.tasks)
    (state : next.state = { world.state with settings }) :
    Abiding contract arguments next ∧ conduct.others world.state next.state := by
  obtain ⟨holds, others⟩ := shared.settle settings abiding.holds
  refine ⟨⟨state ▸ holds, by rw [tasks, abiding.count], ?_⟩, state ▸ others⟩
  intro index argument task known found
  rw [tasks] at found
  rw [state]
  exact (abiding.tasks index argument task known found).later shared others

/-- A new task abides by its contract. -/
theorem Abiding.call (abiding : Abiding contract arguments world) (argument : γ) :
    Abiding contract (arguments ++ [argument])
      { world with tasks := world.tasks ++ [.fresh (program argument)] } := by
  refine ⟨abiding.holds, by simp [abiding.count], ?_⟩
  intro index other task known found
  by_cases old : index < arguments.length
  · rw [List.getElem?_append_left old] at known
    rw [List.getElem?_append_left (abiding.count ▸ old)] at found
    exact abiding.tasks index other task known found
  · have same : index = arguments.length := by
      have bound := (List.getElem?_eq_some_iff.mp known).1
      simp only [List.length_append, List.length_singleton] at bound
      omega
    subst same
    rw [List.getElem?_append_right (Nat.le_refl _), Nat.sub_self] at known
    rw [← abiding.count, List.getElem?_append_right (Nat.le_refl _), Nat.sub_self] at found
    cases known
    cases found
    exact contract.keeps argument

/-- Whether a move gives a task a reply to its request. -/
def World.Gives (world : World ε α) (move : Move γ) (request : Request)
    (reply : request.Reply) : Prop :=
  ∃ task answer resume, move = .resume task answer ∧
    world.tasks[task]? = some (.suspended request resume) ∧ answer.reply? request = some reply

/-- Whether the host gives nothing but allowed replies in the course of some moves. -/
def World.Answered (program : γ → Code ε α)
    (allowed : (request : Request) → request.Reply → Prop) (world : World ε α) :
    List (Move γ) → Prop
  | [] => True
  | move :: moves =>
    (∀ request reply, world.Gives move request reply → allowed request reply) ∧
      ∀ next, world.move? program move = some next → next.Answered program allowed moves

theorem World.answered_of_all {allowed : (request : Request) → request.Reply → Prop}
    (all : ∀ request reply, allowed request reply) (program : γ → Code ε α) (world : World ε α)
    (moves : List (Move γ)) : world.Answered program allowed moves := by
  induction moves generalizing world with
  | nil => trivial
  | cons move moves ih => exact ⟨fun request reply _ => all request reply, fun next _ => ih next⟩

/-- Every move with an allowed reply leads to a world whose tasks abide by their contracts again,
does what tasks that wait have to expect, and lets a task that is polled ask only for what it may
ask for. -/
theorem Abiding.move (abiding : Abiding contract arguments world) (shared : IsShared conduct)
    (move : Move γ) (moved : world.move? program move = some next)
    (answered : ∀ request reply, world.Gives move request reply →
      conduct.answers request reply := by exact fun _ _ _ => trivial) :
    Abiding contract (arguments ++ move.argument?.toList) next ∧
    conduct.others world.state next.state ∧
    ∀ task, move.polled = some task → conduct.acts world.state next.state ∧
      ∀ request resume, next.tasks[task]? = some (.suspended request resume) →
        conduct.asks request next.state := by
  cases move with
  | call argument =>
    cases moved
    exact ⟨abiding.call argument, shared.refl _, nofun⟩
  | start task =>
    simp only [Move.argument?, Option.toList_none, List.append_nil]
    simp only [World.move?] at moved
    split at moved
    · rename_i action found
      cases moved
      exact abiding.poll shared task found _ fun _ abides =>
        abides.run world.state abiding.holds trivial (shared.leveled abiding.holds)
    · cases moved
  | resume task answer =>
    simp only [Move.argument?, Option.toList_none, List.append_nil]
    simp only [World.move?] at moved
    split at moved
    · rename_i request resume found
      split at moved
      · rename_i reply fits
        split at moved
        · cases moved
          exact abiding.poll shared task found _ fun _ abides =>
            abides reply world.state (answered request reply ⟨_, _, resume, rfl, found, fits⟩)
              abiding.holds (shared.refl _)
        · cases moved
      · cases moved
    · cases moved
  | land task =>
    simp only [Move.argument?, Option.toList_none, List.append_nil]
    simp only [World.move?] at moved
    split at moved
    · split at moved
      · cases moved
      · cases moved
        exact and_assoc.mp ⟨abiding.settle shared _ rfl rfl, nofun⟩
    · cases moved
  | settle settings =>
    cases moved
    simp only [Move.argument?, Option.toList_none, List.append_nil]
    exact and_assoc.mp ⟨abiding.settle shared settings rfl rfl, nofun⟩

/-- Every run with allowed replies leads to a world whose tasks abide by their contracts. -/
theorem Abiding.run (abiding : Abiding contract arguments world) (shared : IsShared conduct)
    (moves : List (Move γ)) (run : world.run? program moves = some next)
    (answered : world.Answered program conduct.answers moves := by
      exact World.answered_of_all (fun _ _ => trivial) _ _ _) :
    Abiding contract (arguments ++ called moves) next := by
  induction moves generalizing world arguments with
  | nil =>
    cases run
    simpa [called] using abiding
  | cons move moves ih =>
    obtain ⟨middle, moved, rest⟩ := Option.bind_eq_some_iff.mp run
    have last := ih (abiding.move shared move moved answered.1).1 rest (answered.2 middle moved)
    rw [List.append_assoc] at last
    have split : called (move :: moves) = move.argument?.toList ++ called moves := by
      cases argument : move.argument? <;> simp [called, argument]
    rw [split]
    exact last

/-- A world without tasks abides by every contract. -/
theorem abiding_idle (contract : Contract conduct program) (state : State)
    (holds : conduct.holds { state with isChecking := false }) :
    Abiding contract [] (World.idle state) :=
  ⟨holds, rfl, nofun⟩

end PluginSandbox.Interleaving
