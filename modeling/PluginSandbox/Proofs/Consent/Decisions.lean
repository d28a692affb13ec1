import PluginSandbox.Proofs.Consent.Prompts

/-!
# Decisions and the questions they answer

What one move does to the points of the checks is followed over whole runs. A check asks at most
once because it never returns to a point before its first turn. After a decision has reached the
settings they leave nothing open until they are opened again from outside, so nothing is asked.
-/
namespace PluginSandbox.Consent

open Host Interleaving Plugin Script

section

variable {hasDialog : Bool} {world next : World ResolveError String} {points points' : List Point}
  {move : Move String}

/-- The checks of a world that several moves lead to stand at points. -/
theorem StandsAt.run (moves : List (Move String)) (stands : StandsAt hasDialog world points)
    (run : world.run? (checkConsent hasDialog) moves = some next) :
    ∃ points', StandsAt hasDialog next points' := by
  induction moves generalizing world points with
  | nil =>
    cases run
    exact ⟨points, stands⟩
  | cons move moves ih =>
    obtain ⟨middle, moved, rest⟩ := Option.bind_eq_some_iff.mp run
    obtain ⟨points', stands', _⟩ := stands.move move moved
    exact ih stands' rest

/-- No task stands anywhere in a world without tasks. -/
theorem standsAt_idle (hasDialog : Bool) (state : State) :
    StandsAt hasDialog (World.idle state) [] :=
  ⟨rfl, rfl, nofun⟩

/-- A move that opens a question is the poll of a check that comes to ask. -/
theorem Moves.opens (moves : Moves world next move points points')
    (stands : StandsAt hasDialog next points') (opens : next.opensPrompt move = true) :
    ∃ task old point, move.polled = some task ∧ points[task]? = some old ∧
      points' = points.set task point ∧ point.isAsking = true ∧ Progress world next old point := by
  cases moves with
  | called module points => cases opens
  | still move points polls => simp [World.opensPrompt, polls] at opens
  | polled move points task old point polls position progress =>
    obtain ⟨bound, _⟩ := List.getElem?_eq_some_iff.mp position
    simp only [World.opensPrompt, polls] at opens
    obtain ⟨asked, found, asks⟩ := (stands.isAsking_iff task).mp opens
    rw [List.getElem?_set_self bound, Option.some.injEq] at found
    exact ⟨task, old, point, polls, position, rfl, found ▸ asks, progress⟩

/-- A question is opened only while the decision is open. -/
theorem StandsAt.opens_undecided (stands : StandsAt hasDialog world points)
    (moved : world.move? (checkConsent hasDialog) move = some next)
    (opens : next.opensPrompt move = true) :
    world.state.settings.policy = .awaitingDecision := by
  obtain ⟨points', stands', moves⟩ := stands.move move moved
  obtain ⟨_, _, _, _, _, _, asks, progress⟩ := moves.opens stands' opens
  exact progress.asksOpen asks

/-- Whether a task may still open a question: it has not been called, or it has had no turn. -/
def mayAsk (points : List Point) (task : Nat) : Bool :=
  match points[task]? with
  | none => true
  | some point => point.isEarly

/-- No move lets a task that has had its turn ask again. -/
theorem Moves.mayAsk_mono (moves : Moves world next move points points') (task : Nat)
    (may : mayAsk points' task = true) : mayAsk points task = true := by
  cases moves with
  | still => exact may
  | called module points =>
    by_cases bound : task < points.length
    · simp only [mayAsk, List.getElem?_append_left bound] at may ⊢
      exact may
    · simp only [mayAsk, List.getElem?_eq_none (Nat.le_of_not_lt bound)]
  | polled move points polled old point polls position progress =>
    obtain ⟨bound, _⟩ := List.getElem?_eq_some_iff.mp position
    by_cases same : polled = task
    · subst same
      simp only [mayAsk, List.getElem?_set_self bound] at may
      simp only [mayAsk, position]
      exact progress.oneTurn may
    · simp only [mayAsk, List.getElem?_set_ne same] at may ⊢
      exact may

/-- A check that comes to ask may do so before, and may not do so again. -/
theorem mayAsk_of_asks (task : Nat) (old point : Point) (position : points[task]? = some old)
    (asks : point.isAsking = true) (progress : Progress world next old point) :
    mayAsk points task = true ∧ mayAsk (points.set task point) task = false := by
  obtain ⟨bound, _⟩ := List.getElem?_eq_some_iff.mp position
  constructor
  · simp only [mayAsk, position]
    exact progress.asksEarly asks
  · simp only [mayAsk, List.getElem?_set_self bound]
    cases point with
    | asking module cdnUrl => rfl
    | _ => cases asks

/-- A task opens at most one question, and none if it has had its turn. -/
theorem StandsAt.promptsOf_le (stands : StandsAt hasDialog world points) (task : Nat)
    (moves : List (Move String)) :
    world.promptsOf (checkConsent hasDialog) task moves ≤ (mayAsk points task).toNat := by
  induction moves generalizing world points with
  | nil => exact Nat.zero_le _
  | cons move moves ih =>
    simp only [World.promptsOf]
    cases moved : world.move? (checkConsent hasDialog) move with
    | none => exact Nat.zero_le _
    | some next =>
      obtain ⟨points', stands', step⟩ := stands.move move moved
      have later := ih stands'
      cases asks : next.opensPrompt move && move.polled == some task with
      | true =>
        rw [Bool.and_eq_true, beq_iff_eq] at asks
        obtain ⟨polled, old, point, polls, position, rfl, asking, progress⟩ :=
          step.opens stands' asks.1
        obtain rfl : polled = task := Option.some.inj (polls.symm.trans asks.2)
        obtain ⟨could, cannot⟩ := mayAsk_of_asks polled old point position asking progress
        simp only [cannot, Bool.toNat_false, Nat.le_zero_eq] at later
        refine Nat.le_of_eq ?_
        simp only [asks.1, asks.2, could, later, Bool.true_and, beq_self_eq_true, if_true,
          Bool.toNat_true]
      | false =>
        have mono : (mayAsk points' task).toNat ≤ (mayAsk points task).toNat := by
          cases may : mayAsk points' task with
          | false => exact Nat.zero_le _
          | true => exact Nat.le_of_eq (congrArg _ (step.mayAsk_mono task may).symm)
        simp only [asks, Bool.false_eq_true, if_false, Nat.zero_add]
        exact Nat.le_trans later mono

/-- The write of a decision settles it. -/
theorem StandsAt.land_settles (stands : StandsAt hasDialog world points) (task : Nat)
    (moved : world.move? (checkConsent hasDialog) (.land task) = some next) :
    next.state.settings.policy ≠ .awaitingDecision := by
  simp only [World.move?, stands.task_eq] at moved
  cases position : points[task]? with
  | none => simp [position] at moved
  | some point =>
    cases point with
    | writing module policy =>
      simp only [position, Option.map_some, Point.task, Option.ite_none_left_eq_some,
        Option.some.injEq] at moved
      obtain ⟨_, rfl⟩ := moved
      exact stands.decisive _ (List.mem_of_getElem? position)
    | _ => simp [position, Point.task] at moved

/-- A settled decision stays settled unless the settings are opened from outside. -/
theorem StandsAt.settled_move (stands : StandsAt hasDialog world points)
    (settled : world.state.settings.policy ≠ .awaitingDecision) (kept : move.reopens = false)
    (moved : world.move? (checkConsent hasDialog) move = some next) :
    next.state.settings.policy ≠ .awaitingDecision := by
  obtain ⟨points', _, step⟩ := stands.move move moved
  cases step with
  | called module points =>
    cases moved
    exact settled
  | polled move points task old point polls position progress =>
    rw [progress.settings]
    exact settled
  | still move points polls =>
    cases move with
    | land task => exact stands.land_settles task moved
    | settle settings =>
      cases moved
      simpa [Move.reopens, World.withSettings] using kept
    | call module =>
      cases moved
      exact settled
    | _ => cases polls

/-- While the decision stays settled, no task opens a question. -/
theorem StandsAt.silent (stands : StandsAt hasDialog world points) (task : Nat)
    (moves : List (Move String)) (settled : world.state.settings.policy ≠ .awaitingDecision)
    (kept : ∀ move ∈ moves, move.reopens = false) :
    world.promptsOf (checkConsent hasDialog) task moves = 0 := by
  induction moves generalizing world points with
  | nil => rfl
  | cons move moves ih =>
    simp only [World.promptsOf]
    cases moved : world.move? (checkConsent hasDialog) move with
    | none => rfl
    | some next =>
      obtain ⟨points', stands', _⟩ := stands.move move moved
      have shut : next.opensPrompt move = false := by
        cases opens : next.opensPrompt move with
        | false => rfl
        | true => exact absurd (stands.opens_undecided moved opens) settled
      have first := kept move List.mem_cons_self
      have later := ih stands' (stands.settled_move settled first moved) fun other member =>
        kept other (List.mem_cons_of_mem move member)
      simp only [shut, Bool.false_and, Bool.false_eq_true, if_false, later]

/-- An aborted check ends and has written nothing. -/
theorem StandsAt.abort (stands : StandsAt hasDialog world points) (task : Nat)
    (moved : world.move? (checkConsent hasDialog) (.resume task (.decided .abort)) = some next) :
    next.state.settings = world.state.settings ∧ next.state.journal = world.state.journal ∧
      ∃ module, next.tasks[task]? = some (.ended (some (.error (.consentAborted module)))) := by
  simp only [World.move?, stands.task_eq] at moved
  cases position : points[task]? with
  | none => simp [position] at moved
  | some point =>
    cases point with
    | asking module cdnUrl =>
      obtain ⟨bound, _⟩ := List.getElem?_eq_some_iff.mp position
      simp only [position, Option.map_some, Point.task, Answer.reply?, World.mayReply, if_true,
        Option.some.injEq] at moved
      subst moved
      refine ⟨rfl, rfl, module, ?_⟩
      simp only [World.advance, stands.tasks]
      rw [List.getElem?_set_self (by simpa using bound)]
      rfl
    | _ => simp [position, Point.task, Answer.reply?] at moved

end

/-- Questions to the user are asked one at a time and at most once for each decision. In any world
that checks reach from an idle one, in any interleaving and under any answers, writes and changes
of the settings: at most one question is open, a next one is opened only while the decision is
open, every check has asked at most once, after a decision has reached the settings nothing is
asked until they are opened again from outside, and an aborted check ends without a write. -/
theorem consent_serialized (hasDialog : Bool) (state : State) (moves : List (Move String))
    (world : World ResolveError String)
    (run : (World.idle state).run? (checkConsent hasDialog) moves = some world) :
    world.openPrompts ≤ 1 ∧
    (∀ move next, world.move? (checkConsent hasDialog) move = some next →
      next.opensPrompt move = true → world.state.settings.policy = .awaitingDecision) ∧
    (∀ task, (World.idle state).promptsOf (checkConsent hasDialog) task moves ≤ 1) ∧
    (∀ writer next, world.move? (checkConsent hasDialog) (.land writer) = some next →
      ∀ later : List (Move String), (∀ move ∈ later, move.reopens = false) →
        ∀ task, next.promptsOf (checkConsent hasDialog) task later = 0) ∧
    ∀ task next,
      world.move? (checkConsent hasDialog) (.resume task (.decided .abort)) = some next →
        next.state.settings = world.state.settings ∧ next.state.journal = world.state.journal ∧
        ∃ module, next.tasks[task]? = some (.ended (some (.error (.consentAborted module)))) := by
  obtain ⟨points, stands⟩ := (standsAt_idle hasDialog state).run moves run
  refine ⟨stands.openPrompts_le, ?_, ?_, ?_, ?_⟩
  · intro move next moved opens
    exact stands.opens_undecided moved opens
  · intro task
    exact (standsAt_idle hasDialog state).promptsOf_le task moves
  · intro writer next moved later kept task
    obtain ⟨points', stands', _⟩ := stands.move _ moved
    exact stands'.silent task later (stands.land_settles writer moved) kept
  · intro task next moved
    exact stands.abort task moved

/-- Two checks are called, the first one asks, and the user allows it to fetch. -/
def allowedPair : List (Move String) :=
  [.call "left", .call "right", .start 0, .start 1, .resume 0 (.decided .allow)]

/-- While the decision of the first one is pending and the second one waits, the first one has
asked once; once the decision has been written, the second one gets its turn and asks nothing. -/
theorem consent_serialized_pair :
    ∃ world : World ResolveError String,
      (World.idle {}).run? (checkConsent true) allowedPair = some world ∧
      world.openPrompts ≤ 1 ∧
      (World.idle {}).promptsOf (checkConsent true) 0 allowedPair = 1 ∧
      ∃ next, world.move? (checkConsent true) (.land 0) = some next ∧
        next.promptsOf (checkConsent true) 1
          [.resume 0 (.written (.ok ())), .resume 1 .turn] = 0 := by
  refine ⟨_, rfl, ?_, rfl, _, rfl, ?_⟩
  · exact (consent_serialized true {} allowedPair _ rfl).1
  · obtain ⟨_, _, _, silent, _⟩ := consent_serialized true {} allowedPair _ rfl
    exact silent 0 _ rfl _ (by decide) 1

end PluginSandbox.Consent
