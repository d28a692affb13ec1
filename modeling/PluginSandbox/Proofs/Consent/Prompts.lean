import PluginSandbox.Proofs.Consent.Points

/-!
# Questions to the user

Any number of checks run on one state, in any interleaving and under any behaviour of the host.
One invariant carries all results: every task stands at a point of a check, exactly one of them
has the turn while a check is under way, and every pending write settles the decision. From it
follow that at most one question is open, that questions are asked only while the decision is
open, and that a decision that has reached the settings silences all checks until the settings
are opened again.
-/
namespace PluginSandbox.Consent

open Host Interleaving Plugin Script

/-- The tasks of a world stand at the given points, and the turn and the pending writes are
accounted for. -/
structure StandsAt (hasDialog : Bool) (world : World ResolveError String) (points : List Point) :
    Prop where
  /-- Every task stands at its point. -/
  tasks : world.tasks = points.map (Point.task hasDialog)
  /-- The turn has one holder while a check is under way, and none otherwise. -/
  turn : points.countP Point.hasTurn = world.state.isChecking.toNat
  /-- Every pending write settles the decision. -/
  decisive : ∀ point ∈ points, point.Decisive

/-- What a poll of a check does: the settings are kept, a question is opened only by a check that
has had no turn before, while the decision is open, and no check returns to waiting for a turn. -/
structure Progress (world next : World ResolveError String) (before after : Point) : Prop where
  /-- A check leaves the settings alone. -/
  settings : next.state.settings = world.state.settings
  /-- A check asks at its first turn. -/
  asksEarly : after.isAsking = true → before.isEarly = true
  /-- A check asks while the decision is open. -/
  asksOpen : after.isAsking = true → world.state.settings.policy = .awaitingDecision
  /-- A check has one turn. -/
  oneTurn : after.isEarly = true → before.isEarly = true

section

variable {hasDialog : Bool} {world next : World ResolveError String} {points : List Point}

/-- The task at a position is the task of the point there. -/
theorem StandsAt.task_eq (stands : StandsAt hasDialog world points) (task : Nat) :
    world.tasks[task]? = points[task]?.map (Point.task hasDialog) := by
  rw [stands.tasks, List.getElem?_map]

/-- A task has a question open exactly if its point does. -/
theorem StandsAt.isAsking_iff (stands : StandsAt hasDialog world points) (task : Nat) :
    world.isAsking task = true ↔ ∃ point, points[task]? = some point ∧ point.isAsking = true := by
  rw [World.isAsking, stands.task_eq]
  cases points[task]? with
  | none => simp
  | some point => cases point <;> simp [Point.task, Point.isAsking]

/-- The open questions are those of the points. -/
theorem StandsAt.openPrompts_eq (stands : StandsAt hasDialog world points) :
    world.openPrompts = points.countP Point.isAsking := by
  rw [World.openPrompts, stands.tasks, List.countP_map]
  congr 1
  funext point
  cases point <;> rfl

/-- Whoever asks has the turn, and the turn has at most one holder. -/
theorem StandsAt.openPrompts_le (stands : StandsAt hasDialog world points) :
    world.openPrompts ≤ 1 := by
  have askers : points.countP Point.isAsking ≤ points.countP Point.hasTurn := by
    apply List.countP_mono_left
    intro point _ asks
    cases point <;> simp_all [Point.isAsking, Point.hasTurn]
  rw [stands.openPrompts_eq]
  exact Nat.le_trans askers (stands.turn ▸ Bool.toNat_le _)

/-- A poll that keeps the count of holders of the turn leads to a world whose points are
accounted for again. -/
theorem StandsAt.advance (stands : StandsAt hasDialog world points) (task : Nat)
    (old point : Point) (run : Run ResolveError String) (after : State)
    (position : points[task]? = some old)
    (suspends : World.suspend world.state run = (point.task hasDialog, after))
    (balance : after.isChecking.toNat + old.hasTurn.toNat =
      world.state.isChecking.toNat + point.hasTurn.toNat)
    (decisive : point.Decisive) :
    StandsAt hasDialog (world.advance task run) (points.set task point) := by
  obtain ⟨bound, same⟩ := List.getElem?_eq_some_iff.mp position
  constructor
  · simp only [World.advance, suspends, stands.tasks, List.map_set]
  · have present : old.hasTurn.toNat ≤ points.countP Point.hasTurn := by
      cases turn : old.hasTurn with
      | false => exact Nat.zero_le _
      | true => exact List.countP_pos_iff.mpr ⟨old, List.mem_of_getElem? position, turn⟩
    have count (turn : Bool) : (if turn = true then 1 else 0) = turn.toNat := by
      cases turn <;> rfl
    simp only [World.advance, suspends]
    rw [List.countP_set bound, same, count, count]
    have holders := stands.turn
    omega
  · intro other member
    rcases List.mem_or_eq_of_mem_set member with kept | new
    · exact stands.decisive other kept
    · exact new ▸ decisive

/-- A holder of the turn has it while a check is under way. -/
theorem StandsAt.checking_of_turn (stands : StandsAt hasDialog world points) (task : Nat)
    (point : Point) (position : points[task]? = some point) (turn : point.hasTurn = true) :
    world.state.isChecking = true := by
  have holder : 0 < points.countP Point.hasTurn :=
    List.countP_pos_iff.mpr ⟨point, List.mem_of_getElem? position, turn⟩
  rw [stands.turn] at holder
  cases checking : world.state.isChecking with
  | true => rfl
  | false => rw [checking] at holder; cases holder

/-- A run that stops at a point is a poll that keeps the count of holders, if the task that runs
has the turn or takes it while it is free. -/
theorem StandsAt.advance_stopsAt (stands : StandsAt hasDialog world points) (task : Nat)
    (old point : Point) (run : Run ResolveError String) (before after : State)
    (position : points[task]? = some old) (turn : old.hasTurn = world.state.isChecking)
    (stops : StopsAt hasDialog before run point after) :
    StandsAt hasDialog (world.advance task run) (points.set task point) :=
  stands.advance task old point run after position (stops.suspends _)
    (by rw [stops.turn, turn, Nat.add_comm]) stops.decisive

/-- What a run leaves is the state of the world after it. -/
theorem advance_settings (task : Nat) (point : Point) (run : Run ResolveError String)
    (before after : State) (same : before.settings = world.state.settings)
    (stops : StopsAt hasDialog before run point after) :
    (world.advance task run).state.settings = world.state.settings := by
  have left := stops.suspends world.state
  simp only [World.advance, left, stops.settings, same]

/-- The first poll of a check. -/
theorem StandsAt.start (stands : StandsAt hasDialog world points) (task : Nat) (module : String)
    (position : points[task]? = some (.fresh module)) :
    ∃ point, StandsAt hasDialog (world.advance task (checkConsent hasDialog module world.state))
        (points.set task point) ∧
      Progress world (world.advance task (checkConsent hasDialog module world.state))
        (.fresh module) point := by
  rw [checkConsent_starts]
  cases checking : world.state.isChecking with
  | true =>
    rw [if_pos rfl]
    exact ⟨.waiting module, stands.advance task _ _ _ world.state position rfl rfl trivial,
      rfl, nofun, nofun, fun _ => rfl⟩
  | false =>
    rw [if_neg Bool.false_ne_true]
    obtain ⟨point, after, stops, asks⟩ :=
      inTurn_stops hasDialog module { world.state with isChecking := true } rfl
    exact ⟨point, stands.advance_stopsAt task _ point _ _ after position checking.symm stops,
      advance_settings task point _ { world.state with isChecking := true } after rfl stops,
      fun _ => rfl, asks, fun _ => rfl⟩

/-- A poll of a check with an answer. -/
theorem StandsAt.resume (stands : StandsAt hasDialog world points) (task : Nat) (old : Point)
    (position : points[task]? = some old) (request : Request)
    (goOn : request.Reply → State → Run ResolveError String) (reply : request.Reply)
    (suspended : old.task hasDialog = .suspended request goOn)
    (may : world.mayReply task request reply = true) :
    ∃ point, StandsAt hasDialog (world.advance task (goOn reply world.state))
        (points.set task point) ∧
      Progress world (world.advance task (goOn reply world.state)) old point := by
  cases old with
  | fresh module => cases suspended
  | ended outcome => cases suspended
  | waiting module =>
    cases suspended
    have free : world.state.isChecking = false := by simpa [World.mayReply] using may
    obtain ⟨point, after, stops, asks⟩ :=
      inTurn_stops hasDialog module { world.state with isChecking := true } rfl
    exact ⟨point, stands.advance_stopsAt task _ point _ _ after position free.symm stops,
      advance_settings task point _ { world.state with isChecking := true } after rfl stops,
      fun _ => rfl, asks, fun _ => rfl⟩
  | asking module cdnUrl =>
    have checking := stands.checking_of_turn task _ position rfl
    cases suspended
    obtain ⟨point, after, stops, silent⟩ :=
      onDecision_stops hasDialog module reply world.state checking
    exact ⟨point, stands.advance_stopsAt task _ point _ _ after position checking.symm stops,
      advance_settings task point _ _ after rfl stops,
      fun asks => absurd asks (by rw [silent]; nofun),
      fun asks => absurd asks (by rw [silent]; nofun),
      fun early => absurd early (by rw [stops.late]; nofun)⟩
  | writing module policy =>
    have checking := stands.checking_of_turn task _ position rfl
    cases suspended
    obtain ⟨point, after, stops, silent⟩ :=
      onWritten_stops hasDialog module policy reply world.state
    exact ⟨point, stands.advance_stopsAt task _ point _ _ after position checking.symm stops,
      advance_settings task point _ _ after rfl stops,
      fun asks => absurd asks (by rw [silent]; nofun),
      fun asks => absurd asks (by rw [silent]; nofun),
      fun early => absurd early (by rw [stops.late]; nofun)⟩

/-- What a move does to the points of the checks. -/
inductive Moves (world next : World ResolveError String) :
    Move String → List Point → List Point → Prop where
  /-- A new check is fresh. -/
  | called (module : String) (points : List Point) :
    Moves world next (.call module) points (points ++ [.fresh module])
  /-- A poll changes the point of one check. -/
  | polled (move : Move String) (points : List Point) (task : Nat) (old point : Point)
      (polls : move.polled = some task) (position : points[task]? = some old)
      (progress : Progress world next old point) :
    Moves world next move points (points.set task point)
  /-- A change of the settings keeps all points. -/
  | still (move : Move String) (points : List Point) (polls : move.polled = none) :
    Moves world next move points points

/-- The points stay accounted for when only settings and landed writes change. -/
theorem StandsAt.still (stands : StandsAt hasDialog world points)
    (tasks : next.tasks = world.tasks)
    (checking : next.state.isChecking = world.state.isChecking) :
    StandsAt hasDialog next points :=
  ⟨tasks.trans stands.tasks, by rw [checking]; exact stands.turn, stands.decisive⟩

/-- Every possible move leads to a world whose tasks stand at points again. -/
theorem StandsAt.move (stands : StandsAt hasDialog world points) (move : Move String)
    (moved : world.move? (checkConsent hasDialog) move = some next) :
    ∃ points', StandsAt hasDialog next points' ∧ Moves world next move points points' := by
  cases move with
  | call module =>
    cases moved
    refine ⟨points ++ [.fresh module], ⟨?_, ?_, ?_⟩, .called module points⟩
    · simp only [stands.tasks, List.map_append, List.map_cons, List.map_nil, Point.task]
    · simp only [List.countP_append, stands.turn]
      rfl
    · intro point member
      rcases List.mem_append.mp member with old | new
      · exact stands.decisive point old
      · rw [List.mem_singleton.mp new]
        trivial
  | start task =>
    simp only [World.move?, stands.task_eq] at moved
    cases position : points[task]? with
    | none => simp [position] at moved
    | some old =>
      cases old with
      | fresh module =>
        simp only [position, Option.map_some, Point.task, Option.some.injEq] at moved
        obtain ⟨point, stands', progress⟩ := stands.start task module position
        subst moved
        exact ⟨_, stands', .polled _ points task _ point rfl position progress⟩
      | _ => simp [position, Point.task] at moved
  | resume task answer =>
    simp only [World.move?, stands.task_eq] at moved
    cases position : points[task]? with
    | none => simp [position] at moved
    | some old =>
      rw [position, Option.map_some] at moved
      cases suspended : old.task hasDialog with
      | fresh action => simp [suspended] at moved
      | ended outcome => simp [suspended] at moved
      | suspended request goOn =>
        simp only [suspended] at moved
        cases replies : answer.reply? request with
        | none => simp [replies] at moved
        | some reply =>
          simp only [replies, Option.ite_none_right_eq_some, Option.some.injEq] at moved
          obtain ⟨may, rfl⟩ := moved
          obtain ⟨point, stands', progress⟩ :=
            stands.resume task old position request goOn reply suspended may
          exact ⟨_, stands', .polled _ points task old point rfl position progress⟩
  | land task =>
    simp only [World.move?] at moved
    split at moved
    · split at moved
      · cases moved
      · cases moved
        exact ⟨points, stands.still rfl rfl, .still _ points rfl⟩
    · cases moved
  | settle settings =>
    cases moved
    exact ⟨points, stands.still rfl rfl, .still _ points rfl⟩

end

end PluginSandbox.Consent
