import PluginSandbox.Plugin.ConsentGate
import PluginSandbox.Proofs.Interleaving

/-!
# Where a consent check can stand

A check stops only at five points: before it starts, while it waits for its turn, at the question
to the user, at the write of the answer, and at its end. Each point is tied to the task of the
executing check that stands there, so what one poll of a check does is read off the check itself.
-/
namespace PluginSandbox.Consent

open Host Interleaving Plugin Script

/-- A point at which a check can stop. -/
inductive Point where
  /-- It was called and has not run. -/
  | fresh (module : String)
  /-- It waits for its turn. -/
  | waiting (module : String)
  /-- It has asked the user. -/
  | asking (module cdnUrl : String)
  /-- It has asked for the answer to be written. -/
  | writing (module : String) (policy : CdnPolicy)
  /-- It has ended. -/
  | ended (outcome : Except ResolveError String)

namespace Point

/-- Whether a check at a point has the turn. -/
def hasTurn : Point → Bool
  | .asking _ _ | .writing _ _ => true
  | _ => false

/-- Whether a check at a point has not had its turn yet. -/
def isEarly : Point → Bool
  | .fresh _ | .waiting _ => true
  | _ => false

/-- Whether a check at a point has a question to the user open. -/
def isAsking : Point → Bool
  | .asking _ _ => true
  | _ => false

/-- A write that a check asks for settles the decision. -/
def Decisive : Point → Prop
  | .writing _ policy => policy ≠ .awaitingDecision
  | _ => True

/-- What a check does with its turn. -/
def inTurn (hasDialog : Bool) (module : String) : Code ResolveError String :=
  Code.afterwards (decideFetch hasDialog module) endTurn

/-- The end of a check that has asked the user. -/
def verdict (module : String) : Standing → Code ResolveError String
  | .allowed cdnUrl => pure cdnUrl
  | .denied => deny module
  | .undecided _ => Code.fail (.settings .notPersisted)

/-- What a check does once its write has been acknowledged. -/
def afterWrite (module : String) (policy : CdnPolicy) : Code ResolveError String :=
  Code.afterwards
    (do
      Code.note .info .host ("CDN policy set to " ++ Text.ticked policy.name ++ " while loading "
        ++ Text.ticked module)
      verdict module (← readStanding))
    endTurn

/-- What a check does with the outcome of its write. -/
def onWritten (module : String) (policy : CdnPolicy) :
    Except SettingsError Unit → Code ResolveError String
  | .error error => fun state => .failed (.settings error) (endTurn state)
  | .ok () => afterWrite module policy

/-- What a check does with the answer of the user. -/
def onDecision (module : String) (decision : ConsentDecision) : Code ResolveError String :=
  fun state =>
    match decision.policy? with
    | none => .failed (.consentAborted module) (endTurn state)
    | some policy =>
      .waiting (.persist policy)
        { state with journal := state.journal ++ [.requested (.persist policy)] }
        fun outcome state => onWritten module policy outcome state

/-- The task of a check that stands at a point. -/
def task (hasDialog : Bool) : Point → Task ResolveError String
  | .fresh module => .fresh (checkConsent hasDialog module)
  | .waiting module =>
    .suspended .turn fun _ state => inTurn hasDialog module { state with isChecking := true }
  | .asking module cdnUrl =>
    .suspended (.ask module cdnUrl) fun decision => onDecision module decision
  | .writing module policy =>
    .suspended (.persist policy) fun outcome => onWritten module policy outcome
  | .ended outcome => .ended (some outcome)

end Point

/-- A run of a check stops at a point and leaves a state. The settings are as they were before,
the turn is held exactly at the points that need it, a check that has had its turn never waits
for one again, and a write that it asks for settles the decision. -/
structure StopsAt (hasDialog : Bool) (before : State) (run : Run ResolveError String)
    (point : Point) (after : State) : Prop where
  /-- The task of the point and the state are what the run leaves. -/
  suspends : ∀ state, World.suspend state run = (point.task hasDialog, after)
  /-- Only the host changes settings. -/
  settings : after.settings = before.settings
  /-- The turn is held exactly at the points that need it. -/
  turn : after.isChecking = point.hasTurn
  /-- No second turn is waited for. -/
  late : point.isEarly = false
  /-- Only decisions are written. -/
  decisive : point.Decisive

/-- An answer of the user never becomes an open decision. -/
theorem decision_policy_ne (decision : ConsentDecision) (policy : CdnPolicy)
    (h : decision.policy? = some policy) : policy ≠ .awaitingDecision := by
  cases decision with
  | abort => cases h
  | forbid => cases h; decide
  | allow => cases h; decide

/-- A run that has a result stops at the end. -/
theorem stops_done (hasDialog : Bool) (before after : State) (cdnUrl : String)
    (settings : after.settings = before.settings) :
    StopsAt hasDialog before (.done cdnUrl (endTurn after)) (.ended (.ok cdnUrl))
      (endTurn after) :=
  ⟨fun _ => rfl, settings, rfl, rfl, trivial⟩

/-- A run that fails stops at the end. -/
theorem stops_failed (hasDialog : Bool) (before after : State) (error : ResolveError)
    (settings : after.settings = before.settings) :
    StopsAt hasDialog before (.failed error (endTurn after)) (.ended (.error error))
      (endTurn after) :=
  ⟨fun _ => rfl, settings, rfl, rfl, trivial⟩

/-- The settings leave the decision open exactly if they hold no policy. -/
theorem standing_undecided (settings : Settings) (cdnUrl : String)
    (h : settings.standing = .undecided cdnUrl) : settings.policy = .awaitingDecision := by
  cases policy : settings.policy with
  | awaitingDecision => rfl
  | alwaysInsecure => simp only [Settings.standing, policy, reduceCtorEq] at h
  | never => simp only [Settings.standing, policy, reduceCtorEq] at h

/-- A check whose decision is open asks the user. -/
theorem inTurn_asks (module cdnUrl : String) (state : State)
    (h : state.settings.standing = .undecided cdnUrl) :
    Point.inTurn true module state =
      .waiting (.ask module cdnUrl)
        { state with journal := state.journal ++ [.requested (.ask module cdnUrl)] }
        fun decision => Point.onDecision module decision := by
  simp only [Point.inTurn, Code.afterwards, decideFetch, readStanding, Code.reading, bind,
    Run.bind, h]
  change Run.waiting _ _ _ = _
  congr 1
  funext decision state
  cases decision with
  | abort => rfl
  | _ =>
    change Run.waiting _ _ _ = Run.waiting _ _ _
    congr 1
    funext outcome state
    cases outcome <;> rfl

/-- With its turn, a check stops at the question to the user only if the settings leave the
decision open; otherwise it ends. -/
theorem inTurn_stops (hasDialog : Bool) (module : String) (state : State)
    (checking : state.isChecking = true) :
    ∃ point after, StopsAt hasDialog state (Point.inTurn hasDialog module state) point after ∧
      (point.isAsking = true → state.settings.policy = .awaitingDecision) := by
  cases standing : state.settings.standing with
  | allowed cdnUrl =>
    have run : Point.inTurn hasDialog module state = .done cdnUrl (endTurn state) := by
      simp only [Point.inTurn, Code.afterwards, decideFetch, readStanding, Code.reading, bind,
        Run.bind, standing]
      rfl
    rw [run]
    exact ⟨_, _, stops_done hasDialog state state cdnUrl rfl, nofun⟩
  | denied =>
    obtain ⟨after, run, settings⟩ : ∃ after : State,
        Point.inTurn hasDialog module state = .failed (.consentDenied module) (endTurn after) ∧
          after.settings = state.settings := by
      simp only [Point.inTurn, Code.afterwards, decideFetch, readStanding, Code.reading, bind,
        Run.bind, standing]
      exact ⟨_, rfl, rfl⟩
    rw [run]
    exact ⟨_, _, stops_failed hasDialog state after _ settings, nofun⟩
  | undecided cdnUrl =>
    have policy := standing_undecided _ _ standing
    cases hasDialog with
    | false =>
      obtain ⟨error, run⟩ : ∃ error, Point.inTurn false module state =
          .failed error (endTurn state) := by
        simp only [Point.inTurn, Code.afterwards, decideFetch, readStanding, Code.reading, bind,
          Run.bind, standing]
        exact ⟨_, rfl⟩
      rw [run]
      exact ⟨_, _, stops_failed false state state error rfl, nofun⟩
    | true =>
      rw [inTurn_asks module cdnUrl state standing]
      exact ⟨.asking module cdnUrl, _, ⟨fun _ => rfl, rfl, checking, rfl, trivial⟩,
        fun _ => policy⟩

/-- A check that is polled for the first time waits for its turn if another one has it, and
takes it otherwise. -/
theorem checkConsent_starts (hasDialog : Bool) (module : String) (state : State) :
    checkConsent hasDialog module state =
      if state.isChecking then
        .waiting .turn state fun _ state =>
          Point.inTurn hasDialog module { state with isChecking := true }
      else Point.inTurn hasDialog module { state with isChecking := true } := by
  simp only [checkConsent, takeTurn, bind]
  split <;> rfl

/-- After the user's answer, a check ends if the answer leaves the decision open, and asks for
the write of a decision otherwise. -/
theorem onDecision_stops (hasDialog : Bool) (module : String) (decision : ConsentDecision)
    (state : State) (checking : state.isChecking = true) :
    ∃ point after, StopsAt hasDialog state (Point.onDecision module decision state) point after ∧
      point.isAsking = false := by
  simp only [Point.onDecision]
  split
  case h_1 => exact ⟨_, _, stops_failed hasDialog state state _ rfl, rfl⟩
  case h_2 policy settled =>
    exact ⟨.writing module policy, _,
      ⟨fun _ => rfl, rfl, checking, rfl, decision_policy_ne decision policy settled⟩, rfl⟩

/-- After its write, a check ends without asking again, whatever the settings hold by then. -/
theorem onWritten_stops (hasDialog : Bool) (module : String) (policy : CdnPolicy)
    (outcome : Except SettingsError Unit) (state : State) :
    ∃ point after, StopsAt hasDialog state (Point.onWritten module policy outcome state) point
      after ∧ point.isAsking = false := by
  cases outcome with
  | error error => exact ⟨_, _, stops_failed hasDialog state state _ rfl, rfl⟩
  | ok _ =>
    obtain ⟨logged, same, run⟩ : ∃ logged : State, logged.settings = state.settings ∧
        Point.onWritten module policy (.ok ()) state =
          Code.afterwards (Point.verdict module logged.settings.standing) endTurn logged :=
      ⟨{ state with log := state.log ++ [⟨.info, .host, "CDN policy set to "
          ++ Text.ticked policy.name ++ " while loading " ++ Text.ticked module⟩] }, rfl, rfl⟩
    rw [run]
    cases logged.settings.standing with
    | allowed cdnUrl => exact ⟨_, _, stops_done hasDialog state logged cdnUrl same, rfl⟩
    | denied => exact ⟨_, _, stops_failed hasDialog state { logged with log := _ } _ same, rfl⟩
    | undecided _ => exact ⟨_, _, stops_failed hasDialog state logged _ same, rfl⟩

end PluginSandbox.Consent
