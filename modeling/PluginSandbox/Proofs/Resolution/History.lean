import PluginSandbox.Plugin.Loading
import PluginSandbox.Proofs.Script.Runs

/-!
# What is told of failed imports

Every request for an import that ends is recorded with its failure. What the user is told, through
the log or directly, is accounted for by the record, item by item; and the failure of a local
module is in the record only after the failure inside it that it wraps. So a failure that passes
through nested modules leaves a trail in the record, of which the innermost alone is told.
-/
namespace PluginSandbox

open Plugin Script

/-- What an entry of the log tells of a failure. -/
def LogEntry.report? (entry : LogEntry) : Option String :=
  if entry.level = .error ∧ entry.origin = .host then some entry.text else none

/-- What an event tells of a failure. -/
def Script.Event.report? : Event → Option (String × String)
  | .reported title body => some (title, body)
  | .requested _ => none

/-- The request that an event tells of. -/
def Script.Event.request? : Event → Option Request
  | .requested request => some request
  | .reported _ _ => none

namespace Plugin

/-- What is to be told of the end of a request: its failure, if it was not told already. -/
def Resolution.report? (resolution : Resolution) : Option String :=
  match resolution.failure with
  | some error => if error.needsReport then some (reportBody error resolution.request) else none
  | none => none

/-- What is to be told of the requests that have ended. -/
def reportsOf (resolutions : List Resolution) : List String :=
  resolutions.filterMap Resolution.report?

theorem reportsOf_concat (resolutions : List Resolution) (resolution : Resolution) :
    reportsOf (resolutions ++ [resolution]) =
      reportsOf resolutions ++ resolution.report?.toList := by
  rw [reportsOf, List.filterMap_append]
  cases report : resolution.report? with
  | none => simp [reportsOf, report]
  | some body => simp [reportsOf, report]

/-- Whether the log or the user was told exactly what the record has to tell. -/
structure Accounted (reportsToLog : Bool) (state : State) : Prop where
  /-- The log tells it if failures are told through the log. -/
  logged : state.log.filterMap LogEntry.report? =
    if reportsToLog then (reportsOf state.resolutions).map (reportTitle ++ ": " ++ ·) else []
  /-- The user is told it otherwise. -/
  told : state.journal.filterMap Event.report? =
    if reportsToLog then [] else (reportsOf state.resolutions).map (reportTitle, ·)

/-- Whether every failure that wraps another one is recorded after it. -/
def Chained (resolutions : List Resolution) : Prop :=
  ∀ before resolution after, resolutions = before ++ resolution :: after →
    ∀ path error, resolution.failure = some (.nested path error) →
      ∃ earlier ∈ before, earlier.failure = some error

/-- Whether a failure is recorded. -/
def Recorded (error : ResolveError) (state : State) : Prop :=
  ∃ resolution ∈ state.resolutions, resolution.failure = some error

theorem chained_nil : Chained [] := by
  intro before resolution after split
  simp at split

/-- A failure may be recorded once the one that it wraps is. -/
theorem Chained.concat {resolutions : List Resolution} (chained : Chained resolutions)
    (last : Resolution)
    (backed : ∀ path error, last.failure = some (.nested path error) →
      ∃ earlier ∈ resolutions, earlier.failure = some error) :
    Chained (resolutions ++ [last]) := by
  intro before resolution after split path error nested
  rcases List.eq_nil_or_concat after with rfl | ⟨after, other, rfl⟩
  · obtain ⟨rfl, rfl⟩ := List.append_singleton_inj.mp split
    exact backed path error nested
  · have shorter : resolutions ++ [last] = (before ++ resolution :: after) ++ [other] := by
      simpa using split
    exact chained before resolution after (List.append_singleton_inj.mp shorter).1 path error nested

/-- The state after a failure was told. -/
def tellFailure (resolver : Resolver) (body : String) (state : State) : State :=
  if resolver.reportsToLog then
    { state with log := state.log ++ [⟨.error, .host, reportTitle ++ ": " ++ body⟩] }
  else { state with journal := state.journal ++ [.reported reportTitle body] }

/-- The state after the end of a request: what is to be told of it is told, and it is recorded. -/
def conclude (resolver : Resolver) (resolution : Resolution) (state : State) : State :=
  let told :=
    match resolution.report? with
    | some body => tellFailure resolver body state
    | none => state
  { told with resolutions := state.resolutions ++ [resolution] }

/-- The failure of an outcome. -/
def failureOf {ε α : Type} : Except ε α → Option ε
  | .ok _ => none
  | .error error => some error

/-- A request is satisfied by an action, and then it ends: it is told of once if it failed and was
not told of, and not at all otherwise. -/
theorem reporting_apply (resolver : Resolver) (request : ImportRequest)
    (action : Code ResolveError Value) (state : State) :
    reporting resolver request action state =
      (action state).andThen fun outcome state =>
        .ended outcome (conclude resolver ⟨request, failureOf outcome⟩ state) := by
  unfold reporting
  refine (Code.attempt_apply _ _ _).trans ?_
  congr 1
  funext outcome state
  cases outcome with
  | ok value => rfl
  | error error =>
    dsimp only
    cases needed : error.needsReport with
    | false => simp [conclude, Resolution.report?, failureOf, needed, record, Code.change, bind,
        Run.bind, Code.fail, Run.ended]
    | true =>
      cases toLog : resolver.reportsToLog <;>
        simp [conclude, tellFailure, toLog, Resolution.report?, failureOf, needed, report,
          Code.note, Code.tell, record, Code.change, bind, Run.bind, Code.fail, Run.ended]

theorem conclude_settings (resolver : Resolver) (resolution : Resolution) (state : State) :
    (conclude resolver resolution state).settings = state.settings := by
  unfold conclude tellFailure
  split
  · split <;> rfl
  · rfl

/-- At the end of a request nothing is asked for. -/
theorem conclude_requests (resolver : Resolver) (resolution : Resolution) (state : State) :
    (conclude resolver resolution state).journal.filterMap Event.request? =
      state.journal.filterMap Event.request? := by
  unfold conclude tellFailure
  split
  · split
    · rfl
    · simp [Event.request?]
  · rfl

theorem conclude_heap (resolver : Resolver) (resolution : Resolution) (state : State) :
    (conclude resolver resolution state).heap = state.heap := by
  unfold conclude tellFailure
  split
  · split <;> rfl
  · rfl

theorem conclude_calls (resolver : Resolver) (resolution : Resolution) (state : State) :
    (conclude resolver resolution state).calls = state.calls := by
  unfold conclude tellFailure
  split
  · split <;> rfl
  · rfl

theorem conclude_resolutions (resolver : Resolver) (resolution : Resolution) (state : State) :
    (conclude resolver resolution state).resolutions = state.resolutions ++ [resolution] := rfl

/-- At the end of a request, the log is told what is to be told of it, if failures are told there,
and nothing otherwise. -/
theorem conclude_logged (resolver : Resolver) (resolution : Resolution) (state : State) :
    (conclude resolver resolution state).log.filterMap LogEntry.report? =
      state.log.filterMap LogEntry.report? ++
        if resolver.reportsToLog then resolution.report?.toList.map (reportTitle ++ ": " ++ ·)
        else [] := by
  unfold conclude tellFailure
  cases resolution.report? with
  | none => cases resolver.reportsToLog <;> simp
  | some body => cases resolver.reportsToLog <;> simp [LogEntry.report?]

/-- At the end of a request, the user is told what is to be told of it, if failures are not told
through the log, and nothing otherwise. -/
theorem conclude_told (resolver : Resolver) (resolution : Resolution) (state : State) :
    (conclude resolver resolution state).journal.filterMap Event.report? =
      state.journal.filterMap Event.report? ++
        if resolver.reportsToLog then []
        else resolution.report?.toList.map (reportTitle, ·) := by
  unfold conclude tellFailure
  cases resolution.report? with
  | none => cases resolver.reportsToLog <;> simp
  | some body => cases resolver.reportsToLog <;> simp [Event.report?]

/-- The end of a request is accounted for. -/
theorem Accounted.conclude {resolver : Resolver} {state : State}
    (accounted : Accounted resolver.reportsToLog state) (resolution : Resolution) :
    Accounted resolver.reportsToLog (conclude resolver resolution state) := by
  constructor
  · rw [conclude_logged, accounted.logged, conclude_resolutions, reportsOf_concat]
    cases resolver.reportsToLog <;> simp
  · rw [conclude_told, accounted.told, conclude_resolutions, reportsOf_concat]
    cases resolver.reportsToLog <;> simp

/-- The failures inside a failure, from the innermost to the failure itself. -/
def ResolveError.layers : ResolveError → List ResolveError
  | .nested path error => error.layers ++ [.nested path error]
  | error => [error]

/-- The failure that arose in the first place. -/
def ResolveError.innermost : ResolveError → ResolveError
  | .nested _ error => error.innermost
  | error => error

/-- Whether a failure has left its trail in a record: its layers stand there in order, and the
innermost alone was to be told. -/
def Traced (error : ResolveError) (resolutions : List Resolution) : Prop :=
  ∃ trail : List Resolution, trail.Sublist resolutions ∧
    trail.map Resolution.failure = error.layers.map some ∧
    ∃ source ∈ trail, source.failure = some error.innermost ∧
      reportsOf trail = [reportBody error.innermost source.request]

/-- A failure in the record has left its trail there. -/
theorem Chained.traced {resolutions : List Resolution} (chained : Chained resolutions)
    (error : ResolveError) (before : List Resolution) (resolution : Resolution)
    (after : List Resolution) (split : resolutions = before ++ resolution :: after)
    (failed : resolution.failure = some error) : Traced error (before ++ [resolution]) := by
  induction error generalizing before resolution after with
  | nested path error ih =>
    obtain ⟨earlier, member, cause⟩ := chained before resolution after split path error failed
    obtain ⟨front, rest, rfl⟩ := List.append_of_mem member
    obtain ⟨trail, sub, layers, source, present, arose, told⟩ :=
      ih front earlier (rest ++ resolution :: after) (by simp [split]) cause
    refine ⟨trail ++ [resolution], ?_, ?_, source, List.mem_append_left _ present, arose, ?_⟩
    · refine List.Sublist.append (sub.trans ?_) (List.Sublist.refl _)
      exact List.append_sublist_append_left front |>.mpr (by simp)
    · simp [layers, failed, ResolveError.layers]
    · rw [reportsOf_concat, told]
      simp [Resolution.report?, failed, ResolveError.needsReport, ResolveError.innermost]
  | _ =>
    refine ⟨[resolution], by simp, by simp [failed, ResolveError.layers], resolution, by simp,
      failed, ?_⟩
    simp [reportsOf, Resolution.report?, failed, ResolveError.needsReport, ResolveError.innermost]

/-- A trail stays in a record that goes on. -/
theorem Traced.later {error : ResolveError} {before after : List Resolution}
    (traced : Traced error before) (record : before <+: after) : Traced error after := by
  obtain ⟨trail, sub, rest⟩ := traced
  exact ⟨trail, sub.trans record.sublist, rest⟩

end Plugin

end PluginSandbox
