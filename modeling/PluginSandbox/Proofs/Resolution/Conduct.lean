import PluginSandbox.Proofs.Resolution.Admission

/-!
# The conduct of a family of resolvers

The resolvers of a family differ in their paths alone. Everything that runs on their behalf, down
to the scripts of nested local modules, keeps to one conduct: functions load modules through
resolvers of the family, what the user was told is accounted for, a module is fetched only while
the settings allow it, the user is asked only while the settings leave the decision open, and both
only for modules that nothing else provides. Code never writes the settings itself.
-/
namespace PluginSandbox.Plugin

open Script

/-- Whether resolvers differ in their paths alone. -/
def Resolver.IsKin (root resolver : Resolver) : Prop :=
  { resolver with basePath := root.basePath, ancestors := root.ancestors } = root

namespace Resolver.IsKin

variable {root resolver : Resolver}

theorem refl (root : Resolver) : root.IsKin root := rfl

/-- The resolver for a nested document belongs to the family. -/
theorem forBasePath (kin : root.IsKin resolver) (path : String) :
    root.IsKin (resolver.forBasePath path) := kin

theorem reportsToLog (kin : root.IsKin resolver) : resolver.reportsToLog = root.reportsToLog := by
  rw [← kin]

/-- A module that nothing else provides to a resolver is provided to none of the family. -/
theorem isExternal (kin : root.IsKin resolver) {module : String}
    (external : IsExternal resolver module) : IsExternal root module := by
  obtain ⟨foreign, unknown, tokenless⟩ := external
  rw [← kin]
  exact ⟨foreign, unknown, tokenless⟩

end Resolver.IsKin

section Family

variable (root : Resolver)

/-- Whether modules from a source are resolved by the family. -/
def IsServed : ModuleSource → Prop
  | .resolver resolver => root.IsKin resolver
  | .table _ => False

/-- What holds of the state that a family works on. -/
structure Kept (state : State) : Prop where
  /-- The user was told of every failure once. -/
  accounted : Accounted root.reportsToLog state
  /-- Failures wrap failures that arose before. -/
  chained : Chained state.resolutions
  /-- Functions load modules through the family. -/
  loads : state.heap.LoadsFrom (IsServed root)

/-- What others do to the state while code of the family waits: it is kept, and the record of
requests goes on. -/
def Interferes (before after : State) : Prop :=
  Kept root after ∧ before.resolutions <+: after.resolutions

/-- How code of the family changes the state by itself: requests end, and settings stay. -/
structure Acts (before after : State) : Prop where
  /-- The record of requests goes on. -/
  record : before.resolutions <+: after.resolutions
  /-- The settings stay. -/
  settings : after.settings = before.settings

/-- What code of the family may ask for in a state. -/
def Entitled : Request → State → Prop
  | .fetch module cdnUrl, state =>
    state.settings.standing = .allowed cdnUrl ∧ IsExternal root module
  | .ask module cdnUrl, state =>
    state.settings.standing = .undecided cdnUrl ∧ IsExternal root module
  | _, _ => True

variable {root}

theorem Recorded.later {error : ResolveError} {before after : State}
    (record : before.resolutions <+: after.resolutions) (recorded : Recorded error before) :
    Recorded error after := by
  obtain ⟨resolution, member, failed⟩ := recorded
  exact ⟨resolution, record.subset member, failed⟩

/-- A state is kept if what the family cares about stays. -/
theorem Kept.of_same {before after : State} (kept : Kept root before)
    (log : after.log.filterMap LogEntry.report? = before.log.filterMap LogEntry.report?)
    (journal : after.journal.filterMap Event.report? = before.journal.filterMap Event.report?)
    (resolutions : after.resolutions = before.resolutions)
    (loads : after.heap.LoadsFrom (IsServed root)) : Kept root after := by
  obtain ⟨⟨logged, told⟩, chained, _⟩ := kept
  refine ⟨⟨?_, ?_⟩, ?_, loads⟩
  · rw [log, resolutions, logged]
  · rw [journal, resolutions, told]
  · rw [resolutions]
    exact chained

/-- A recorded failure has left its trail in a record that is kept. -/
theorem Kept.traced {state : State} (kept : Kept root state) {error : ResolveError}
    (recorded : Recorded error state) : Traced error state.resolutions := by
  obtain ⟨resolution, member, failed⟩ := recorded
  obtain ⟨before, after, split⟩ := List.append_of_mem member
  exact (kept.chained.traced error before resolution after split failed).later
    ⟨after, by simp [split]⟩

/-- A step of a script is kept and changes no settings. -/
theorem Kept.step {declares : ScopeRef → Prop} {sees : Environment → Prop}
    {before after : State} (kept : Kept root before)
    (step : ScriptStep (IsServed root) declares sees before after) :
    Kept root after ∧ Acts before after := by
  have loads := step.loads kept.loads
  cases step with
  | heap => exact ⟨kept.of_same rfl rfl rfl loads, List.prefix_rfl, rfl⟩
  | draw random => exact ⟨kept.of_same rfl rfl rfl kept.loads, List.prefix_rfl, rfl⟩
  | print level text =>
    exact ⟨kept.of_same (by simp [LogEntry.report?]) rfl rfl kept.loads, List.prefix_rfl, rfl⟩
  | pause =>
    exact ⟨kept.of_same rfl (by simp [Event.report?]) rfl kept.loads, List.prefix_rfl, rfl⟩
  | refuse realm full => exact ⟨kept.of_same rfl rfl rfl kept.loads, List.prefix_rfl, rfl⟩

/-- A new realm is kept and changes no settings. -/
theorem Kept.realm {state : State} (kept : Kept root state) :
    Kept root { state with heap := (Library.createRealm state.heap).2 } :=
  kept.of_same rfl rfl rfl (kept.loads.createRealm)

variable (root) in
/-- The conduct of a family of resolvers. -/
def Resolver.conduct : Conduct where
  source := IsServed root
  holds := Kept root
  acts := Acts
  others before after := before.resolutions <+: after.resolutions
  asks := Entitled root
  raises := Recorded
  acts_refl _ := ⟨List.prefix_rfl, rfl⟩
  acts_trans first second :=
    ⟨first.record.trans second.record, second.settings.trans first.settings⟩
  raises_acts _ acts recorded := recorded.later acts.record
  raises_others _ others recorded := recorded.later others
  loads kept := kept.loads
  step kept step :=
    have ⟨kept, acts⟩ := kept.step step
    ⟨acts, kept, fun _ now => now⟩
  begins realm kept _ := ⟨⟨List.prefix_rfl, rfl⟩,
    kept.of_same rfl rfl rfl (kept.loads.changeRealm realm _), fun _ now => now⟩
  leaves realm _ kept _ := ⟨⟨List.prefix_rfl, rfl⟩,
    kept.of_same rfl rfl rfl (kept.loads.changeRealm realm _), trivial⟩
  pauses _ := trivial

/-- The end of a request is kept, if what its failure wraps is recorded. -/
theorem Kept.conclude {state : State} (kept : Kept root state) {resolver : Resolver}
    (kin : root.IsKin resolver) (resolution : Resolution)
    (backs : ∀ error, resolution.failure = some error → Backs root.conduct error state) :
    Kept root (conclude resolver resolution state) := by
  refine ⟨?_, ?_, ?_⟩
  · rw [← kin.reportsToLog]
    exact Accounted.conclude (by rw [kin.reportsToLog]; exact kept.accounted) resolution
  · exact kept.chained.concat resolution fun path error nested => backs _ nested
  · rw [conclude_heap]
    exact kept.loads

/-- The conduct of a family admits what its resolvers do. -/
theorem conduct_admits (root : Resolver) : AdmitsImports root.conduct where
  note entry silent kept :=
    ⟨⟨List.prefix_rfl, rfl⟩, kept.of_same (by simp [silent]) rfl rfl kept.loads, fun _ now => now⟩
  turn _ kept :=
    ⟨⟨List.prefix_rfl, rfl⟩, kept.of_same rfl rfl rfl kept.loads, fun _ now => now⟩
  request _ kept :=
    ⟨⟨List.prefix_rfl, rfl⟩, kept.of_same rfl (by simp [Event.report?]) rfl kept.loads,
      fun _ now => now⟩
  realm kept := ⟨⟨List.prefix_rfl, rfl⟩, kept.realm, fun _ now => now⟩
  conclude {state resolver} resolution kin kept backs :=
    ⟨⟨⟨[resolution], rfl⟩, conclude_settings resolver resolution state⟩,
      Kept.conclude kept kin resolution backs, fun _ now => now⟩
  raise recorded := recorded
  table served := served.elim
  nested {_ path _} kin _ _ := kin.forBasePath path
  free {request _} free := by
    cases request with
    | ask => cases free
    | fetch => cases free
    | _ => trivial
  ask kin external undecided := ⟨undecided, kin.isExternal external⟩
  fetch kin external allowed := ⟨allowed, kin.isExternal external⟩

end Family

end PluginSandbox.Plugin
