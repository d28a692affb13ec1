import PluginSandbox.Proofs.Resolution.Conduct
import PluginSandbox.Proofs.Sharing

/-!
# Calls of a family of resolvers

Any number of requests for modules and imports and of loads of plugins run at once on the
resolvers of one family, while the settings are changed from outside at any moment. Whatever the
interleaving and the replies of the host are, the conduct of the family holds after every move.
-/
namespace PluginSandbox.Plugin

open Host Interleaving Script

/-- The resolvers of a family. -/
def Resolver.Kin (root : Resolver) : Type := { resolver : Resolver // root.IsKin resolver }

/-- What is called on a resolver of a family. -/
inductive Call (root : Resolver) where
  /-- A whole module is resolved. -/
  | resolve (resolver : root.Kin) (module : String)
  /-- What an import binds is resolved. -/
  | resolveImport (resolver : root.Kin) (statement : Import)
  /-- A plugin is loaded. -/
  | load (resolver : root.Kin) (source : String)

namespace Call

variable {root : Resolver}

/-- The resolver that a call is made on. -/
def resolver : Call root → root.Kin
  | .resolve resolver _ | .resolveImport resolver _ | .load resolver _ => resolver

/-- What a call runs, within a bound on the nesting of evaluations. -/
def code (bound : Nat) : Call root → Code (ResolveError ⊕ LoadError) (Value ⊕ LoadedPlugin)
  | .resolve resolver module =>
    .mapError .inl (.inl <$> Plugin.resolve (Interpreter.within bound) resolver.1 module)
  | .resolveImport resolver statement =>
    .mapError .inl (.inl <$> Plugin.resolveImport (Interpreter.within bound) resolver.1 statement)
  | .load resolver source =>
    .mapError .inr (.inr <$> Plugin.load (Interpreter.within bound) resolver.1 source)

/-- The request that a call makes. An import of types alone and the load of a plugin make none. -/
def request? : Call root → Option ImportRequest
  | .resolve _ module => some (.module module)
  | .resolveImport _ statement =>
    if statement.isTypeOnly then none else some (.statement statement)
  | .load _ _ => none

/-- What is known of a call that has a result: its request is recorded as satisfied. -/
def Satisfied (call : Call root) (state : State) : Prop :=
  ∀ request, call.request? = some request → ⟨request, none⟩ ∈ state.resolutions

/-- What is known of a call that failed: its request is recorded with its failure, and the failure
of an import in a plugin is recorded. -/
def Failed (call : Call root) : ResolveError ⊕ LoadError → State → Prop
  | .inl error, state =>
    ∀ request, call.request? = some request → ⟨request, some error⟩ ∈ state.resolutions
  | .inr error, state => ∀ failure, error = .failed (.failed (.importFailed failure)) →
    Recorded failure state

theorem code_keeps (bound : Nat) (call : Call root) :
    root.conduct.Keeps (fun _ => True) (call.code bound) (fun _ => call.Satisfied) call.Failed := by
  have admits := conduct_admits root
  have sound := scripts_sound admits bound
  have kept {ε ε' α β : Type} {code : Code ε α} {ends : State → Prop} {fails : ε → State → Prop}
      {fails' : ε' → State → Prop} {f : ε → ε'} (g : α → β)
      (keeps : root.conduct.Keeps (fun _ => True) code (fun _ => ends) fails)
      (failed : ∀ error state, fails error state → fails' (f error) state) :
      root.conduct.Keeps (fun _ => True) (Code.mapError f (g <$> code)) (fun _ => ends) fails' :=
    .mapError (.bind keeps fun _ => .pure fun _ _ now => now)
      fun error state _ => failed error state
  cases call with
  | resolve resolver module =>
    refine kept _ ((resolve_keeps admits sound resolver.2 module).mono (fun _ _ start => start) ?_
      fun _ _ _ failed => failed) ?_
    · rintro value state _ ended _ ⟨⟩
      exact ended
    · rintro error state failed _ ⟨⟩
      exact failed
  | resolveImport resolver statement =>
    refine kept _ ((resolveImport_keeps admits sound resolver.2 statement).mono
      (fun _ _ start => start) ?_ fun _ _ _ failed => failed) ?_
    · intro value state _ ended request asked
      simp only [request?, Option.ite_none_left_eq_some, Option.some.injEq] at asked
      exact asked.2 ▸ ended (by simpa using asked.1)
    · intro error state failed request asked
      simp only [request?, Option.ite_none_left_eq_some, Option.some.injEq] at asked
      exact asked.2 ▸ failed
  | load resolver source =>
    refine kept _ ((load_keeps admits sound resolver.2 source).mono (fun _ _ start => start) ?_
      fun _ _ _ failed => failed) fun _ _ failed => failed
    exact fun _ _ _ _ _ => nofun

variable (root) in
/-- What calls come to. -/
def contract (bound : Nat) : Contract root.conduct (@code root bound) where
  ends call _ := call.Satisfied
  fails call := call.Failed
  keeps call := code_keeps bound call
  ends_later call _ record satisfied request asked := record.subset (satisfied request asked)
  fails_later call error record failed := by
    cases error with
    | inl error => exact fun request asked => record.subset (failed request asked)
    | inr error => exact fun failure caused => (failed failure caused).later record

end Call

/-- Code of a family has to expect what other code of it does and changes of the settings. -/
theorem conduct_isShared (root : Resolver) : IsShared root.conduct where
  acts acts := acts.record
  refl _ := List.prefix_rfl
  trans := List.IsPrefix.trans
  settle _ kept := ⟨kept.of_same rfl rfl rfl kept.loads, List.prefix_rfl⟩

/-- A state in which nothing has happened yet. -/
theorem kept_initial (root : Resolver) (heap : Heap) (settings : Settings) (random : UInt64)
    (served : heap.LoadsFrom (IsServed root)) : Kept root { heap, settings, random } :=
  ⟨⟨by simp [reportsOf], by simp [reportsOf]⟩, chained_nil, served⟩

/-- Calls of a family abide by their contracts in every world that they reach from an idle one. -/
theorem Call.abiding (root : Resolver) (bound : Nat) (heap : Heap) (settings : Settings)
    (random : UInt64) (served : heap.LoadsFrom (IsServed root)) (moves : List (Move (Call root)))
    (world : World (ResolveError ⊕ LoadError) (Value ⊕ LoadedPlugin))
    (run : (World.idle { heap, settings, random }).run? (Call.code bound) moves = some world) :
    Abiding (Call.contract root bound) (called moves) world := by
  have start := abiding_idle (Call.contract root bound) { heap, settings, random }
    (kept_initial root heap settings random served)
  simpa using start.run (conduct_isShared root) moves run

end PluginSandbox.Plugin
