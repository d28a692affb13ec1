import PluginSandbox.Proofs.Resolution.Calls

/-!
# Failures of imports

Every failure of an import is told once, by the request in which it arose. Scripts may catch it,
throw it again or leave it to the module that imports theirs; whatever they do, a failure that
they fail with was told before, and each local module that it passes through on its way out wraps
it once and tells nothing.
-/
namespace PluginSandbox.Plugin

open Host Interleaving Script

/-- The entries of a log are written one after the other. -/
theorem noteAll_apply {ε : Type} (entries : List LogEntry) (state : State) :
    (noteAll entries : Code ε Unit) state =
      .done () { state with log := state.log ++ entries } := by
  induction entries generalizing state with
  | nil => simp [noteAll, pure]
  | cons entry rest ih =>
    change (noteAll rest : Code ε Unit) { state with log := state.log ++ [entry] } = _
    rw [ih]
    simp

/-- A local module fails with a failure that it wraps exactly if its script fails with the failure
of an import. -/
theorem localFailure_eq_nested {path : String} {heap : Heap} {error : ExecutionError}
    {failure : ResolveError} :
    localFailure path heap error = .nested path failure ↔
      error = .failed (.importFailed failure) := by
  unfold localFailure
  split
  · simp
  · rename_i other
    refine ⟨nofun, fun same => (other failure same).elim⟩

/-- A local module is transpiled, its log is written, and its body runs in a realm of its own. -/
theorem runLocalModule_apply (self : Interpreter) (resolver : Resolver) (path source : String)
    (state : State) :
    runLocalModule self resolver path source state =
      let noted := { state with log := state.log ++ (transpile source false).log }
      match (transpile source false).result with
      | .error problem => .failed (.moduleFailed path problem.message) noted
      | .ok body =>
        (executeAfresh self (.resolver (resolver.forBasePath path)) body noted).andThen
          fun outcome state => .ended (outcome.mapError (localFailure path state.heap)) state := by
  unfold runLocalModule
  change ((noteAll _ : Code ResolveError Unit) state).bind _ = _
  rw [noteAll_apply]
  dsimp only [Run.bind]
  cases (transpile source false).result with
  | error problem => rfl
  | ok body =>
    refine (Code.attempt_apply _ _ _).trans ?_
    congr 1
    funext outcome state
    cases outcome <;> rfl

/-- A local module wraps a failure exactly if its body ends with that failure of an import, which
its script has not caught. -/
theorem runLocalModule_nested {others : State → State → Prop} (self : Interpreter)
    (resolver : Resolver) (path source : String) (error : ResolveError) (before after : State) :
    (runLocalModule self resolver path source before).ComesTo others
        (.error (.nested path error)) after ↔
      ∃ body, (transpile source false).result = .ok body ∧
        (executeAfresh self (.resolver (resolver.forBasePath path)) body
          { before with log := before.log ++ (transpile source false).log }).ComesTo others
            (.error (.failed (.importFailed error))) after := by
  rw [runLocalModule_apply]
  cases (transpile source false).result with
  | error problem => simp [Run.ComesTo]
  | ok body =>
    simp only [Except.ok.injEq, exists_eq_left', Run.comesTo_andThen, Run.comesTo_ended]
    constructor
    · rintro ⟨outcome, state, comes, last, rfl⟩
      cases outcome with
      | ok value => cases last
      | error problem =>
        rw [← localFailure_eq_nested.mp (Except.error.inj last).symm]
        exact comes
    · exact fun comes => ⟨_, after, comes, rfl, rfl⟩

/-- A request comes to what its action comes to, and is concluded then. -/
theorem reporting_comesTo {others : State → State → Prop} (resolver : Resolver)
    (request : ImportRequest) (action : Code ResolveError Value)
    (outcome : Except ResolveError Value) (before after : State) :
    (reporting resolver request action before).ComesTo others outcome after ↔
      ∃ middle, (action before).ComesTo others outcome middle ∧
        after = conclude resolver ⟨request, failureOf outcome⟩ middle := by
  rw [reporting_apply, Run.comesTo_andThen]
  constructor
  · rintro ⟨outcome, middle, comes, last⟩
    obtain ⟨rfl, rfl⟩ := Run.comesTo_ended.mp last
    exact ⟨middle, comes, rfl⟩
  · rintro ⟨middle, comes, rfl⟩
    exact ⟨outcome, middle, comes, Run.comesTo_ended.mpr ⟨rfl, rfl⟩⟩

/-- What is known of the failures of imports in a world after some calls. -/
structure FailuresTold (root : Resolver) (calls : List (Call root))
    (world : World (ResolveError ⊕ LoadError) (Value ⊕ LoadedPlugin)) : Prop where
  /-- What was told is what the record of requests has to tell, item by item. -/
  accounted : Accounted root.reportsToLog world.state
  /-- Every failure in the record has left its trail, of which the innermost layer was told. -/
  traced : ∀ error, Recorded error world.state → Traced error world.state.resolutions
  /-- A call with a result is recorded without a failure. -/
  satisfied : ∀ (index : Nat) (call : Call root) (value : Value ⊕ LoadedPlugin),
    calls[index]? = some call → world.tasks[index]? = some (.ended (some (.ok value))) →
      call.Satisfied world.state
  /-- A call that failed is recorded with its own request and failure; the failure of an import
  that ends the load of a plugin is recorded. -/
  failed : ∀ (index : Nat) (call : Call root) (error : ResolveError ⊕ LoadError),
    calls[index]? = some call → world.tasks[index]? = some (.ended (some (.error error))) →
      call.Failed error world.state

/-- Every failure of an import is told exactly once. In every world that calls of a family reach,
what was told is what the record of requests has to tell; a request is recorded when it ends, and
tells its failure then unless that wraps another one; a script that fails with the failure of an
import, through `require` or anywhere around it, does so after that failure was recorded and its
innermost layer told; and a local module wraps exactly the failure of an import that its script
does not catch. -/
theorem failure_told_once (root : Resolver) (bound : Nat) :
    (∀ (heap : Heap) (settings : Settings) (random : UInt64) (moves : List (Move (Call root)))
        (world : World (ResolveError ⊕ LoadError) (Value ⊕ LoadedPlugin)),
      heap.LoadsFrom (IsServed root) →
      (World.idle { heap, settings, random }).run? (Call.code bound) moves = some world →
        FailuresTold root (called moves) world ∧
        ∀ (move : Move (Call root)) next, world.move? (Call.code bound) move = some next →
          Interferes root world.state next.state) ∧
    (∀ (resolver : root.Kin) (module : String) (outcome : Except ResolveError Value)
        (before after : State),
      (resolve (Interpreter.within bound) resolver.1 module before).ComesTo (Interferes root)
          outcome after ↔
        ∃ middle, (resolveModule (Interpreter.within bound) resolver.1 module before).ComesTo
            (Interferes root) outcome middle ∧
          after = conclude resolver.1 ⟨.module module, failureOf outcome⟩ middle) ∧
    (∀ (resolver : root.Kin) (statement : Import) (outcome : Except ResolveError Value)
        (before after : State), statement.isTypeOnly = false →
      ((resolveImport (Interpreter.within bound) resolver.1 statement before).ComesTo
          (Interferes root) outcome after ↔
        ∃ middle, (resolveStatement (Interpreter.within bound) resolver.1 statement
            before).ComesTo (Interferes root) outcome middle ∧
          after = conclude resolver.1 ⟨.statement statement, failureOf outcome⟩ middle)) ∧
    (∀ (resolver : root.Kin) (arguments : List Value) (error : ResolveError)
        (before after : State), Kept root before →
      (Evaluation.callRequire (Interpreter.within bound) (.resolver resolver.1) arguments
          before).ComesTo (Interferes root) (.error (.importFailed error)) after →
        Accounted root.reportsToLog after ∧ Traced error after.resolutions) ∧
    (∀ (statement : Syntax.Statement) (context : Context) (error : ResolveError)
        (before after : State), Kept root before →
      ((Interpreter.within bound).statement statement context before).ComesTo (Interferes root)
          (.error (.importFailed error)) after →
        Accounted root.reportsToLog after ∧ Traced error after.resolutions) ∧
    ∀ (resolver : root.Kin) (path source : String) (error : ResolveError)
        (before after : State),
      (runLocalModule (Interpreter.within bound) resolver.1 path source before).ComesTo
          (Interferes root) (.error (.nested path error)) after ↔
        ∃ body, (transpile source false).result = .ok body ∧
          (executeAfresh (Interpreter.within bound) (.resolver (resolver.1.forBasePath path)) body
            { before with log := before.log ++ (transpile source false).log }).ComesTo
              (Interferes root) (.error (.failed (.importFailed error))) after := by
  have admits := conduct_admits root
  have sound := scripts_sound admits bound
  refine ⟨?_, ?_, ?_, ?_, ?_, ?_⟩
  · intro heap settings random moves world served run
    have abiding := Call.abiding root bound heap settings random served moves world run
    refine ⟨⟨abiding.holds.accounted, fun error recorded => abiding.holds.traced recorded, ?_, ?_⟩,
      ?_⟩
    · exact fun index call value known found => abiding.tasks index call _ known found
    · exact fun index call error known found => abiding.tasks index call _ known found
    · intro move next moved
      obtain ⟨after, others, _⟩ := abiding.move (conduct_isShared root) move moved
      exact ⟨after.holds, others⟩
  · exact fun resolver module outcome before after =>
      reporting_comesTo resolver.1 (.module module) _ outcome before after
  · intro resolver statement outcome before after values
    simp only [resolveImport, values, Bool.false_eq_true, if_false]
    exact reporting_comesTo resolver.1 (.statement statement) _ outcome before after
  · intro resolver arguments error before after kept comes
    have unseen : root.conduct.Knows [] before := nofun
    have keeps := (callRequire_sound admits sound (.resolver resolver.1) resolver.2
      arguments).run before kept unseen
    obtain ⟨last, _, raises⟩ := keeps.comesTo comes
    exact ⟨last.accounted, last.traced (raises _ rfl)⟩
  · intro statement context error before after kept comes
    have knows : root.conduct.Knows context.environment.scopes before := fun _ _ => trivial
    have keeps := (sound.statement statement context trivial).run before kept knows
    obtain ⟨last, _, raises⟩ := keeps.comesTo comes
    exact ⟨last.accounted, last.traced (raises _ rfl)⟩
  · exact fun resolver path source error before after =>
      runLocalModule_nested _ resolver.1 path source error before after

/-- A host that reads documents and tells the user of failures. -/
def documentHost : Resolver :=
  { hasDocuments := true, reportsToLog := false, basePath := some "main.js" }

/-- A local module is resolved that imports another one, whose document does not exist. -/
def missingDocument : List (Move (Call documentHost)) :=
  [.call (.resolve ⟨documentHost, rfl⟩ "./a.js"), .start 0,
    .resume 0 (.document (.ok (.text "import b from './b.js';"))),
    .resume 0 (.document (.error .notFound))]

/-- A state in which scripts load modules through the host. -/
def requiring : State :=
  let (require, heap) :=
    ({} : Heap).allocateValue (.function "require" (.require (.resolver documentHost)) {})
  { heap := { heap with scopes := #[⟨[("require", ⟨some require, false⟩)]⟩] } }

/-- A script that loads a module that nobody provides. -/
def requireMissing : Syntax.Statement :=
  .expression (.call (.identifier "require") [.item (.literal (.text "m"))] false)

/-- The failure of an import that a run ends with at once. -/
def raised? {α : Type} : Run RuntimeError α → Option ResolveError
  | .failed (.importFailed error) _ => some error
  | _ => none

theorem comesTo_of_raised {α : Type} {others : State → State → Prop} {run : Run RuntimeError α}
    {error : ResolveError} (raised : raised? run = some error) :
    ∃ after, run.ComesTo others (.error (.importFailed error)) after := by
  cases run with
  | failed failure after =>
    cases failure with
    | importFailed failure =>
      cases raised
      exact ⟨after, rfl, rfl⟩
    | _ => cases raised
  | _ => cases raised

/-- The failure of a missing document is told once, where it was imported, and passes through the
module that imports it; scripts that load a module that nobody provides fail with a failure that
was told. -/
theorem failure_told_once_missing :
    (∃ world, (World.idle { heap := {}, settings := {}, random := 1 }).run? (Call.code 9)
        missingDocument = some world ∧
      world.state.resolutions = [⟨.module "./b.js", some (.document "b.js" .notFound)⟩,
        ⟨.module "./a.js", some (.nested "a.js" (.document "b.js" .notFound))⟩] ∧
      world.state.journal.filterMap Event.report? = [(reportTitle,
        "Importing `./b.js` failed: failed to read `b.js`: document not found")]) ∧
    (∃ after, (Evaluation.callRequire (Interpreter.within 1) (.resolver documentHost) [.text "m"]
        {}).ComesTo (Interferes documentHost) (.error (.importFailed (.unresolvedModule "m"))) after ∧
      Traced (.unresolvedModule "m") after.resolutions) ∧
    ∃ after, ((Interpreter.within 9).statement requireMissing
        ⟨⟨0⟩, ⟨⟨0⟩, []⟩, .undefined⟩ requiring).ComesTo (Interferes documentHost)
          (.error (.importFailed (.unresolvedModule "m"))) after ∧
      Traced (.unresolvedModule "m") after.resolutions := by
  have source : (Object.function "require" (.require (.resolver documentHost)) {}).LoadsFrom
      (IsServed documentHost) := Resolver.IsKin.refl documentHost
  have served : requiring.heap.LoadsFrom (IsServed documentHost) :=
    (Heap.loadsFrom_empty.allocateValue source).of_objects rfl
  refine ⟨?_, ?_, ?_⟩
  · have computed : (((World.idle { heap := {}, settings := {}, random := 1 }).run? (Call.code 9)
        missingDocument).map fun world => world.state.resolutions) =
        some [⟨.module "./b.js", some (.document "b.js" .notFound)⟩,
          ⟨.module "./a.js", some (.nested "a.js" (.document "b.js" .notFound))⟩] := by
      decide +kernel
    obtain ⟨world, run, resolutions⟩ := Option.map_eq_some_iff.mp computed
    have told := ((failure_told_once documentHost 9).1 {} {} 1 missingDocument world
      Heap.loadsFrom_empty run).1.accounted.told
    refine ⟨world, run, resolutions, ?_⟩
    rw [told, resolutions]
    decide +kernel
  · obtain ⟨after, comes⟩ : ∃ after, (Evaluation.callRequire (Interpreter.within 1)
        (.resolver documentHost) [.text "m"] {}).ComesTo (Interferes documentHost)
          (.error (.importFailed (.unresolvedModule "m"))) after :=
      comesTo_of_raised (by decide +kernel)
    exact ⟨after, comes, ((failure_told_once documentHost 1).2.2.2.1 ⟨documentHost, rfl⟩ _ _ {}
      after (kept_initial documentHost {} {} _ Heap.loadsFrom_empty) comes).2⟩
  · obtain ⟨after, comes⟩ : ∃ after, ((Interpreter.within 9).statement requireMissing
        ⟨⟨0⟩, ⟨⟨0⟩, []⟩, .undefined⟩ requiring).ComesTo (Interferes documentHost)
          (.error (.importFailed (.unresolvedModule "m"))) after :=
      comesTo_of_raised (by decide +kernel)
    exact ⟨after, comes, ((failure_told_once documentHost 9).2.2.2.2.1 _ _ _ requiring after
      (kept_initial documentHost requiring.heap {} _ served) comes).2⟩

end PluginSandbox.Plugin
