import PluginSandbox.Proofs.Resolution.History
import PluginSandbox.Proofs.Script.SoundEvaluation

/-!
# Conducts that admit imports

Resolvers bring in modules by themselves and through the scripts of local modules, which import in
turn. A conduct admits all of that as soon as it admits a handful of steps: entries of the log,
turns to check, requests, and the ends of requests. Whatever else a conduct says then holds at
every depth of nested modules.
-/
namespace PluginSandbox.Plugin

open Script

/-- Whether nothing but the network may provide a module. -/
structure IsExternal (resolver : Resolver) (module : String) : Prop where
  /-- It is no document. -/
  foreign : Path.isRelative module = false
  /-- The host does not know it. -/
  unknown : resolver.known.get? module = none
  /-- It has no token. -/
  tokenless : resolver.tokens.hasModule module = false

/-- The module that a request brings into contact with the network. -/
def requestedModule? : Request → Option String
  | .ask module _ | .fetch module _ => some module
  | _ => none

/-- Whether a failure that wraps another one may be told of: the other one may be raised. -/
def Backs (conduct : Conduct) : ResolveError → State → Prop
  | .nested _ error, state => conduct.raises error state
  | _, _ => True

theorem Backs.acts {conduct : Conduct} {error : ResolveError} {before after : State}
    (backs : Backs conduct error before) (acts : conduct.acts before after) :
    Backs conduct error after := by
  cases error with
  | nested path error => exact conduct.raises_acts error acts backs
  | _ => trivial

/-- The paths of the documents that are being loaded, down to the importing one. -/
def Resolver.trail (resolver : Resolver) : List String :=
  resolver.ancestors ++ resolver.basePath.toList

/-- Whether a resolver may load the document at a path: a module resolves to it, and it is not
being loaded already. -/
structure Resolver.MayLoad (resolver : Resolver) (path : String) : Prop where
  /-- The path is that of a module of the importing document. -/
  resolved : ∃ basePath module, resolver.basePath = some basePath ∧
    path = Path.resolveRelative basePath module
  /-- The document is none of those that are being loaded. -/
  fresh : path ∉ resolver.trail

/-- What a conduct has to admit so that resolvers keep to it. -/
structure AdmitsImports (conduct : Conduct) : Prop where
  /-- Entries of the log that tell of no failure are written. -/
  note : ∀ {state} (entry : LogEntry), entry.report? = none → conduct.holds state →
    conduct.Admits state { state with log := state.log ++ [entry] }
  /-- Checks begin and end. -/
  turn : ∀ {state} (isChecking : Bool), conduct.holds state →
    conduct.Admits state { state with isChecking }
  /-- Requests are made. -/
  request : ∀ {state} (request : Request), conduct.holds state →
    conduct.Admits state { state with journal := state.journal ++ [.requested request] }
  /-- Realms are created. -/
  realm : ∀ {state}, conduct.holds state →
    conduct.Admits state { state with heap := (Library.createRealm state.heap).2 }
  /-- Requests for imports end. -/
  conclude : ∀ {state resolver} (resolution : Resolution), conduct.source (.resolver resolver) →
    conduct.holds state →
    (∀ error, resolution.failure = some error → Backs conduct error state) →
    conduct.Admits state (conclude resolver resolution state)
  /-- Failures that are recorded may be raised. -/
  raise : ∀ {error state}, Recorded error state → conduct.raises error state
  /-- Tables of modules raise what they lack. -/
  table : ∀ {modules}, conduct.source (.table modules) → ∀ error state, conduct.raises error state
  /-- Local modules import through resolvers of their own. -/
  nested : ∀ {resolver path source}, conduct.source (.resolver resolver) →
    resolver.MayLoad path → conduct.answers (.document path) (.ok (.text source)) →
    conduct.source (.resolver (resolver.forBasePath path))
  /-- Requests that do not concern the network are free. -/
  free : ∀ {request state}, requestedModule? request = none → conduct.asks request state
  /-- The user is asked about modules that nothing else provides, while the decision is open. -/
  ask : ∀ {resolver module cdnUrl state}, conduct.source (.resolver resolver) →
    IsExternal resolver module → state.settings.standing = .undecided cdnUrl →
    conduct.asks (.ask module cdnUrl) state
  /-- Modules that nothing else provides are fetched, while the settings allow it. -/
  fetch : ∀ {resolver module cdnUrl state}, conduct.source (.resolver resolver) →
    IsExternal resolver module → state.settings.standing = .allowed cdnUrl →
    conduct.asks (.fetch module cdnUrl) state

section Pieces

variable {conduct : Conduct} (admits : AdmitsImports conduct) {starts : State → Prop}
  {module : String}

include admits

theorem noted_keeps {ε : Type} {fails : ε → State → Prop} (level : LogLevel) (text : String)
    (mild : level ≠ .error) :
    conduct.Keeps starts (Code.note level .host text) (fun _ _ => True) fails :=
  .change (fun _ => admits.note ⟨level, .host, text⟩ (by simp [LogEntry.report?, mild]))
    fun _ _ _ => trivial

/-- A request that does not concern the network. -/
theorem free_keeps {ε : Type} {fails : ε → State → Prop} (request : Request)
    (free : requestedModule? request = none) :
    conduct.Keeps starts (Code.request request : Code ε request.Reply)
      (fun reply _ => conduct.answers request reply) fails :=
  .request (fun _ holds _ => ⟨admits.request request holds, admits.free free⟩)
    fun _ _ answers _ => answers

section Consent

variable {hasDialog : Bool}

theorem takeTurn_keeps {fails : ResolveError → State → Prop} :
    conduct.Keeps starts takeTurn (fun _ _ => True) fails := by
  intro height state holds level _
  unfold takeTurn
  cases state.isChecking with
  | true =>
    refine ⟨⟨conduct.acts_refl state, holds⟩, admits.free rfl, fun _ next _ holds others => ?_⟩
    have step := admits.turn true holds
    exact ⟨⟨step.acts, step.holds⟩, trivial,
      step.level height (conduct.level_others others level)⟩
  | false =>
    have step := admits.turn true holds
    exact ⟨⟨step.acts, step.holds⟩, trivial, step.level height level⟩

omit admits in
theorem readStanding_keeps {fails : ResolveError → State → Prop} :
    conduct.Keeps starts readStanding (fun standing state => state.settings.standing = standing)
      fails :=
  .reading fun _ _ _ => rfl

theorem deny_keeps {ends : String → State → Prop} :
    conduct.Keeps starts (deny module) ends (Backs conduct) :=
  .seq (noted_keeps admits .warn _ nofun) fun _ => .fail fun _ _ _ => trivial

variable {resolver : Resolver} (served : conduct.source (.resolver resolver))
  (external : IsExternal resolver module)

include served external

/-- The user is asked while the decision is open. -/
theorem askUser_keeps (cdnUrl : String) :
    conduct.Keeps (fun state => state.settings.standing = .undecided cdnUrl)
      (askUser hasDialog module cdnUrl) (fun _ _ => True) (Backs conduct) := by
  unfold askUser
  split
  · exact .fail fun _ _ _ => trivial
  · refine .seq (.request (fun state holds undecided =>
      ⟨admits.request _ holds, admits.ask served external undecided⟩) fun _ _ _ _ => trivial)
      fun decision => ?_
    split
    · exact .fail fun _ _ _ => trivial
    · refine .bind (free_keeps admits _ rfl) fun written => ?_
      split
      · exact .fail fun _ _ _ => trivial
      · exact noted_keeps admits .info _ nofun

/-- A check that comes to an address found the settings to allow it. -/
theorem decideFetch_keeps :
    conduct.Keeps starts (decideFetch hasDialog module)
      (fun cdnUrl state => state.settings.standing = .allowed cdnUrl) (Backs conduct) := by
  refine .bind readStanding_keeps fun standing => ?_
  cases standing with
  | allowed cdnUrl => exact .pure fun _ _ allowed => allowed
  | denied => exact deny_keeps admits
  | undecided cdnUrl =>
    refine .bind (askUser_keeps admits served external cdnUrl) fun _ =>
      .bind readStanding_keeps fun standing => ?_
    cases standing with
    | allowed cdnUrl => exact .pure fun _ _ allowed => allowed
    | denied => exact deny_keeps admits
    | undecided cdnUrl => exact .fail fun _ _ _ => trivial

theorem checkConsent_keeps :
    conduct.Keeps starts (checkConsent hasDialog module)
      (fun cdnUrl state => state.settings.standing = .allowed cdnUrl) (Backs conduct) := by
  refine .bind (takeTurn_keeps admits) fun _ => .afterwards
    (decideFetch_keeps admits served external) (fun state holds => admits.turn false holds)
    (fun _ _ _ allowed => allowed) fun _ _ holds backs => backs.acts (admits.turn false holds).acts

/-- A module is fetched while the settings allow it: nothing comes between the check and the
fetch. -/
theorem loadRemote_keeps :
    conduct.Keeps starts (loadRemote resolver module) (fun _ _ => True) (Backs conduct) := by
  unfold loadRemote
  split
  · exact .fail fun _ _ _ => trivial
  · refine .bind (checkConsent_keeps admits served external) fun cdnUrl => ?_
    have noted (text : String) : conduct.Keeps
        (fun state => state.settings.standing = .allowed cdnUrl) (Code.note .debug .host text)
        (fun _ state => state.settings.standing = .allowed cdnUrl) (Backs conduct) :=
      .change (fun _ => admits.note ⟨.debug, .host, text⟩ rfl) fun _ _ allowed => allowed
    refine .bind (noted _) fun _ => .seq (.request (fun state holds allowed =>
      ⟨admits.request _ holds, admits.fetch served external allowed⟩) fun _ _ _ _ => trivial)
      fun fetched => ?_
    split
    · exact .fail fun _ _ _ => trivial
    · exact .updateHeap (fun _ obeys => obeys.ofHost _) fun heap => heap.altersObjects_ofHost _

end Consent

/-- The entries of a transpilation tell of no failure. -/
theorem noteAll_keeps {ε : Type} {fails : ε → State → Prop} (transpilation : Transpilation) :
    conduct.Keeps starts (noteAll transpilation.log) (fun _ _ => True) fails := by
  have silent : ∀ entry ∈ transpilation.log, entry.report? = none := by
    intro entry member
    simp only [Transpilation.log, List.mem_append, List.mem_map] at member
    rcases member with ⟨diagnostic, _, rfl⟩ | summary
    · simp [LogEntry.report?]
    · split at summary
      · simp only [List.mem_singleton] at summary
        simp [summary, LogEntry.report?]
      · simp at summary
  revert silent
  generalize transpilation.log = entries
  intro silent
  unfold noteAll
  induction entries generalizing starts with
  | nil => exact .pure fun _ _ _ => trivial
  | cons entry rest ih =>
    refine .seq (.change (fun _ => admits.note entry (silent entry List.mem_cons_self))
      fun _ _ _ => trivial) fun _ => ih fun other member => silent other ?_
    exact List.mem_cons_of_mem entry member

omit admits in
/-- The scripts of a module run in a scope inside that of the global names. -/
theorem executeStatements_eq (self : Interpreter) (realm : RealmRef) (source : ModuleSource)
    (statements : List Syntax.Statement) :
    executeStatements self realm source statements =
      (Code.updateHeap (fun heap => heap.newScope {} [(heap.realm realm).globals]) >>=
        fun environment => do
          let require ← Code.create (.function "require" (.require source) {})
          Code.changeHeap fun heap => heap.bindName environment "require" require false
          match ← Evaluation.runStatements self ⟨realm, environment, .undefined⟩ statements with
          | .returned value => return value
          | _ => return .undefined) := rfl

section Scripts

variable {self : Interpreter} {scopes : List ScopeRef} (sound : self.Sound conduct)

include sound

section Executing

variable {source : ModuleSource} (allowed : conduct.source source)

include allowed

omit admits in
/-- The scripts of a module keep to the conduct: a failure of an import that they do not catch may
be raised. -/
theorem executeStatements_sound (realm : RealmRef) (statements : List Syntax.Statement) :
    conduct.Sound scopes (executeStatements self realm source statements) := by
  -- Something is known of the scope of the global names once there is a scope inside it.
  rw [executeStatements_eq]
  refine Conduct.Sound.bindScope ?_ fun environment own => ?_
  · intro state holds _ opened _
    exact List.forall_mem_singleton.mpr (conduct.knows_globals realm _ _ holds)
  refine Conduct.Sound.bind (.create fun suits => suits.require source allowed) fun require =>
    Conduct.Sound.bind (.changeScopes fun _ => Heap.altersScopes_bindName _ _ _ _ own) fun _ =>
      ((Evaluation.runStatements_sound ⟨realm, environment, .undefined⟩ own sound
        statements).weaken (List.subset_append_left _ _)).bind fun completion => ?_
  split <;> exact .pure _

omit admits in
theorem execute_keeps (realm : RealmRef) (body : String) :
    conduct.Keeps starts (execute self realm source body) (fun _ _ => True)
      fun error state => ∀ failure, error = .failed (.importFailed failure) →
        conduct.raises failure state := by
  unfold execute
  split
  · exact .fail fun _ _ _ => nofun
  · rename_i statements _
    have unseen (state : State) : conduct.Knows [] state := nofun
    have scripts : conduct.Keeps starts (executeStatements self realm source statements)
        (fun _ _ => True) conduct.Raises :=
      (executeStatements_sound sound allowed realm statements).given fun state _ => unseen state
    refine scripts.mapError fun error state _ raises => ?_
    rintro failure ⟨⟩
    exact raises

theorem executeAfresh_keeps (body : String) :
    conduct.Keeps starts (executeAfresh self source body) (fun _ _ => True)
      fun error state => ∀ failure, error = .failed (.importFailed failure) →
        conduct.raises failure state :=
  .seq (.updating fun _ holds => admits.realm holds) fun realm =>
    execute_keeps sound allowed realm body

end Executing

variable {resolver : Resolver} (served : conduct.source (.resolver resolver))

include served

theorem runLocalModule_keeps (path source : String) (loads : resolver.MayLoad path)
    (answered : conduct.answers (.document path) (.ok (.text source))) :
    conduct.Keeps starts (runLocalModule self resolver path source) (fun _ _ => True)
      (Backs conduct) := by
  refine .seq (noteAll_keeps admits _) fun _ => ?_
  split
  · exact .fail fun _ _ _ => trivial
  · refine .bind (.attempt (executeAfresh_keeps admits sound
      (admits.nested served loads answered) _)) fun outcome => ?_
    cases outcome with
    | ok value => exact .pure fun _ _ _ => trivial
    | error error =>
      refine .tryHeap (fun _ _ _ _ => nofun) fun state failure _ execution failed => ?_
      cases failed
      -- The failure of an import is wrapped, and may be raised itself.
      cases error with
      | malformed source problem => trivial
      | failed error =>
        cases error with
        | importFailed failure => exact execution failure rfl
        | _ => trivial

theorem loadLocal_keeps (module : String) :
    conduct.Keeps starts (loadLocal self resolver module) (fun _ _ => True) (Backs conduct) := by
  unfold loadLocal
  refine .ite (.fail fun _ _ _ => trivial) ?_
  split
  · exact .fail fun _ _ _ => trivial
  · rename_i basePath known
    dsimp only
    split
    · exact .fail fun _ _ _ => trivial
    · rename_i fresh
      have loads : resolver.MayLoad (Path.resolveRelative basePath module) :=
        ⟨⟨basePath, module, known, rfl⟩,
          by simpa [Resolver.trail, known, not_or, and_comm] using fresh⟩
      refine .seq (noted_keeps admits .debug _ nofun) fun _ => .bind (free_keeps admits _ rfl)
        fun content => .assuming fun answered => ?_
      split
      · exact .fail fun _ _ _ => trivial
      · refine .ite ?_ ?_
        · exact runLocalModule_keeps admits sound served _ _ loads answered
        · exact .pure fun _ _ _ => trivial
      · exact .updateHeap (fun _ obeys => obeys.ofJson _) fun heap => heap.altersObjects_ofJson _

omit admits sound served in
theorem viewThrough_keeps (tokens : TokenRegistry) (module : String) (value : Value) :
    conduct.Keeps starts (viewThrough tokens module value) (fun _ _ => True) (Backs conduct) :=
  .updateHeap fun _ obeys => obeys.allocateValue
    (show (Object.view ⟨module, value, tokens⟩).Obeys _ from trivial)

omit sound served in
theorem knownModule_keeps (module : String) :
    conduct.Keeps starts (knownModule resolver module)
      (fun value? _ => value? = none → resolver.known.get? module = none) (Backs conduct) := by
  unfold knownModule
  split
  · rename_i unknown
    exact .pure fun _ _ _ _ => unknown
  · exact .seq (noted_keeps admits .debug _ nofun) fun _ =>
      .seq (viewThrough_keeps _ _ _) fun _ => .pure fun _ _ _ => nofun

/-- A module is loaded from the network only if nothing else provides it. -/
theorem externalModule_keeps (module : String) :
    conduct.Keeps (fun _ => resolver.known.get? module = none)
      (externalModule self resolver module) (fun _ _ => True) (Backs conduct) := by
  have shown (value : Value) : conduct.Keeps (fun _ => True)
      (if resolver.tokens.hasModule module then viewThrough resolver.tokens module value
        else pure value) (fun _ _ => True) (Backs conduct) :=
    .ite (viewThrough_keeps _ _ _) (.pure fun _ _ _ => trivial)
  refine .assuming fun unknown => ?_
  unfold externalModule
  cases foreign : Path.isRelative module with
  | true => exact (loadLocal_keeps admits sound served module).seq shown
  | false =>
    cases tokenless : resolver.tokens.hasModule module with
    | true =>
      simp only [tokenless, Bool.false_eq_true, if_false, if_true] at shown ⊢
      exact .seq (noted_keeps admits .debug _ nofun) fun _ => .seq
        (.updateHeap fun _ obeys => obeys.allocateValue
          (show (Object.ordinary {}).Obeys _ from trivial)) shown
    | false =>
      simp only [tokenless, Bool.false_eq_true, if_false] at shown ⊢
      exact (loadRemote_keeps admits served ⟨foreign, unknown, tokenless⟩).seq shown

theorem resolveModule_keeps (module : String) :
    conduct.Keeps starts (resolveModule self resolver module) (fun _ _ => True)
      (Backs conduct) := by
  refine .bind (knownModule_keeps admits module) fun value? => ?_
  cases value? with
  | some value => exact .pure fun _ _ _ => trivial
  | none =>
    exact (externalModule_keeps admits sound served module).given fun _ unknown => unknown rfl

theorem resolveFromModule_keeps (statement : Import) :
    conduct.Keeps starts (resolveFromModule self resolver statement) (fun _ _ => True)
      (Backs conduct) := by
  refine .bind (knownModule_keeps admits statement.module) fun value? => ?_
  cases value? with
  | some value =>
    refine .tryHeap (fun _ _ _ _ _ => trivial) fun state error _ _ failed => ?_
    -- A module that the host knows lacks an attribute, which wraps no other failure.
    unfold knownAttribute at failed
    split at failed
    · cases failed
    · split at failed
      · cases failed
      · split at failed
        · cases failed
        · cases failed
          trivial
  | none =>
    exact ((externalModule_keeps admits sound served statement.module).given
      fun _ unknown => unknown rfl).seq fun _ => .reading fun _ _ _ => trivial

theorem resolveStatement_keeps (statement : Import) :
    conduct.Keeps starts (resolveStatement self resolver statement) (fun _ _ => True)
      (Backs conduct) := by
  unfold resolveStatement
  split
  · exact .seq (noted_keeps admits .debug _ nofun) fun _ => .pure fun _ _ _ => trivial
  · exact resolveFromModule_keeps admits sound served statement

omit sound in
/-- A request that ends is recorded with its failure. -/
theorem reporting_keeps (request : ImportRequest) {action : Code ResolveError Value}
    (keeps : conduct.Keeps starts action (fun _ _ => True) (Backs conduct)) :
    conduct.Keeps starts (reporting resolver request action)
      (fun _ state => ⟨request, none⟩ ∈ state.resolutions)
      (fun error state => ⟨request, some error⟩ ∈ state.resolutions) := by
  intro height state holds level start
  rw [reporting_apply]
  refine (keeps height state holds level start).andThen (fun value state holds now => ?_)
    (fun error state holds now => ?_)
  · have step := admits.conclude ⟨request, none⟩ served holds nofun
    exact ⟨⟨step.acts, step.holds⟩, by simp [failureOf, conclude_resolutions],
      step.level height now.2⟩
  · have step := admits.conclude ⟨request, some error⟩ served holds (by rintro _ ⟨⟩; exact now.1)
    exact ⟨⟨step.acts, step.holds⟩, by simp [failureOf, conclude_resolutions],
      step.level height now.2⟩

theorem resolve_keeps (module : String) :
    conduct.Keeps starts (resolve self resolver module)
      (fun _ state => ⟨.module module, none⟩ ∈ state.resolutions)
      (fun error state => ⟨.module module, some error⟩ ∈ state.resolutions) :=
  reporting_keeps admits served _ (resolveModule_keeps admits sound served module)

theorem resolveImport_keeps (statement : Import) :
    conduct.Keeps starts (resolveImport self resolver statement)
      (fun _ state => statement.isTypeOnly = false →
        ⟨.statement statement, none⟩ ∈ state.resolutions)
      (fun error state => ⟨.statement statement, some error⟩ ∈ state.resolutions) := by
  unfold resolveImport
  split
  · rename_i isTypeOnly
    exact .pure fun _ _ _ kept => by simp [isTypeOnly] at kept
  · exact (reporting_keeps admits served _ (resolveStatement_keeps admits sound served
      statement)).mono (fun _ _ start => start) (fun _ _ _ ended _ => ended)
        fun _ _ _ failed => failed

theorem load_keeps (source : String) :
    conduct.Keeps starts (load self resolver source) (fun _ _ => True)
      fun error state => ∀ failure, error = .failed (.failed (.importFailed failure)) →
        conduct.raises failure state := by
  refine .seq (noteAll_keeps admits _) fun _ => ?_
  split
  · exact .fail fun _ _ _ => nofun
  · refine .seq
      (.mapError (executeAfresh_keeps admits sound served _) fun error state _ raises => ?_)
      fun exports => .seq (.reading fun _ _ _ => trivial) fun defaultExport =>
        .seq (.reading fun _ _ _ => trivial) fun plugins =>
          .seq (noted_keeps admits .info _ nofun) fun _ => .pure fun _ _ _ => trivial
    rintro failure ⟨⟩
    exact raises failure rfl

omit served in
/-- A script that loads a module fails with a failure that may be raised. -/
theorem callRequire_sound (source : ModuleSource) (allowed : conduct.source source)
    (arguments : List Value) :
    conduct.Sound scopes (Evaluation.callRequire self source arguments) := by
  unfold Evaluation.callRequire
  split
  · refine .mapError ?_ fun _ _ _ raises => raises
    cases source with
    | resolver resolver =>
      exact (resolve_keeps admits sound allowed _).mono (fun _ _ start => start)
        (fun _ _ _ _ => trivial) fun error state _ failed => admits.raise ⟨_, failed, rfl⟩
    | table modules =>
      unfold Evaluation.loadModule
      dsimp only
      split
      · exact .updateHeap (fun _ obeys => obeys.ofHost _) fun heap => heap.altersObjects_ofHost _
      · exact .fail fun state _ _ => admits.table allowed _ state
      · exact .pure fun _ _ _ => trivial
  · exact .tryHeap fun _ => .error trivial

end Scripts

/-- Scripts keep to the conduct within every bound. -/
theorem scripts_sound (bound : Nat) : (Interpreter.within bound).Sound conduct :=
  Interpreter.within_sound
    (fun _ sound _ source allowed arguments =>
      callRequire_sound admits sound source allowed arguments)
    bound

end Pieces

end PluginSandbox.Plugin
