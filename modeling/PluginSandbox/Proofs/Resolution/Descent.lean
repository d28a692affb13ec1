import Mathlib.Data.Set.Card
import PluginSandbox.Proofs.Resolution.Calls
import PluginSandbox.Proofs.Resolution.Strategies

/-!
# Chains of local modules

A local module imports through a resolver of its own, which remembers the documents that are being
loaded. None of them is loaded again, so a chain of local modules never meets a document twice, and
a host with finitely many documents bounds its length. An import that would close a circle ends at
once.
-/
namespace PluginSandbox.Plugin

open Host Interleaving Script

/-- The resolvers that chains of local modules lead to, with the level that they are on. A module
is loaded if it names one of the documents, none of which is being loaded already. -/
inductive Reached (root : Resolver) (documents : Set String) : Nat → Resolver → Prop where
  /-- The chain begins. -/
  | root : Reached root documents 0 root
  /-- The chain goes on with a document. -/
  | nested {level resolver path} : Reached root documents level resolver →
    resolver.MayLoad path → path ∈ documents →
    Reached root documents (level + 1) (resolver.forBasePath path)

/-- Whether modules from a source are resolved by the end of a chain. -/
def IsReached (root : Resolver) (documents : Set String) : ModuleSource → Prop
  | .resolver resolver => ∃ level, Reached root documents level resolver
  | .table _ => False

section Chains

variable {root resolver : Resolver} {documents : Set String} {level : Nat}

/-- A nested document comes last on the trail. -/
theorem trail_forBasePath (resolver : Resolver) (path : String) :
    (resolver.forBasePath path).trail = resolver.trail ++ [path] := rfl

/-- The trail goes on with a document for every level. -/
theorem Reached.trail (reached : Reached root documents level resolver) :
    ∃ loaded : List String, loaded.length = level ∧ (∀ path ∈ loaded, path ∈ documents) ∧
      resolver.trail = root.trail ++ loaded := by
  induction reached with
  | root => exact ⟨[], rfl, nofun, (List.append_nil _).symm⟩
  | @nested level resolver path _ _ present ih =>
    obtain ⟨loaded, length, among, trail⟩ := ih
    refine ⟨loaded ++ [path], by simp [length], ?_, by simp [trail_forBasePath, trail]⟩
    intro other member
    rcases List.mem_append.mp member with earlier | last
    · exact among other earlier
    · exact List.mem_singleton.mp last ▸ present

/-- No document is on a trail twice. -/
theorem Reached.nodup (fresh : root.trail.Nodup)
    (reached : Reached root documents level resolver) : resolver.trail.Nodup := by
  induction reached with
  | root => exact fresh
  | @nested level resolver path _ loads _ ih =>
    rw [trail_forBasePath]
    refine List.nodup_append.mpr ⟨ih, List.nodup_singleton path, fun other member last new => ?_⟩
    rintro rfl
    exact loads.fresh (List.mem_singleton.mp new ▸ member)

/-- A chain has no more levels than there are documents. -/
theorem Reached.level_le (fresh : root.trail.Nodup) (finite : documents.Finite)
    (reached : Reached root documents level resolver) : level ≤ documents.ncard := by
  obtain ⟨loaded, rfl, among, trail⟩ := reached.trail
  have distinct : loaded.Nodup := (List.nodup_append.mp (trail ▸ reached.nodup fresh)).2.1
  calc
    loaded.length = loaded.toFinset.card := (List.toFinset_card_of_nodup distinct).symm
    _ = (loaded.toFinset : Set String).ncard := (Set.ncard_coe_finset _).symm
    _ ≤ documents.ncard := Set.ncard_le_ncard (fun path member =>
        among path (List.mem_toFinset.mp member)) finite

end Chains

section Circles

/-- Whether a module fails at once, before anything is requested: the whole of it, and every import
from it that no token satisfies. -/
structure FailsAtOnce (interpreter : Interpreter) (resolver : Resolver) (module : String)
    (error : ResolveError) (before : State) : Prop where
  /-- The whole module fails. -/
  whole : ∃ after,
    EndsAtOnce (resolve interpreter resolver module before) before (.error error) after
  /-- What is imported from it fails. -/
  bound : ∀ statement : Import, statement.module = module → statement.isTypeOnly = false →
    LacksToken resolver statement →
    ∃ after, EndsAtOnce (resolveImport interpreter resolver statement before) before
      (.error error) after

variable {resolver : Resolver} {basePath module : String}

/-- Whether a module names a document that is being loaded. -/
structure ClosesCircle (resolver : Resolver) (basePath module : String) : Prop where
  /-- Documents are read. -/
  documents : resolver.hasDocuments = true
  /-- There is an importing document. -/
  based : resolver.basePath = some basePath
  /-- The host does not know the module. -/
  unknown : resolver.known.get? module = none
  /-- It is a path. -/
  relative : Path.isRelative module = true
  /-- The document is being loaded. -/
  loading : Path.resolveRelative basePath module ∈ resolver.trail

variable (self : Interpreter) (closes : ClosesCircle resolver basePath module)

include closes

/-- A document that is being loaded is not requested. -/
theorem loadLocal_circular : loadLocal self resolver module =
    Code.fail (.circularImport (Path.resolveRelative basePath module)) := by
  have circular : Path.resolveRelative basePath module = basePath ∨
      Path.resolveRelative basePath module ∈ resolver.ancestors := by
    simpa [Resolver.trail, closes.based, or_comm] using closes.loading
  unfold loadLocal
  rw [closes.documents, closes.based]
  simp only [Bool.not_true, Bool.false_eq_true, if_false]
  rw [if_pos circular]

theorem externalModule_circular : externalModule self resolver module =
    Code.fail (.circularImport (Path.resolveRelative basePath module)) := by
  unfold externalModule
  rw [closes.relative]
  dsimp only
  rw [if_pos rfl, loadLocal_circular self closes]
  rfl

theorem resolveModule_circular : resolveModule self resolver module =
    Code.fail (.circularImport (Path.resolveRelative basePath module)) := by
  unfold resolveModule knownModule
  rw [closes.unknown]
  exact externalModule_circular self closes

theorem resolveStatement_circular {statement : Import} (same : statement.module = module)
    (lacks : LacksToken resolver statement) : resolveStatement self resolver statement =
    Code.fail (.circularImport (Path.resolveRelative basePath module)) := by
  subst same
  rw [resolveStatement_external lacks closes.unknown, externalModule_circular self closes]
  rfl

/-- An import that closes a circle fails before anything is requested. -/
theorem failsAtOnce_circular (before : State) : FailsAtOnce self resolver module
    (.circularImport (Path.resolveRelative basePath module)) before := by
  have failed : EndsAtOnce (Code.fail (.circularImport (Path.resolveRelative basePath module))
      before : Run ResolveError Value) before (.error _) before := ⟨rfl, rfl, rfl⟩
  constructor
  · unfold resolve
    rw [resolveModule_circular self closes]
    exact ⟨_, failed.reporting resolver _⟩
  · intro statement same values lacks
    unfold resolveImport
    rw [values, resolveStatement_circular self closes same lacks]
    exact ⟨_, failed.reporting resolver _⟩

end Circles

section Worlds

/-- Whether a reply is one of a host that has only some documents. -/
def Serves (documents : Set String) : (request : Request) → request.Reply → Prop
  | .document path, .ok _ => path ∈ documents
  | _, _ => True

variable (root : Resolver) (documents : Set String)

/-- The conduct of code that loads modules at the ends of chains. -/
def descending : Conduct where
  source := IsReached root documents
  holds state := state.heap.LoadsFrom (IsReached root documents)
  acts _ _ := True
  others _ _ := True
  answers := Serves documents
  asks _ _ := True
  raises _ _ := True
  acts_refl _ := trivial
  acts_trans _ _ := trivial
  raises_acts _ _ _ := trivial
  raises_others _ _ _ := trivial
  loads loads := loads
  step loads step := ⟨trivial, step.loads loads, fun _ now => now⟩
  begins realm loads _ := ⟨trivial, loads.changeRealm realm _, fun _ now => now⟩
  leaves realm _ loads _ := ⟨trivial, loads.changeRealm realm _, trivial⟩
  pauses _ := trivial

/-- A local module imports at the end of a longer chain. -/
theorem descending_admits : AdmitsImports (descending root documents) where
  note _ _ loads := ⟨trivial, loads, fun _ now => now⟩
  turn _ loads := ⟨trivial, loads, fun _ now => now⟩
  request _ loads := ⟨trivial, loads, fun _ now => now⟩
  realm loads := ⟨trivial, loads.createRealm, fun _ now => now⟩
  conclude {state resolver} resolution _ loads _ :=
    have still : (conclude resolver resolution state).heap.LoadsFrom (IsReached root documents) :=
      conclude_heap resolver resolution state ▸ loads
    ⟨trivial, still, fun _ now => now⟩
  raise _ := trivial
  table served := served.elim
  nested served loads present := by
    obtain ⟨level, reached⟩ := served
    exact ⟨level + 1, reached.nested loads present⟩
  free _ := trivial
  ask _ _ _ := trivial
  fetch _ _ _ := trivial

theorem descending_isShared : IsShared (descending root documents) where
  acts _ := trivial
  refl _ := trivial
  trans _ _ := trivial
  settle _ loads := ⟨loads, trivial⟩

/-- A call on the root of a family itself. -/
def DirectCall : Type := { call : Call root // call.resolver.1 = root }

variable {root}

/-- What a direct call runs. -/
def DirectCall.code (bound : Nat) (call : DirectCall root) :
    Code (ResolveError ⊕ LoadError) (Value ⊕ LoadedPlugin) :=
  call.1.code bound

theorem DirectCall.code_keeps (bound : Nat) (call : DirectCall root) :
    (descending root documents).Keeps (fun _ => True) (call.code bound) (fun _ _ => True)
      fun _ _ => True := by
  have admits := descending_admits root documents
  have sound := scripts_sound admits bound
  have kept {ε ε' α β : Type} {code : Code ε α} {ends : α → State → Prop}
      {fails : ε → State → Prop} (f : ε → ε') (g : α → β)
      (keeps : (descending root documents).Keeps (fun _ => True) code ends fails) :
      (descending root documents).Keeps (fun _ => True) (Code.mapError f (g <$> code))
        (fun _ _ => True) fun _ _ => True :=
    .mapError (.bind keeps fun _ => .pure fun _ _ _ => trivial) fun _ _ _ _ => trivial
  obtain ⟨call, direct⟩ := call
  have served : IsReached root documents (.resolver call.resolver.1) := by
    rw [direct]
    exact ⟨0, .root⟩
  cases call with
  | resolve resolver module => exact kept _ _ (resolve_keeps admits sound served module)
  | resolveImport resolver statement =>
    exact kept _ _ (resolveImport_keeps admits sound served statement)
  | load resolver source => exact kept _ _ (load_keeps admits sound served source)

/-- What direct calls come to is free. -/
def DirectCall.contract (bound : Nat) :
    Contract (descending root documents) (@DirectCall.code root bound) where
  ends _ _ _ := True
  fails _ _ _ := True
  keeps call := call.code_keeps documents bound
  ends_later _ _ _ now := now
  fails_later _ _ _ now := now

end Worlds

end PluginSandbox.Plugin

namespace PluginSandbox.Interleaving.World

open Plugin Script

variable {ε α γ : Type}

/-- The path of the document that a move hands to a task. -/
def handedOver? (world : World ε α) : Move γ → Option String
  | .resume task (.document (.ok _)) =>
    match world.tasks[task]? with
    | some (.suspended (.document path) _) => some path
    | _ => none
  | _ => none

/-- The paths of the documents that are handed to tasks in the course of some moves. -/
def handedOver (program : γ → Code ε α) (world : World ε α) : List (Move γ) → List String
  | [] => []
  | move :: moves =>
    (world.handedOver? move).toList ++
      match world.move? program move with
      | some next => next.handedOver program moves
      | none => []

/-- A move gives a document only if it hands it over. -/
theorem serves_of_gives {documents : Set String} {world : World ε α} {move : Move γ}
    (present : ∀ path, world.handedOver? move = some path → path ∈ documents)
    (request : Request) (reply : request.Reply) (gives : world.Gives move request reply) :
    Serves documents request reply := by
  obtain ⟨task, answer, resume, rfl, waits, fits⟩ := gives
  cases request with
  | document path =>
    cases answer with
    | document outcome =>
      cases fits
      cases reply with
      | error problem => trivial
      | ok content => exact present path (by simp [handedOver?, waits])
    | _ => cases fits
  | _ => trivial

/-- A host that hands over some documents serves no others. -/
theorem answered_of_handedOver {documents : Set String} {program : γ → Code ε α}
    {world : World ε α} {moves : List (Move γ)}
    (present : ∀ path ∈ world.handedOver program moves, path ∈ documents) :
    world.Answered program (Serves documents) moves := by
  induction moves generalizing world with
  | nil => trivial
  | cons move moves ih =>
    refine ⟨serves_of_gives fun path found => present path ?_,
      fun next moved => ih fun path later => present path ?_⟩
    · simp [handedOver, found]
    · simp [handedOver, moved, later]

end PluginSandbox.Interleaving.World

namespace PluginSandbox.Plugin

open Host Interleaving Script

/-- Local imports cannot recurse for ever. In every world that calls on a fresh resolver reach,
modules are loaded at the ends of chains of documents alone. No chain meets a document twice, so it
has no more levels than there are documents, and an import that would repeat one fails before
anything is requested. -/
theorem descent_bounded (root : Resolver) (fresh : root.ancestors = []) (documents : Set String)
    (bound : Nat) :
    (∀ (heap : Heap) (settings : Settings) (random : UInt64) (moves : List (Move (DirectCall root)))
        (world : World (ResolveError ⊕ LoadError) (Value ⊕ LoadedPlugin)),
      heap.LoadsFrom (IsReached root documents) →
      (World.idle { heap, settings, random }).run? (DirectCall.code bound) moves = some world →
      (∀ path ∈ (World.idle { heap, settings, random }).handedOver (DirectCall.code bound) moves,
        path ∈ documents) →
      world.state.heap.LoadsFrom (IsReached root documents)) ∧
    ∀ level resolver, Reached root documents level resolver →
      resolver.trail.Nodup ∧ resolver.trail.length = root.trail.length + level ∧
      (documents.Finite → level ≤ documents.ncard) ∧
      ∀ basePath module before, ClosesCircle resolver basePath module →
        FailsAtOnce (Interpreter.within bound) resolver module
          (.circularImport (Path.resolveRelative basePath module)) before := by
  have start : root.trail.Nodup := by
    rw [Resolver.trail, fresh]
    cases root.basePath <;> simp
  constructor
  · intro heap settings random moves world served run handed
    have idle :=
      abiding_idle (DirectCall.contract documents bound) { heap, settings, random } served
    exact (idle.run (descending_isShared root documents) moves run
      (World.answered_of_handedOver handed)).holds
  · intro level resolver reached
    obtain ⟨loaded, rfl, _, trail⟩ := reached.trail
    exact ⟨reached.nodup start, by simp [trail], reached.level_le start,
      fun basePath module before closes => failsAtOnce_circular _ closes before⟩

/-- A host that reads documents. -/
def circleHost : Resolver := { hasDocuments := true, basePath := some "main.js" }

/-- A local module is resolved that imports itself. -/
def selfImport : List (Move (DirectCall circleHost)) :=
  [.call ⟨.resolve ⟨circleHost, rfl⟩ "./a.js", rfl⟩, .start 0,
    .resume 0 (.document (.ok (.text "import './a.js';")))]

/-- A module that imports itself is requested once, and its import of itself fails. -/
theorem descent_bounded_circle :
    (∃ world, (World.idle { heap := {}, settings := {}, random := 1 }).run? (DirectCall.code 9)
        selfImport = some world ∧
      world.state.resolutions = [⟨.module "./a.js", some (.circularImport "a.js")⟩,
        ⟨.module "./a.js", some (.nested "a.js" (.circularImport "a.js"))⟩] ∧
      world.state.heap.LoadsFrom (IsReached circleHost {"a.js"})) ∧
    Reached circleHost {"a.js"} 1 (circleHost.forBasePath "a.js") ∧
    (circleHost.forBasePath "a.js").trail.Nodup ∧ 1 ≤ ({"a.js"} : Set String).ncard ∧
    FailsAtOnce (Interpreter.within 9) (circleHost.forBasePath "a.js") "./a.js"
      (.circularImport (Path.resolveRelative "a.js" "./a.js")) {} := by
  obtain ⟨worlds, chains⟩ := descent_bounded circleHost rfl {"a.js"} 9
  have loads : circleHost.MayLoad "a.js" :=
    ⟨⟨"main.js", "./a.js", rfl, by decide +kernel⟩, by decide +kernel⟩
  have reached : Reached circleHost {"a.js"} 1 (circleHost.forBasePath "a.js") :=
    .nested .root loads rfl
  obtain ⟨distinct, _, bounded, circles⟩ := chains 1 _ reached
  have closes : ClosesCircle (circleHost.forBasePath "a.js") "a.js" "./a.js" :=
    ⟨rfl, rfl, rfl, by decide +kernel, by decide +kernel⟩
  refine ⟨?_, reached, distinct, bounded (Set.finite_singleton _), circles _ _ _ closes⟩
  have computed : (((World.idle { heap := {}, settings := {}, random := 1 }).run?
      (DirectCall.code 9) selfImport).map fun world => world.state.resolutions) =
        some [⟨.module "./a.js", some (.circularImport "a.js")⟩,
          ⟨.module "./a.js", some (.nested "a.js" (.circularImport "a.js"))⟩] := by
    decide +kernel
  have handed : (World.idle { heap := {}, settings := {}, random := 1 }).handedOver
      (DirectCall.code 9) selfImport = ["a.js"] := by
    decide +kernel
  obtain ⟨world, run, resolutions⟩ := Option.map_eq_some_iff.mp computed
  refine ⟨world, run, resolutions, worlds {} {} 1 selfImport world Heap.loadsFrom_empty run ?_⟩
  intro path given
  rw [handed] at given
  exact List.mem_singleton.mp given

end PluginSandbox.Plugin
