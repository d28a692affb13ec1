import PluginSandbox.Proofs.Resolution.Descent
import PluginSandbox.Proofs.Resolution.Paths

/-!
# How the main document is spelled

The paths of nested documents are in normal form, but the path of the main document stays as the
host gave it, and paths are compared as texts. So an import of the main document is refused exactly
if the host spells its path in normal form. With another spelling, a document that imports itself
is loaded once more, as a local module.
-/
namespace PluginSandbox.Path

/-- In its own directory, a document has the normal form of its path. -/
theorem joinChars_dirname_fileName (path : List Char) :
    joinChars (dirnameChars path) ('.' :: '/' :: fileName path) = normalizeChars path := by
  have relative : isAbsolute ('.' :: '/' :: fileName path) = false := rfl
  have pieces : segments ('.' :: '/' :: fileName path) = [['.'], fileName path] := by
    have behind := segments_append ['.'] (fileName path)
    rw [segments_of_slashless (slashless_fileName path)] at behind
    exact behind
  rw [← normalizeChars_joinChars]
  refine normalizeChars_congr ?_ ?_
  · rw [isAbsolute_joinChars, relative, Bool.or_false, isAbsolute_dirnameChars]
  · rw [stackOf_joinChars_relative relative, pieces, isAbsolute_dirnameChars, stackOf, stackOf,
      isAbsolute_dirnameChars, foldl_dirnameChars path]
    rfl

/-- The module by which a document imports itself. -/
def selfModule (path : String) : String := "./" ++ String.ofList (fileName path.toList)

/-- A document that imports itself asks for the normal form of its path. -/
theorem resolveRelative_selfModule (path : String) :
    resolveRelative path (selfModule path) = normalize path := by
  have characters : (selfModule path).toList = '.' :: '/' :: fileName path.toList := by
    simp [selfModule]
  rw [resolveRelative, join, dirname, characters, String.toList_ofList,
    joinChars_dirname_fileName, normalize]

theorem isRelative_selfModule (path : String) : isRelative (selfModule path) = true := by
  have starts : "./".isPrefixOf (selfModule path) = true :=
    String.startsWith_string_iff.mpr (by simp [selfModule])
  rw [isRelative, starts, Bool.true_or]

end PluginSandbox.Path

namespace PluginSandbox.Plugin

open Host Interleaving Script

variable {root resolver : Resolver}

/-- The end of a chain belongs to the family of its root. -/
theorem Reached.kin {documents : Set String} {level : Nat}
    (reached : Reached root documents level resolver) : root.IsKin resolver := by
  induction reached with
  | root => exact .refl root
  | nested _ _ _ kin => exact kin.forBasePath _

/-- A resolver whose host knows no paths knows none itself. -/
theorem Resolver.IsKin.unknown (kin : root.IsKin resolver) {module : String}
    (unknown : root.known.get? module = none) : resolver.known.get? module = none := by
  rw [← kin] at unknown
  exact unknown

/-- A document that is not being loaded is requested. -/
theorem resolve_waits (self : Interpreter) {basePath module : String} (before : State)
    (reads : resolver.hasDocuments = true) (based : resolver.basePath = some basePath)
    (unknown : resolver.known.get? module = none) (relative : Path.isRelative module = true)
    (fresh : Path.resolveRelative basePath module ∉ resolver.trail) :
    ∃ asking resume, resolve self resolver module before =
      .waiting (.document (Path.resolveRelative basePath module)) asking resume := by
  have distinct : ¬(Path.resolveRelative basePath module = basePath ∨
      Path.resolveRelative basePath module ∈ resolver.ancestors) := by
    simpa [Resolver.trail, based, or_comm] using fresh
  obtain ⟨asking, resume, waits⟩ : ∃ asking resume, loadLocal self resolver module before =
      .waiting (.document (Path.resolveRelative basePath module)) asking resume := by
    unfold loadLocal
    rw [reads, based]
    simp only [Bool.not_true, Bool.false_eq_true, if_false]
    rw [if_neg distinct]
    exact ⟨_, _, rfl⟩
  have external : resolveModule self resolver module before =
      (loadLocal self resolver module >>= fun value =>
        if resolver.tokens.hasModule module then viewThrough resolver.tokens module value
        else pure value) before := by
    unfold resolveModule knownModule externalModule
    rw [unknown, relative]
    rfl
  unfold resolve
  rw [reporting_apply, external, Code.bind_apply, waits]
  exact ⟨_, _, rfl⟩

/-- An import of the main document is refused at every depth exactly if the host spells its path in
normal form. Otherwise the main document may import itself, and is requested for that. -/
theorem own_path_refused_iff (bound : Nat) (root : Resolver) (path : String)
    (fresh : root.ancestors = []) (based : root.basePath = some path)
    (reads : root.hasDocuments = true)
    (silent : ∀ module, Path.isRelative module = true → root.known.get? module = none) :
    ((∀ documents level resolver basePath module before,
        Reached root documents level resolver → resolver.basePath = some basePath →
        Path.isRelative module = true →
        Path.resolveRelative basePath module = Path.normalize path →
        FailsAtOnce (Interpreter.within bound) resolver module
          (.circularImport (Path.normalize path)) before) ↔
      Path.normalize path = path) ∧
    (Path.normalize path ≠ path → ∀ before, ∃ asking resume,
      resolve (Interpreter.within bound) root (Path.selfModule path) before =
        .waiting (.document (Path.normalize path)) asking resume) := by
  have trail : root.trail = [path] := by
    rw [Resolver.trail, fresh, based]
    rfl
  have requested (other : Path.normalize path ≠ path) (before : State) : ∃ asking resume,
      resolve (Interpreter.within bound) root (Path.selfModule path) before =
        .waiting (.document (Path.normalize path)) asking resume := by
    have relative := Path.isRelative_selfModule path
    have waits := resolve_waits (Interpreter.within bound) before reads based
      (silent _ relative) relative
    rw [Path.resolveRelative_selfModule, trail] at waits
    exact waits (by simpa using other)
  refine ⟨⟨fun refused => ?_, fun normal => ?_⟩, requested⟩
  · by_contra other
    obtain ⟨asking, resume, waits⟩ := requested other {}
    obtain ⟨after, ends⟩ := (refused ∅ 0 root path (Path.selfModule path) {} .root based
      (Path.isRelative_selfModule path) (Path.resolveRelative_selfModule path)).whole
    cases waits.symm.trans ends.ended
  · intro documents level resolver basePath module before reached importing relative same
    have kin := reached.kin
    obtain ⟨loaded, _, _, goesOn⟩ := reached.trail
    have closes : ClosesCircle resolver basePath module :=
      { documents := by rw [← kin] at reads; exact reads
        based := importing
        unknown := kin.unknown (silent module relative)
        relative
        loading := by rw [same, normal, goesOn, trail]; exact List.mem_cons_self }
    rw [← same]
    exact failsAtOnce_circular _ closes before

/-- With its path in normal form, a document may not import itself. -/
theorem own_path_refused_normal :
    FailsAtOnce (Interpreter.within 9) circleHost "./main.js"
      (.circularImport (Path.normalize "main.js")) {} :=
  (own_path_refused_iff 9 circleHost "main.js" rfl rfl rfl fun _ _ => rfl).1.mpr (by decide +kernel)
    ∅ 0 circleHost "main.js" "./main.js" {} .root rfl (by decide +kernel) (by decide +kernel)

/-- A host that gives the path of the main document in another spelling. -/
def respelledHost : Resolver := { hasDocuments := true, basePath := some "./main.js" }

/-- The main document imports itself. -/
def respelledImport : List (Move (DirectCall respelledHost)) :=
  [.call ⟨.resolve ⟨respelledHost, rfl⟩ "./main.js", rfl⟩, .start 0,
    .resume 0 (.document (.ok (.text "export const x = 1;")))]

/-- The main document is requested and run as a local module of itself. -/
theorem own_path_respelled :
    Path.resolveRelative "./main.js" "./main.js" = Path.normalize "./main.js" ∧
    ((World.idle { heap := {}, settings := {}, random := 1 }).run? (DirectCall.code 9)
      respelledImport).map (fun world => world.state.resolutions) =
        some [⟨.module "./main.js", none⟩] := by
  decide +kernel

end PluginSandbox.Plugin
