import PluginSandbox.Proofs.Resolution.Calls

/-!
# Fetches and consent

Code is fetched from the network only with consent. A check that comes to an address has found the
settings to allow it, and nothing comes between the check and the fetch, so the settings allow it
still when the fetch is made. The check stands on every route to the network: documents, modules
of the host and tokens are tried before.
-/
namespace PluginSandbox

open Interleaving Plugin Script

/-- The module that a move which leads to a world fetches, and from where. A task that is run stops
at its next request, so it fetches a module exactly if it stops at a fetch. -/
def Interleaving.World.fetched? {ε α γ : Type} (after : World ε α) (move : Move γ) :
    Option (String × String) :=
  match move.polled.bind (after.tasks[·]?) with
  | some (.suspended (.fetch module cdnUrl) _) => some (module, cdnUrl)
  | _ => none

/-- A move that fetches is the poll of a task that stops at a fetch. -/
theorem Interleaving.World.fetched?_eq_some {ε α γ : Type} {after : World ε α} {move : Move γ}
    {module cdnUrl : String} (fetched : after.fetched? move = some (module, cdnUrl)) :
    ∃ task resume, move.polled = some task ∧
      after.tasks[task]? = some (.suspended (.fetch module cdnUrl) resume) := by
  unfold World.fetched? at fetched
  split at fetched
  · rename_i resume stopped
    cases fetched
    obtain ⟨task, polled, found⟩ := Option.bind_eq_some_iff.mp stopped
    exact ⟨task, resume, polled, found⟩
  · cases fetched

namespace Plugin

theorem standing_allowed {settings : Settings} {cdnUrl : String}
    (allowed : settings.standing = .allowed cdnUrl) :
    settings.policy = .alwaysInsecure ∧ settings.cdnUrl = cdnUrl := by
  unfold Settings.standing at allowed
  split at allowed
  · rename_i policy
    cases allowed
    exact ⟨policy, rfl⟩
  · cases allowed
  · cases allowed

/-- Nothing is fetched without consent. In any world that calls of a family reach, in any
interleaving and under any replies and changes of the settings, a module is fetched only while the
settings hold the consent, from the address that they hold, and only if it is no document, unknown
to the host and without tokens. While the decision is open or against it, nothing is fetched. -/
theorem fetch_consented (root : Resolver) (bound : Nat) (heap : Heap) (settings : Settings)
    (random : UInt64) (served : heap.LoadsFrom (IsServed root)) (moves : List (Move (Call root)))
    (world : World (ResolveError ⊕ LoadError) (Value ⊕ LoadedPlugin))
    (run : (World.idle { heap, settings, random }).run? (Call.code bound) moves = some world)
    (move : Move (Call root)) (next : World (ResolveError ⊕ LoadError) (Value ⊕ LoadedPlugin))
    (moved : world.move? (Call.code bound) move = some next) :
    (∀ module cdnUrl, next.fetched? move = some (module, cdnUrl) →
      next.state.settings.policy = .alwaysInsecure ∧ next.state.settings.cdnUrl = cdnUrl ∧
      Path.isRelative module = false ∧ root.known.contains module = false ∧
      root.tokens.hasModule module = false) ∧
    (world.state.settings.policy ≠ .alwaysInsecure → next.fetched? move = none) := by
  have abiding := Call.abiding root bound heap settings random served moves world run
  obtain ⟨_, _, polls⟩ := abiding.move (conduct_isShared root) move moved
  have consented (module cdnUrl : String)
      (fetched : next.fetched? move = some (module, cdnUrl)) :
      Acts world.state next.state ∧ Entitled root (.fetch module cdnUrl) next.state := by
    obtain ⟨task, resume, polled, stopped⟩ := World.fetched?_eq_some fetched
    obtain ⟨acts, asks⟩ := polls task polled
    exact ⟨acts, asks _ resume stopped⟩
  constructor
  · intro module cdnUrl fetched
    obtain ⟨_, allowed, external⟩ := consented module cdnUrl fetched
    obtain ⟨policy, address⟩ := standing_allowed allowed
    exact ⟨policy, address, external.foreign, by simp [KnownModules.contains, external.unknown],
      external.tokenless⟩
  · intro undecided
    rcases fetched : next.fetched? move with _ | ⟨module, cdnUrl⟩
    · rfl
    · obtain ⟨acts, allowed, _⟩ := consented module cdnUrl fetched
      exact absurd (acts.settings ▸ (standing_allowed allowed).1) undecided

/-- A host that fetches modules and asks the user. -/
def networkHost : Resolver := { hasRemote := true, hasDialog := true }

/-- A module is asked about, and the user allows it to be fetched. -/
def consentGiven : List (Move (Call networkHost)) :=
  [.call (.resolve ⟨networkHost, rfl⟩ "left"), .start 0, .resume 0 (.decided .allow), .land 0]

/-- The write of the consent is acknowledged. -/
def consentWritten : Move (Call networkHost) := .resume 0 (.written (.ok ()))

/-- Once the consent has been written, the module is fetched, and then the settings hold it. -/
theorem fetch_consented_asked :
    ∃ world, (World.idle { heap := {}, settings := {}, random := 1 }).run? (Call.code 1)
        consentGiven = some world ∧
      ∃ next, world.move? (Call.code 1) consentWritten = some next ∧
        next.fetched? consentWritten = some ("left", defaultCdnUrl) ∧
        next.state.settings.policy = .alwaysInsecure := by
  have computed : (((World.idle { heap := {}, settings := {}, random := 1 }).run? (Call.code 1)
      consentGiven).bind fun world => (world.move? (Call.code 1) consentWritten).bind fun next =>
        next.fetched? consentWritten) = some ("left", defaultCdnUrl) := by
    decide +kernel
  obtain ⟨world, run, rest⟩ := Option.bind_eq_some_iff.mp computed
  obtain ⟨next, moved, fetched⟩ := Option.bind_eq_some_iff.mp rest
  refine ⟨world, run, next, moved, fetched, ?_⟩
  exact ((fetch_consented networkHost 1 {} {} 1 Heap.loadsFrom_empty consentGiven world run
    consentWritten next moved).1 "left" defaultCdnUrl fetched).1

end Plugin

end PluginSandbox
