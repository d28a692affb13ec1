import PluginSandbox.Proofs.Lowering.Introduced
import PluginSandbox.Proofs.Script.Writes

/-!
# Exports that are copied and exports that are listed

A module that gives out all exports of another one copies them in a loop, which leaves the default
export and every export of another name as it was. The exports of a list are assigned after all
other statements, so no loop replaces them.
-/
namespace PluginSandbox.Plugin

open Script Script.Evaluation Syntax

/-- Whether a context sees the exports of its module as an ordinary object with some properties. -/
structure Collects (context : Context) (ref : Ref) (properties : Properties) (state : State) :
    Prop where
  /-- The name of the exports is a constant of the scope. -/
  holds : Holds context.environment.innermost [(exportsName, .object ref)] state
  /-- It stands for an ordinary object. -/
  ordinary : state.heap.object? ref = some (.ordinary properties)

namespace Collects

variable {context : Context} {ref : Ref} {properties : Properties} {state : State}

theorem reads (collects : Collects context ref properties state) :
    state.heap.readName context.environment exportsName = .ok (.object ref) :=
  collects.holds.reads (List.mem_singleton.mpr rfl)

theorem writing (collects : Collects context ref properties state) (others : Properties) :
    Collects context ref others (Script.writing ref others state) where
  holds := collects.holds.of_scopes rfl
  ordinary := Heap.object?_replace (Option.isSome_of_mem collects.ordinary) _

end Collects

section Running

variable {context : Context} {ref : Ref} {properties : Properties} {state : State}

/-- An export writes the value of its expression to a property of the exports. -/
theorem exportStatement_runs (bound : Nat) (name : String) {expression : Expr} {value : Value}
    {middle : State}
    (evaluates : (Interpreter.within (bound + 1)).expression expression context state =
      .done value middle)
    (collects : Collects context ref properties middle) :
    (Interpreter.within (bound + 3)).statement (exportStatement name expression) context state =
      .done .normal (writing ref (properties.set name value) middle) := by
  have object := identifier_runs bound collects.reads
  unfold exportStatement exportPlace
  split
  · exact assignment_runs bound evaluates rfl (Code.bind_of_done object _) collects.ordinary
  · exact assignment_runs bound evaluates rfl (index_found object rfl) collects.ordinary

variable {others : State → State → Prop} {after : State}

/-- The exports of a list are assigned one after the other, each with the value of its name, and
keep the values when nothing is exported twice. -/
theorem exportLocals_run (bound : Nat) {specifiers : List ExportSpecifier}
    (distinct : (specifiers.map (·.exported)).Nodup)
    (collects : Collects context ref properties state)
    (comes : (runSequence (Interpreter.within (bound + 3)) context
      (specifiers.map Lowering.exportLocal) state).ComesTo others (.ok .normal) after) :
    ∃ final, Collects context ref final after ∧
      (∀ key ∉ specifiers.map (·.exported), final.get? key = properties.get? key) ∧
      ∀ specifier ∈ specifiers, ∃ value,
        state.heap.readName context.environment specifier.name = .ok value ∧
          final.get? specifier.exported = some value := by
  induction specifiers generalizing state properties with
  | nil =>
    obtain ⟨-, rfl⟩ := comes
    exact ⟨properties, collects, fun _ _ => rfl, nofun⟩
  | cons specifier rest ih =>
    obtain ⟨new, distinct⟩ := List.nodup_cons.mp distinct
    obtain ⟨middle, first, goesOn⟩ := runSequence_cons_normal.mp comes
    cases read : state.heap.readName context.environment specifier.name with
    | error error =>
      have fails : (Interpreter.within (bound + 3)).statement (Lowering.exportLocal specifier)
          context state = .failed error state :=
        Code.bind_of_failed (Code.bind_of_failed (identifier_fails bound read) _) _
      rw [fails] at first
      cases first.1
    | ok value =>
      have evaluates := identifier_runs bound read
      rw [Lowering.exportLocal, exportStatement_runs bound specifier.exported evaluates collects]
        at first
      obtain ⟨-, rfl⟩ := first
      obtain ⟨final, collected, kept, listed⟩ := ih distinct (collects.writing _) goesOn
      refine ⟨final, collected, fun key other => ?_, fun next member => ?_⟩
      · rw [List.map_cons, List.mem_cons, not_or] at other
        rw [kept key other.2, Properties.get?_set, if_neg other.1]
      · rcases List.mem_cons.mp member with rfl | later
        · refine ⟨value, read, ?_⟩
          rw [kept _ new, Properties.get?_set, if_pos rfl]
        · obtain ⟨value, reads, has⟩ := listed next later
          exact ⟨value, (readName_writing _ _ _).symm.trans reads, has⟩

/-- The name of the key in the loop that copies the exports of a module. -/
def keyName : String := "__key"

/-- The statement that copies the export of that key. -/
def copyProperty (module : String) : Statement :=
  .expression (.assign .assign (.index (.identifier exportsName) (.identifier keyName) false)
    (.index (.identifier module) (.identifier keyName) false))

/-- What that loop does with a key. -/
def copyStatement (module : String) : Statement :=
  .if (.binary .strictUnequal (.identifier keyName) (.literal (.text "default")))
    (copyProperty module) none

theorem exportAllFrom_eq (module : String) :
    exportAllFrom module =
      .forIn .const (.identifier keyName) (.identifier module) (copyStatement module) :=
  rfl

/-- A round of the loop leaves the default export and the exports of other names as they were. -/
theorem copyStatement_keeps (bound : Nat) {module key : String}
    {outcome : Except RuntimeError Completion}
    (reads : state.heap.readName context.environment keyName = .ok (.text key))
    (exports : state.heap.readName context.environment exportsName = .ok (.object ref))
    (ordinary : state.heap.object? ref = some (.ordinary properties))
    (comes : ((Interpreter.within (bound + 7)).statement (copyStatement module) context
      state).ComesTo others outcome after) :
    ∃ final, after.heap.object? ref = some (.ordinary final) ∧
      after.heap.scopes = state.heap.scopes ∧
      ∀ other, other = "default" ∨ other ≠ key → final.get? other = properties.get? other := by
  have test : (Interpreter.within (bound + 6)).expression
      (.binary .strictUnequal (.identifier keyName) (.literal (.text "default"))) context state =
        .done (.boolean (!(key == "default"))) state := by
    refine (Code.bind_of_done (identifier_runs (bound + 4) reads) _).trans ?_
    rfl
  have runs : (Interpreter.within (bound + 7)).statement (copyStatement module) context state = _ :=
    Code.bind_of_done test _
  rw [runs] at comes
  by_cases isDefault : key = "default"
  · rw [isDefault] at comes
    obtain ⟨-, rfl⟩ := comes
    exact ⟨properties, ordinary, rfl, fun _ _ => rfl⟩
  · rw [beq_false_of_ne isDefault] at comes
    change ((Interpreter.within (bound + 6)).statement (copyProperty module) context
      state).ComesTo others outcome after at comes
    obtain ⟨read, evaluates⟩ := index_runs bound module (identifier_runs (bound + 1) reads)
    cases read with
    | error error =>
      have fails : (Interpreter.within (bound + 6)).statement (copyProperty module) context state =
          .failed error state :=
        Code.bind_of_failed (Code.bind_of_failed evaluates _) _
      rw [fails] at comes
      obtain ⟨-, rfl⟩ := comes
      exact ⟨properties, ordinary, rfl, fun _ _ => rfl⟩
    | ok value =>
      have place := index_found (identifier_runs (bound + 3) exports)
        (identifier_runs (bound + 3) reads)
      rw [copyProperty, assignment_runs (bound + 3) evaluates rfl place ordinary] at comes
      obtain ⟨-, rfl⟩ := comes
      refine ⟨_, Heap.object?_replace (Option.isSome_of_mem ordinary) _, rfl, fun other apart => ?_⟩
      have different : other ≠ key := by
        rcases apart with rfl | different
        · exact Ne.symm isDefault
        · exact different
      rw [Properties.get?_set, if_neg different]

/-- The context of a round of the loop. -/
def roundContext (context : Context) (state : State) : Context :=
  context.within (state.heap.newChild context.environment).1

/-- The state in which a round of the loop begins: a new scope binds its key. -/
def roundState (context : Context) (key : String) (state : State) : State :=
  { state with
    heap := (state.heap.newChild context.environment).2.bindName
      (roundContext context state).environment keyName (.text key) false }

/-- The exports are collected on in the round. -/
theorem Collects.round (collects : Collects context ref properties state) (key : String) :
    Collects context ref properties (roundState context key state) := by
  have fresh : (⟨state.heap.scopes.size⟩ : ScopeRef) ≠ context.environment.innermost := by
    rintro same
    exact Nat.ne_of_gt collects.holds.present (congrArg ScopeRef.index same)
  have opened : state.heap.Spares (· ≠ context.environment.innermost)
      (state.heap.newChild context.environment).2 :=
    (Heap.altersScopes_newScope _ _).spares
  have named : (state.heap.newChild context.environment).2.AltersScopes
      (· ≠ context.environment.innermost) (roundState context key state).heap :=
    Heap.altersScopes_bindName _ _ _ _ fresh
  exact ⟨collects.holds.spared (opened.trans named.spares), collects.ordinary⟩

/-- The scope of a round binds its key, and nothing else. -/
theorem ownBinding?_roundState (key name : String) :
    (roundState context key state).heap.ownBinding? (roundContext context state).environment name =
      if name = keyName then some ⟨some (.text key), false⟩ else none := by
  have present : (roundContext context state).environment.innermost.index <
      (state.heap.newChild context.environment).2.scopes.size := by
    simp [roundContext, Context.within, Heap.newChild, Heap.newScope]
  have empty : (state.heap.newChild context.environment).2.ownBinding?
      (roundContext context state).environment name = none := by
    simp [Heap.ownBinding?, roundContext, Context.within, Heap.newChild, Heap.newScope, Heap.scope,
      Scope.get?]
  rw [← empty]
  exact Heap.ownBinding?_bindName present keyName name _ _

theorem reads_roundState (key : String) :
    (roundState context key state).heap.readName (roundContext context state).environment keyName =
      .ok (.text key) :=
  Heap.readName_of_ownBinding? ((ownBinding?_roundState key keyName).trans (if_pos rfl))

/-- A round sees the exports, because its own scope binds nothing but the key. -/
theorem exports_roundState (collects : Collects context ref properties state) (key : String) :
    (roundState context key state).heap.readName (roundContext context state).environment
      exportsName = .ok (.object ref) := by
  have own : (roundState context key state).heap.ownBinding?
      (roundContext context state).environment exportsName = none :=
    (ownBinding?_roundState key exportsName).trans (if_neg (by decide))
  exact (Heap.readName_of_outer own).trans (collects.round key).reads

/-- A loop over keys leaves the default export and all exports of other names as they were. -/
theorem copyLoop_keeps (bound : Nat) {module : String} {keys : List String}
    {outcome : Except RuntimeError Completion}
    (collects : Collects context ref properties state)
    (comes : (runForEach (Interpreter.within (bound + 7)) false (.identifier keyName)
      (copyStatement module) context (keys.map .text) state).ComesTo others outcome after) :
    ∃ final, Collects context ref final after ∧
      ∀ other, other = "default" ∨ other ∉ keys → final.get? other = properties.get? other := by
  induction keys generalizing state properties with
  | nil =>
    obtain ⟨-, rfl⟩ := comes
    exact ⟨properties, collects, fun _ _ => rfl⟩
  | cons key rest ih =>
    have started := collects.round key
    have atKey (other : String) (apart : other = "default" ∨ other ∉ key :: rest) :
        other = "default" ∨ other ≠ key :=
      apart.imp_right fun absent same => absent (List.mem_cons.mpr (.inl same))
    have round {outcome : Except RuntimeError Completion} {middle : State}
        (comes : ((Interpreter.within (bound + 7)).statement (copyStatement module)
          (roundContext context state) (roundState context key state)).ComesTo others outcome
            middle) :
        ∃ next, Collects context ref next middle ∧
          ∀ other, other = "default" ∨ other ≠ key → next.get? other = properties.get? other := by
      obtain ⟨next, ordinary, scopes, kept⟩ := copyStatement_keeps bound (reads_roundState key)
        (exports_roundState collects key) started.ordinary comes
      exact ⟨next, ⟨started.holds.of_scopes scopes, ordinary⟩, kept⟩
    rw [List.map_cons, runForEach] at comes
    change (((Interpreter.within (bound + 7)).statement (copyStatement module)
      (roundContext context state) >>= _) (roundState context key state)).ComesTo _ _ _ at comes
    rcases Code.comesTo_bind.mp comes with
      ⟨completion, middle, first, goesOn⟩ | ⟨error, -, first⟩
    · obtain ⟨next, collected, kept⟩ := round first
      cases ending : loopEnd? completion with
      | some last =>
        rw [ending] at goesOn
        obtain ⟨-, rfl⟩ := goesOn
        exact ⟨next, collected, fun other apart => kept other (atKey other apart)⟩
      | none =>
        rw [ending] at goesOn
        obtain ⟨final, collected, later⟩ := ih collected goesOn
        refine ⟨final, collected, fun other apart => ?_⟩
        rw [later other (apart.imp_right fun absent member => absent (.tail _ member)),
          kept other (atKey other apart)]
    · obtain ⟨next, collected, kept⟩ := round first
      exact ⟨next, collected, fun other apart => kept other (atKey other apart)⟩

/-- The loop that copies the exports of a module leaves the default export as it was, and the
exports that the module does not have. -/
theorem exportAllFrom_keeps (bound : Nat) {module : String}
    {outcome : Except RuntimeError Completion}
    (collects : Collects context ref properties state)
    (comes : ((Interpreter.within (bound + 8)).statement (exportAllFrom module) context
      state).ComesTo others outcome after) :
    ∃ final, Collects context ref final after ∧
      ∀ key, (key = "default" ∨ ∀ value,
          state.heap.readName context.environment module = .ok value →
          key ∉ state.heap.ownKeys value) →
        final.get? key = properties.get? key := by
  cases found : state.heap.readName context.environment module with
  | error error =>
    have fails : (Interpreter.within (bound + 8)).statement (exportAllFrom module) context state =
        .failed error state :=
      Code.bind_of_failed (identifier_fails (bound + 6) found) _
    rw [fails] at comes
    obtain ⟨-, rfl⟩ := comes
    exact ⟨properties, collects, fun _ _ => rfl⟩
  | ok value =>
    have runs : (Interpreter.within (bound + 8)).statement (exportAllFrom module) context state =
        runForEach (Interpreter.within (bound + 7)) false (.identifier keyName)
          (copyStatement module) context ((state.heap.ownKeys value).map .text) state := by
      rw [exportAllFrom_eq]
      exact Code.bind_of_done (identifier_runs (bound + 6) found) _
    rw [runs] at comes
    obtain ⟨final, collected, kept⟩ := copyLoop_keeps bound collects comes
    refine ⟨final, collected, fun key apart => kept key ?_⟩
    exact apart.imp_right fun absent => absent value rfl

end Running

/-- The exports of a module from other ones yield to its own default export, and to the exports that
it lists. A loop that copies exports leaves the default export as it was, like every export that the
other module does not have. The listed ones are assigned after all loops, and have the values of
their names in the end, if the body runs to its end and nothing is listed twice. -/
theorem star_exports_yield (source : String) (items : List ModuleItem) (bound : Nat)
    (others : State → State → Prop) (context : Context) (before after : State) :
    (∀ module ref properties outcome, Collects context ref properties before →
      ((Interpreter.within (bound + 8)).statement (exportAllFrom module) context before).ComesTo
        others outcome after →
      ∃ final, Collects context ref final after ∧
        ∀ key, (key = "default" ∨ ∀ value,
            before.heap.readName context.environment module = .ok value →
            key ∉ before.heap.ownKeys value) →
          final.get? key = properties.get? key) ∧
    let body := Lowering.bodies source.toList 0 items
    let listed := items.flatMap listedExports
    (lower source items).statements = body ++ listed.map Lowering.exportLocal ∧
      (∀ module, exportAllFrom module ∉ listed.map Lowering.exportLocal) ∧
      ((listed.map (·.exported)).Nodup →
        (runSequence (Interpreter.within (bound + 8)) context (lower source items).statements
          before).ComesTo others (.ok .normal) after →
        ∃ middle,
          (runSequence (Interpreter.within (bound + 8)) context body before).ComesTo others
            (.ok .normal) middle ∧
          ∀ ref properties, Collects context ref properties middle →
            ∃ final, Collects context ref final after ∧
              ∀ specifier ∈ listed, ∃ value,
                middle.heap.readName context.environment specifier.name = .ok value ∧
                  final.get? specifier.exported = some value) := by
  refine ⟨fun module ref properties outcome => exportAllFrom_keeps bound, ?_⟩
  intro body listed
  have split : (lower source items).statements = body ++ listed.map Lowering.exportLocal :=
    Lowering.statements_eq_bodies source items
  refine ⟨split, fun module member => ?_, fun distinct comes => ?_⟩
  · obtain ⟨specifier, -, same⟩ := List.mem_map.mp member
    cases same
  · rw [split] at comes
    obtain ⟨middle, first, goesOn⟩ := runSequence_append.mp comes
    refine ⟨middle, first, fun ref properties collects => ?_⟩
    obtain ⟨final, collected, -, has⟩ := exportLocals_run (bound + 5) distinct collects goesOn
    exact ⟨final, collected, has⟩

/-- A module that lists an export and gives out another module that has it as well. -/
def listedAndCopied : List ModuleItem :=
  [.exportList [{ name := "own", exported := "x" }] none false, .exportAll none "m"]

/-- The other module. -/
def copiedSource : ModuleSource := .table [("m", some (.object [("x", .text "theirs")]))]

/-- The state in which that module runs on once its exports are declared. -/
def collectingState : State :=
  { heap :=
    { objects := #[.ordinary {}, .function "require" (.require copiedSource) {}]
      scopes := #[⟨[("require", ⟨some (.object ⟨1⟩), false⟩),
        (exportsName, ⟨some (.object ⟨0⟩), false⟩), ("own", ⟨some (.text "mine"), false⟩)]⟩]
      realms := #[{ globals := ⟨0⟩, prototypes := ⟨⟨0⟩, ⟨0⟩, ⟨0⟩, ⟨0⟩, ⟨0⟩, ⟨0⟩⟩ }] } }

/-- The listed export has its own value in the end. -/
theorem star_exports_yield_listed :
    ∃ after final, runSequence (Interpreter.within 8) emptyContext
        (lower "" listedAndCopied).statements collectingState = .done .normal after ∧
      Collects emptyContext ⟨0⟩ final after ∧ final.get? "x" = some (.text "mine") := by
  obtain ⟨after, runs⟩ : ∃ after, runSequence (Interpreter.within 8) emptyContext
      (lower "" listedAndCopied).statements collectingState = .done .normal after :=
    ⟨_, rfl⟩
  obtain ⟨-, -, -, ends⟩ := star_exports_yield "" listedAndCopied 0
    (fun before after => after = before) emptyContext collectingState after
  obtain ⟨middle, ⟨-, rfl⟩, yields⟩ := ends (by decide) (runs ▸ ⟨rfl, rfl⟩)
  obtain ⟨final, collected, has⟩ := yields ⟨0⟩ _ ⟨⟨by decide +kernel, fun name value member => by
    cases List.mem_singleton.mp member
    rfl⟩, rfl⟩
  obtain ⟨value, reads, exported⟩ := has _ (.head _)
  cases reads
  exact ⟨after, final, runs, collected, exported⟩

/-- Any other export is replaced by one that is copied after it. -/
theorem star_export_replaces :
    returnedKinds [("m", some (.object [("x", .text "theirs")]))]
        "export const x = 1; export * from 'm'; export default x;" =
      some [("x", "string"), ("default", "number")] := by
  decide +kernel

end PluginSandbox.Plugin
