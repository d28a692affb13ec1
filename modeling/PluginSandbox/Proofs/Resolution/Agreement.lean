import Mathlib.Tactic.Choose
import PluginSandbox.Proofs.Resolution.Declarations
import PluginSandbox.Proofs.Resolution.Strategies

/-!
# What a running plugin imports

An import is carried out in two ways: the host resolves its descriptor, and the running plugin
requires the module and takes it apart. For a module that the host knows, the plugin gives each
name the value that the host resolves it to, with one exception. The default of a module without
one is the module itself for the host, while the plugin reads it as any other missing property.
-/
namespace PluginSandbox.Plugin

open Script Script.Evaluation Syntax

section Known

variable {resolver : Resolver} {module : String} {value : Value}

theorem resolve_known (self : Interpreter) (known : resolver.known.get? module = some value)
    (state : State) :
    resolve self resolver module state =
      .done (shownModule resolver module value state)
        (conclude resolver ⟨.module module, none⟩ (showing resolver module value state)) := by
  have loads : resolveModule self resolver module state =
      .done (shownModule resolver module value state) (showing resolver module value state) :=
    Code.bind_of_done (knownModule_runs known state) _
  unfold resolve
  rw [reporting_apply, loads]
  rfl

/-- A token is an own property of whatever is seen through it. -/
theorem getOwn?_of_token {heap : Heap} {shown token : Value} {view : TokenView} {key : String}
    (seen : heap.objectOf? shown = some (.view view)) (found : view.lookup key = some token) :
    heap.getOwn? shown key = some token := by
  obtain ⟨bound, layers⟩ := exists_layers_of_view seen
  unfold Heap.getOwn?
  rw [layers]
  simp [Heap.tokenIn?, found]

/-- An import of a known module binds what the module, seen through its tokens, has for it. -/
theorem resolveImport_known (self : Interpreter) {statement : Import} (state : State)
    (known : resolver.known.get? statement.module = some value)
    (valued : statement.isTypeOnly = false) :
    ∃ later, resolveImport self resolver statement state =
      .ended (knownAttribute (showing resolver statement.module value state).heap statement
        (shownModule resolver statement.module value state)) later := by
  have concluded {outcome : Except ResolveError Value} {middle : State}
      (ends : resolveStatement self resolver statement state = .ended outcome middle) :
      ∃ later, resolveImport self resolver statement state = .ended outcome later := by
    rw [resolveImport, valued, if_neg Bool.false_ne_true, reporting_apply, ends]
    cases outcome <;> exact ⟨_, rfl⟩
  by_cases lacks : LacksToken resolver statement
  · exact concluded (resolveStatement_known self state lacks known).ended
  · obtain ⟨name, asked, provided⟩ : ∃ name, statement.requestedAttribute? = some name ∧
        resolver.tokens.lookup statement.module name ≠ none := by
      simpa [LacksToken] using lacks
    obtain ⟨token, found⟩ := Option.ne_none_iff_exists'.mp provided
    obtain ⟨middle, ends⟩ := resolveStatement_token self state asked found
    have own := getOwn?_of_token
      (objectOf?_shownModule resolver statement.module value state) found
    simp only [knownAttribute, asked, own]
    exact concluded ends.ended

/-- What the host takes out of a known module for a specifier is what a running plugin reads,
unless that is the default of a module without one. -/
theorem knownAttribute_specified {heap : Heap} {realm : RealmRef} {specifier : ImportSpecifier}
    {name : String} {shown result : Value} {part : String → Value}
    (binds : boundName? specifier = some name)
    (reads : ∀ key, heap.read realm shown key = .ok (part key))
    (outcome : knownAttribute heap (describeSpecifier module false specifier) shown = .ok result)
    (provides : specifier = .default name → heap.getOwn? shown "default" ≠ none) :
    specifiedValue shown part specifier = result := by
  have own {key : String} {value : Value} (has : heap.getOwn? shown key = some value) :
      part key = value :=
    Except.ok.inj ((reads key).symm.trans (heap.read_of_getOwn? realm has))
  cases specifier with
  | whole other => exact Except.ok.inj outcome
  | default other =>
    obtain rfl := Option.some.inj binds
    obtain ⟨value, has⟩ := Option.ne_none_iff_exists'.mp (provides rfl)
    have asked : (describeSpecifier module false (.default other)).requestedAttribute? =
      some "default" := rfl
    simp only [knownAttribute, asked, has] at outcome
    exact (own has).trans (Except.ok.inj outcome)
  | named imported other isTypeOnly =>
    have asked : (describeSpecifier module false
      (.named imported other isTypeOnly)).requestedAttribute? = some imported := rfl
    have plain : (describeSpecifier module false
      (.named imported other isTypeOnly)).isDefault = false := rfl
    cases has : heap.getOwn? shown imported with
    | none => simp [knownAttribute, asked, has, plain] at outcome
    | some value =>
      simp only [knownAttribute, asked, has] at outcome
      exact (own has).trans (Except.ok.inj outcome)

/-- How a name of an import declaration is seen by the host and by the running plugin, when the
declaration is reached in one state and has run in another, and its module is a value on a heap. -/
structure SeenAlike (interpreter : Interpreter) (resolver : Resolver) (context : Context)
    (module name : String) (specifier : ImportSpecifier) (shown : Value) (heap : Heap)
    (before after : State) : Prop where
  /-- The name is a constant for what the host resolves its descriptor to. -/
  agree : ∀ value later,
    resolveImport interpreter resolver (describeSpecifier module false specifier) before =
      .done value later →
    (specifier = .default name → heap.getOwn? shown "default" ≠ none) →
    after.heap.ownBinding? context.environment name = some ⟨some value, false⟩
  /-- Where a default is missing, the host takes the module and the plugin what it reads. -/
  differ : specifier = .default name → heap.getOwn? shown "default" = none →
    (∃ later, resolveImport interpreter resolver (describeSpecifier module false specifier) before =
      .done shown later) ∧
    ∃ value, heap.read context.realm shown "default" = .ok value ∧
      after.heap.ownBinding? context.environment name = some ⟨some value, false⟩

variable {context : Context} {name : String} {specifier : ImportSpecifier} {before after : State}

/-- A name is seen alike once it stands for what code reads from the module. -/
theorem seenAlike_of_specified (self : Interpreter)
    (known : resolver.known.get? module = some value) (binds : boundName? specifier = some name)
    {part : String → Value}
    (reads : ∀ key, (showing resolver module value before).heap.read context.realm
      (shownModule resolver module value before) key = .ok (part key))
    (bound : after.heap.ownBinding? context.environment name = some
      ⟨some (specifiedValue (shownModule resolver module value before) part specifier), false⟩) :
    SeenAlike self resolver context module name specifier
      (shownModule resolver module value before) (showing resolver module value before).heap
      before after := by
  have valued : (describeSpecifier module false specifier).isTypeOnly = false := by
    cases specifier with
    | named imported other isTypeOnly =>
      cases isTypeOnly with
      | true => cases binds
      | false => rfl
    | _ => rfl
  have importing : (describeSpecifier module false specifier).module = module := by
    cases specifier <;> rfl
  rw [← importing] at known
  obtain ⟨later, resolves⟩ := resolveImport_known self before known valued
  rw [importing] at resolves
  refine ⟨fun result middle resolved provides => ?_, fun isDefault lacks => ?_⟩
  · rw [resolves] at resolved
    have outcome := (Run.ended_eq_done.mp resolved).1
    rw [bound, knownAttribute_specified binds reads outcome provides]
  · subst isDefault
    refine ⟨⟨later, ?_⟩, part "default", reads "default", bound⟩
    have asked : (describeSpecifier module false (.default name)).requestedAttribute? =
      some "default" := rfl
    have falls : (describeSpecifier module false (.default name)).isDefault = true := rfl
    rw [resolves]
    simp [knownAttribute, asked, lacks, falls, Run.ended]

end Known

/-- A running plugin and the host see the imports of a module that the host knows alike, but for
the default of a module without one. The script of the plugin runs the statements of the
declaration as one piece. Wherever it gets there, and code sees `require` and finds a module that
is neither null nor undefined, every name of the declaration comes to stand for what the host would
resolve its descriptor to. -/
theorem import_binds_resolved (bound : Nat) (self : Interpreter) (resolver : Resolver)
    (source : String) (items : List ModuleItem) (specifiers : List ImportSpecifier)
    (module : String) (value : Value)
    (imports : ModuleItem.importDeclaration specifiers module false ∈ items)
    (known : resolver.known.get? module = some value)
    (distinct : (boundNames specifiers).Nodup)
    (single : (specifiers.filterMap boundModule).length ≤ 1) :
    ∃ front loading back,
      (lower source items).statements = front ++ loading ++ back ∧
      (∀ specifier ∈ specifiers,
        describeSpecifier module false specifier ∈ (lower source items).imports) ∧
      ∀ context before, Requires resolver context before.heap →
        context.environment.innermost.index < before.heap.scopes.size →
        ∃ shown opened, resolve self resolver module before = .done shown opened ∧
          ((opened.heap.unwrap shown).isNullish = false → ∃ after,
            runSequence (Interpreter.within (bound + 6)) context loading before =
              .done .normal after ∧
            ∀ specifier ∈ specifiers, ∀ name, boundName? specifier = some name →
              SeenAlike self resolver context module name specifier shown opened.heap
                before after) := by
  obtain ⟨⟨front, back, statements⟩, listed⟩ := lower_importDeclaration source imports
  refine ⟨front, _, back, statements, listed, fun context before requires present => ?_⟩
  refine ⟨_, _, resolve_known self known before, ?_⟩
  rw [conclude_heap]
  intro visible
  choose part reads using
    (showing resolver module value before).heap.exists_read context.realm visible
  obtain ⟨after, runs, binds⟩ := importStatements_run bound requires
    (resolve_known _ known before) rfl (by rw [conclude_heap]; exact reads)
    (by rw [conclude_heap]; exact present) single
  refine ⟨after, runs, fun specifier member name bindsName => ?_⟩
  have entry := mem_specifiedConstants (shownModule resolver module value before) part member
    bindsName
  have names : (specifiedConstants (shownModule resolver module value before) part
      specifiers).map (·.1) = boundNames specifiers := specifiedConstants_names _ _
  refine seenAlike_of_specified self known bindsName reads ?_
  have some : boundNames specifiers ≠ [] := by
    intro none
    rw [none] at names
    rw [List.map_eq_nil_iff.mp names] at entry
    cases entry
  rw [binds some]
  exact Heap.ownBinding?_bindConstants (by rw [conclude_heap]; exact present)
    (names.symm ▸ distinct) entry

/-- A host with a module that has no default. -/
def plainHost : Resolver :=
  { known := ({} : KnownModules).register "plain" (.object ⟨2⟩) }

/-- A plugin that imports the default and an attribute of the module. -/
def plainSpecifiers : List ImportSpecifier := [.default "plain", .named "a" "b" false]

/-- The scope of a plugin that is given `require`, and the objects that it sees. -/
def plainState : State :=
  { heap :=
    { objects := #[.ordinary {}, .function "require" (.require (.resolver plainHost)) {},
        .ordinary ⟨[("a", .text "x")]⟩]
      scopes := #[⟨[("require", ⟨some (.object ⟨1⟩), false⟩)]⟩]
      realms := #[{ globals := ⟨0⟩, prototypes := ⟨⟨0⟩, ⟨0⟩, ⟨0⟩, ⟨0⟩, ⟨0⟩, ⟨0⟩⟩ }] } }

/-- The plugin runs in that scope. -/
def plainContext : Context := { realm := ⟨0⟩, environment := ⟨⟨0⟩, []⟩, this := .undefined }

/-- The attribute is seen alike. -/
theorem import_binds_resolved_plain :
    ∃ front loading back,
      (lower "" [.importDeclaration plainSpecifiers "plain" false]).statements =
        front ++ loading ++ back ∧
      ∃ after, runSequence (Interpreter.within 6) plainContext loading plainState =
          .done .normal after ∧
        after.heap.ownBinding? plainContext.environment "b" = some ⟨some (.text "x"), false⟩ := by
  have requires : Requires plainHost plainContext plainState.heap := ⟨_, _, _, rfl, rfl⟩
  obtain ⟨front, loading, back, statements, -, runs⟩ := import_binds_resolved 0
    (Interpreter.within 0) plainHost "" [.importDeclaration plainSpecifiers "plain" false]
    plainSpecifiers "plain" (.object ⟨2⟩) (by simp) rfl (by decide) (by decide)
  refine ⟨front, loading, back, statements, ?_⟩
  obtain ⟨shown, opened, loads, runs⟩ := runs plainContext plainState requires (by decide)
  obtain ⟨rfl, rfl⟩ := Run.done.inj ((resolve_known _ rfl plainState).symm.trans loads)
  obtain ⟨after, runs, alike⟩ := runs (by rw [conclude_heap]; rfl)
  have named := alike (.named "a" "b" false) (by simp [plainSpecifiers]) "b" rfl
  exact ⟨after, runs, named.agree _ _ rfl nofun⟩

/-- The default is not: the host takes the module, and the plugin reads undefined. -/
theorem import_default_differs :
    ∃ shown later after,
      resolveImport (Interpreter.within 0) plainHost
        (describeSpecifier "plain" false (.default "plain")) plainState = .done shown later ∧
      runSequence (Interpreter.within 6) plainContext
        (lower "" [.importDeclaration plainSpecifiers "plain" false]).statements plainState =
        .done .normal after ∧
      after.heap.ownBinding? plainContext.environment "plain" = some ⟨some .undefined, false⟩ ∧
      shown ≠ .undefined :=
  ⟨_, _, _, rfl, rfl, rfl, nofun⟩

end PluginSandbox.Plugin
