import PluginSandbox.Proofs.Syntax.Items

/-!
# Import clauses

The clause of an import declaration names the whole module at most once, because the grammar has at
most one node for that below a declaration and none below a list of attributes.
-/
namespace PluginSandbox.Syntax

/-- Whether a specifier binds the whole module. -/
def ImportSpecifier.isWhole : ImportSpecifier → Bool
  | .whole _ => true
  | .default _ | .named _ _ _ => false

/-- How many specifiers bind the whole module. -/
def countWholes (specifiers : List ImportSpecifier) : Nat :=
  specifiers.countP ImportSpecifier.isWhole

/-- How many of the parts are nodes of a rule. -/
def countRule (rule : Rule) (parts : List Child) : Nat :=
  parts.countP fun child => child.rule = rule

/-- A tree has no more parts of a rule than the grammar lets it make nodes of the rule. -/
theorem countRule_partsBelow_le {tree : Peg.Tree Rule} {wanted : Rule} {bound : Nat} (depth : Nat)
    (grows : tree.Grows grammar)
    (most : (Rule.body tree.root.rule).most (grammar.most wanted depth) = some bound) :
    countRule wanted (partsBelow tree) ≤ bound := by
  obtain ⟨rule, start, stop, children⟩ := tree
  obtain ⟨around, last, _, _, derived⟩ := grows
  have counted := derived.countRoots_le depth most
  calc countRule wanted (partsBelow (.node rule start stop children))
      ≤ (children.map childOf).countP fun child => child.rule = wanted :=
        List.filter_sublist.countP_le
    _ = Peg.countRoots wanted children := List.countP_map
    _ ≤ bound := counted

/-- A specifier of a list of attributes does not bind the whole module. -/
theorem isWhole_of_assembleImportSpecifier {node : Peg.Node Rule} {parts : List Child}
    {specifier : ImportSpecifier} (denotes : assembleImportSpecifier node parts = .ok specifier) :
    specifier.isWhole = false := by
  simp only [assembleImportSpecifier] at denotes
  split at denotes
  · cases denotes
    rfl
  · cases denotes

/-- Parts that each bind the whole module as often as they are nodes for that do so together. -/
theorem countWholes_flatten_le {parts : List Child} {lists : List (List ImportSpecifier)}
    {step : Child → Except Problem (List ImportSpecifier)} (all : parts.mapM step = .ok lists)
    (each : ∀ part ∈ parts, ∀ list, step part = .ok list →
      countWholes list ≤ if part.rule = .namespaceImport then 1 else 0) :
    countWholes lists.flatten ≤ countRule .namespaceImport parts := by
  have related := forall₂_of_mapM all
  clear all
  induction related with
  | nil => exact Nat.le_refl _
  | @cons part list parts lists first _ ih =>
    have rest := ih fun other member => each other (.tail _ member)
    have here := each part List.mem_cons_self list first
    have front : countWholes (list :: lists).flatten =
        countWholes list + countWholes lists.flatten :=
      List.countP_append
    have back : countRule .namespaceImport (part :: parts) =
        countRule .namespaceImport parts + if part.rule = .namespaceImport then 1 else 0 := by
      rw [countRule, List.countP_cons]
      simp only [decide_eq_true_eq, countRule]
    omega

section

variable {tree : Peg.Tree Rule} {specifiers : List ImportSpecifier}

/-- A node that is no list of attributes binds the whole module if it is one for that. -/
theorem countWholes_le_of_single (denotes : (childOf tree).2 = .ok (.importSpecifiers specifiers))
    (single : tree.root.rule ≠ .namedImports) :
    countWholes specifiers ≤ if tree.root.rule = .namespaceImport then 1 else 0 := by
  have declares := declares_of_childOf denotes (.inr ⟨_, rfl⟩)
  generalize (partsBelow tree) = parts at declares
  cases declares with
  | defaultImport rule => exact Nat.zero_le _
  | namespaceImport rule =>
    rw [if_pos rule]
    exact Nat.le_refl _
  | importSpecifier rule whole =>
    rw [countWholes, List.countP_singleton, isWhole_of_assembleImportSpecifier whole]
    exact Nat.zero_le _
  | namedImports rule each => exact absurd rule single

/-- A list of attributes does not bind the whole module. -/
theorem countWholes_namedImports (grows : tree.Grows grammar)
    (denotes : (childOf tree).2 = .ok (.importSpecifiers specifiers))
    (rule : tree.root.rule = .namedImports) : countWholes specifiers = 0 := by
  have declares := declares_of_childOf denotes (.inr ⟨_, rfl⟩)
  have wholes : countRule .namespaceImport (partsBelow tree) ≤ 0 :=
    countRule_partsBelow_le 0 grows (by rw [rule]; rfl)
  have nested : countRule .namedImports (partsBelow tree) ≤ 0 :=
    countRule_partsBelow_le 0 grows (by rw [rule]; rfl)
  generalize same : partsBelow tree = parts at declares
  rw [same] at wholes nested
  cases declares with
  | namedImports _ each =>
    refine Nat.le_zero.mp (Nat.le_trans (countWholes_flatten_le each ?_) wholes)
    intro part member list found
    obtain ⟨below, _, rfl⟩ := grows_of_mem_partsBelow grows (same ▸ member)
    obtain ⟨value, denoted, found⟩ := bind_eq_ok.mp found
    split at found
    · obtain rfl := pure_eq_ok.mp found
      refine countWholes_le_of_single denoted fun other => ?_
      have none := List.countP_eq_zero.mp (Nat.le_zero.mp nested) _ member
      exact none (decide_eq_true other)
    · cases found
  | defaultImport other | namespaceImport other | importSpecifier other =>
    cases rule.symm.trans other

/-- A node binds the whole module if it is one for that, and then once. -/
theorem countWholes_le (grows : tree.Grows grammar)
    (denotes : (childOf tree).2 = .ok (.importSpecifiers specifiers)) :
    countWholes specifiers ≤ if tree.root.rule = .namespaceImport then 1 else 0 := by
  by_cases rule : tree.root.rule = .namedImports
  · rw [countWholes_namedImports grows denotes rule]
    exact Nat.zero_le _
  · exact countWholes_le_of_single denotes rule

end

/-- An import declaration stems from a node for one. -/
theorem assembleImport_of_declares {node : Peg.Node Rule} {parts : List Child}
    {specifiers : List ImportSpecifier} {module : String} {isTypeOnly : Bool}
    (declares : Declares node parts
      (.item (some (.importDeclaration specifiers module isTypeOnly)))) :
    node.rule = .importDeclaration ∧
      assembleImport parts = .ok (.importDeclaration specifiers module isTypeOnly) := by
  cases declares with
  | importDeclaration rule whole => exact ⟨rule, whole⟩
  | exportDefault _ whole =>
    unfold assembleExportDefault at whole
    split at whole <;>
      simp only [bind_eq_ok, pure_eq_ok, Option.some.injEq, reduceCtorEq, and_false,
        exists_false] at whole
  | exportList _ whole =>
    simp only [assembleExportList, bind_eq_ok, pure_eq_ok, reduceCtorEq, and_false,
      exists_false] at whole
  | exportDeclaration _ whole =>
    unfold assembleExportDeclaration at whole
    split at whole <;>
      simp only [bind_eq_ok, pure_eq_ok, Option.some.injEq, reduceCtorEq, and_false,
        exists_false] at whole

/-- An import declaration of a parsed module binds the whole module at most once. -/
theorem countWholes_importDeclaration {text : String} {items : List ModuleItem}
    {specifiers : List ImportSpecifier} {module : String} {isTypeOnly : Bool}
    (parsed : parseModule text = .ok items)
    (member : ModuleItem.importDeclaration specifiers module isTypeOnly ∈ items) :
    countWholes specifiers ≤ 1 := by
  rcases declares_of_mem_parseModule parsed member with ⟨_, wrong⟩ | ⟨tree, grows, declares⟩
  · cases wrong
  obtain ⟨rule, whole⟩ := assembleImport_of_declares declares
  obtain ⟨lists, all, whole⟩ := bind_eq_ok.mp whole
  obtain ⟨_, _, whole⟩ := bind_eq_ok.mp whole
  cases whole
  have bounded : countRule .namespaceImport (partsBelow tree) ≤ 1 :=
    countRule_partsBelow_le 1 grows (by rw [rule]; rfl)
  refine Nat.le_trans (countWholes_flatten_le all ?_) bounded
  intro part inside list found
  obtain ⟨below, grown, rfl⟩ := grows_of_mem_partsBelow grows inside
  obtain ⟨value, denoted, found⟩ := bind_eq_ok.mp found
  split at found
  · obtain rfl := pure_eq_ok.mp found
    exact countWholes_le grown denoted
  · obtain rfl := pure_eq_ok.mp found
    exact Nat.zero_le _

end PluginSandbox.Syntax
