import Mathlib.Data.List.Forall2
import PluginSandbox.Proofs.Peg.Nodes
import PluginSandbox.Syntax.Parsing

/-!
# The items of a parsed module

Every item of a parsed module is what some node of the parse tree denotes, and the node has a
derivation of its own. Six rules denote items; which one it was shows in the item.
-/
namespace PluginSandbox.Syntax

open Peg (Derives Node Place)

section Success

variable {ε α β : Type}

/-- Two steps succeed if both do. -/
theorem bind_eq_ok {first : Except ε α} {next : α → Except ε β} {value : β} :
    (first >>= next) = .ok value ↔ ∃ part, first = .ok part ∧ next part = .ok value := by
  cases first with
  | error problem => exact ⟨nofun, fun ⟨_, wrong, _⟩ => nomatch wrong⟩
  | ok part =>
    refine ⟨fun same => ⟨part, rfl, same⟩, fun ⟨other, same, rest⟩ => ?_⟩
    cases same
    exact rest

/-- A value that is given back is the value that is there. -/
theorem pure_eq_ok {part value : α} : (pure part : Except ε α) = .ok value ↔ part = value :=
  ⟨fun same => Except.ok.inj same, congrArg Except.ok⟩

/-- A step that is taken for all members of a list succeeds for each of them. -/
theorem forall₂_of_mapM {step : α → Except ε β} {list : List α} {values : List β}
    (all : list.mapM step = .ok values) :
    List.Forall₂ (fun part value => step part = .ok value) list values := by
  induction list generalizing values with
  | nil =>
    obtain rfl := pure_eq_ok.mp all
    exact .nil
  | cons part rest ih =>
    rw [List.mapM_cons, bind_eq_ok] at all
    obtain ⟨value, first, all⟩ := all
    rw [bind_eq_ok] at all
    obtain ⟨others, more, all⟩ := all
    obtain rfl := pure_eq_ok.mp all
    exact .cons first (ih more)

/-- Every value of such a list stems from a member. -/
theorem exists_of_mem_mapM {step : α → Except ε β} {list : List α} {values : List β} {value : β}
    (all : list.mapM step = .ok values) (member : value ∈ values) :
    ∃ part ∈ list, step part = .ok value := by
  have related := forall₂_of_mapM all
  clear all
  induction related with
  | nil => cases member
  | cons first _ ih =>
    rcases List.mem_cons.mp member with rfl | member
    · exact ⟨_, List.mem_cons_self, first⟩
    · obtain ⟨part, inside, found⟩ := ih member
      exact ⟨part, .tail _ inside, found⟩

/-- A step that succeeds for all members of a list succeeds for every one of them. -/
theorem step_of_mem_mapM {step : α → Except ε β} {list : List α} {values : List β}
    {part : α} (all : list.mapM step = .ok values) (member : part ∈ list) :
    ∃ value, step part = .ok value := by
  have related := forall₂_of_mapM all
  clear all
  induction related with
  | nil => cases member
  | cons first _ ih =>
    rcases List.mem_cons.mp member with rfl | later
    · exact ⟨_, first⟩
    · exact ih later

/-- A step that is a change of what another step gives is such a change for all members of a
list. -/
theorem mapM_eq_map {γ : Type} {step : α → Except ε γ} {other : α → Except ε β}
    {change : β → γ} {list : List α} (each : ∀ part ∈ list, step part = change <$> other part) :
    list.mapM step = List.map change <$> list.mapM other := by
  induction list with
  | nil => rfl
  | cons part rest ih =>
    have first := each part List.mem_cons_self
    have later := ih fun next member => each next (.tail part member)
    rw [List.mapM_cons, List.mapM_cons, first, later]
    cases other part with
    | error problem => rfl
    | ok value =>
      cases rest.mapM other <;> rfl

end Success

/-- What a tree denotes, with its root. -/
def childOf (tree : Peg.Tree Rule) : Child := (tree.root, tree.fold assemble)

/-- The children that a node is assembled from stem from the trees below it. -/
theorem foldAll_eq_map (trees : List (Peg.Tree Rule)) :
    Peg.Tree.foldAll assemble trees = trees.map childOf := by
  induction trees with
  | nil => rfl
  | cons tree rest ih => exact congrArg (_ :: ·) ih

/-- The nodes right below the root of a tree that matter to it, with what they denote. -/
def partsBelow : Peg.Tree Rule → List Child
  | .node _ _ _ children => (children.map childOf).filter fun child => !child.rule.isNoise

/-- What a tree denotes is assembled from the nodes below its root. -/
theorem childOf_snd (tree : Peg.Tree Rule) :
    ∃ children : List Child, (childOf tree).2 = assemble tree.root children ∧
      (children.filter fun child => !child.rule.isNoise) = partsBelow tree := by
  obtain ⟨rule, start, stop, children⟩ := tree
  exact ⟨children.map childOf, by rw [← foldAll_eq_map]; rfl, rfl⟩

/-- A part stems from a tree of its own. -/
theorem grows_of_mem_partsBelow {tree : Peg.Tree Rule} {child : Child} (grows : tree.Grows grammar)
    (member : child ∈ partsBelow tree) :
    ∃ below : Peg.Tree Rule, below.Grows grammar ∧ childOf below = child := by
  obtain ⟨rule, start, stop, children⟩ := tree
  obtain ⟨around, last, _, _, derived⟩ := grows
  obtain ⟨below, inside, same⟩ := List.mem_map.mp (List.mem_filter.mp member).1
  exact ⟨below, derived.grows below inside, same⟩

/-- Outside all rules, every rule that shows makes a node. -/
theorem makesNodes_outermost (kind : Peg.RuleKind) :
    (Peg.Grammar.shownIn kind Peg.Grammar.outermost).makesNodes = true := by
  cases kind <;> rfl

/-- A text that is parsed has the node of its rule as its tree, over what the body of the rule makes
from the start of the text on. -/
theorem derives_of_parseTree {rule : Rule} {text : String} {tree : Peg.Tree Rule}
    (shown : grammar.kind rule ≠ .hidden) (parsed : parseTree rule text = .ok tree) :
    ∃ stop children, tree = .node rule (Place.start text) stop.offset children ∧
      Derives grammar (Peg.Grammar.inside (grammar.kind rule) Peg.Grammar.outermost)
        (.once (grammar.body rule)) (Place.start text) (some (stop, children)) := by
  have told := (Peg.truthful grammar (fun _ _ state => state) (fuelFor text)).once
    Peg.Grammar.outermost (.call rule) (Place.start text) [] ()
  unfold parseTree Peg.Grammar.recognizeRule at parsed
  split at parsed
  case h_1 stop first others state outcome =>
    obtain rfl := Except.ok.inj parsed
    rw [outcome] at told
    obtain ⟨trees, same, derived⟩ := told
    obtain ⟨children, rfl, body⟩ := derived.node_of_call shown (makesNodes_outermost _)
    rw [List.append_nil, List.reverse_singleton] at same
    exact ⟨stop, children, (List.cons.inj same).1, body⟩
  case h_2 => cases parsed

/-- A text that is parsed has a tree with a derivation. -/
theorem grows_of_parseTree {rule : Rule} {text : String} {tree : Peg.Tree Rule}
    (shown : grammar.kind rule ≠ .hidden) (parsed : parseTree rule text = .ok tree) :
    tree.Grows grammar ∧ tree.root.rule = rule := by
  obtain ⟨stop, children, rfl, derived⟩ := derives_of_parseTree shown parsed
  exact ⟨⟨_, stop, makesNodes_outermost _, rfl, derived⟩, rfl⟩

section Assembling

variable {node : Node Rule} {children : List Child}

/-- What a node denotes that denotes an item of a module, a declaration of types in the place of
one, or specifiers of an import declaration. -/
inductive Declares (node : Node Rule) : List Child → Part → Prop where
  | importDeclaration {parts item} (rule : node.rule = .importDeclaration)
      (whole : assembleImport parts = .ok item) : Declares node parts (.item (some item))
  | exportDefault {value item} (rule : node.rule = .exportDefault)
      (whole : assembleExportDefault value = .ok item) : Declares node [value] (.item item)
  | exportAssignment {value e} (rule : node.rule = .exportAssignment)
      (whole : value.expr = .ok e) :
    Declares node [value] (.item (some (.exportAssignment e (spanOf node))))
  | exportAll {parts exported module} (rule : node.rule = .exportAll) :
    Declares node parts (.item (some (.exportAll exported module)))
  | exportList {parts item} (rule : node.rule = .exportNamed)
      (whole : assembleExportList parts = .ok item) : Declares node parts (.item (some item))
  | exportDeclaration {value item} (rule : node.rule = .exportDeclaration)
      (whole : assembleExportDeclaration value = .ok item) : Declares node [value] (.item item)
  | defaultImport {name} (rule : node.rule = .defaultImport) :
    Declares node [name] (.importSpecifiers [.default name.text])
  | namespaceImport {name} (rule : node.rule = .namespaceImport) :
    Declares node [name] (.importSpecifiers [.whole name.text])
  | importSpecifier {parts specifier} (rule : node.rule = .importSpecifier)
      (whole : assembleImportSpecifier node parts = .ok specifier) :
    Declares node parts (.importSpecifiers [specifier])
  | namedImports {parts lists} (rule : node.rule = .namedImports)
      (each : parts.mapM (fun child => do
        match ← child.2 with
        | .importSpecifiers specifiers => return specifiers
        | _ => refuse child.1 6) = .ok lists) :
    Declares node parts (.importSpecifiers lists.flatten)

/-- A node whose parts do not fit together denotes nothing. -/
theorem refuse_ne_ok {α : Type} {state : Nat} {value : α} :
    (refuse node state : Except Problem α) = .ok value ↔ False := ⟨nofun, False.elim⟩

/-- Items and specifiers are denoted by the nodes of a few rules. -/
theorem declares_assemble {part : Part} (denotes : assemble node children = .ok part)
    (kind : (∃ item, part = .item item) ∨ ∃ specifiers, part = .importSpecifiers specifiers) :
    Declares node (children.filter fun child => !child.rule.isNoise) part := by
  obtain ⟨rule, place, stop⟩ := node
  simp only [assemble] at denotes
  generalize (children.filter fun child => !child.rule.isNoise) = parts at denotes ⊢
  split at denotes
  all_goals rcases kind with ⟨item, rfl⟩ | ⟨specifiers, rfl⟩
  -- The nodes of most rules denote something of another kind, some after a choice.
  all_goals
    try simp only [bind_eq_ok, pure_eq_ok, reduceCtorEq, and_false, exists_false] at denotes
  all_goals
    try
      split at denotes <;>
        simp only [bind_eq_ok, pure_eq_ok, refuse_ne_ok, reduceCtorEq, and_false, exists_false]
          at denotes
  -- Parameters may be passed on as they are.
  iterate 4
    obtain ⟨_, _, denotes⟩ := denotes
    split at denotes <;>
      simp only [bind_eq_ok, pure_eq_ok, reduceCtorEq, and_false, exists_false] at denotes
  · cases denotes
    exact .defaultImport rfl
  · cases denotes
    exact .namespaceImport rfl
  all_goals
    obtain ⟨_, whole, same⟩ := denotes
    cases same
  · exact .importSpecifier rfl whole
  · exact .namedImports rfl whole
  · exact .importDeclaration rfl whole
  · exact .exportDefault rfl whole
  · exact .exportAssignment rfl whole
  · exact .exportAll rfl
  · exact .exportList rfl whole
  · exact .exportDeclaration rfl whole

end Assembling

/-- What a tree declares shows in the nodes below its root. -/
theorem declares_of_childOf {tree : Peg.Tree Rule} {part : Part}
    (denotes : (childOf tree).2 = .ok part)
    (kind : (∃ item, part = .item item) ∨ ∃ specifiers, part = .importSpecifiers specifiers) :
    Declares tree.root (partsBelow tree) part := by
  obtain ⟨children, assembled, parts⟩ := childOf_snd tree
  rw [← parts]
  exact declares_assemble (assembled.symm.trans denotes) kind

/-- What a node denotes among the items of a module is a statement or an item itself. -/
theorem item_of_item? {child : Child} {item : ModuleItem}
    (denotes : child.item? = .ok (some item)) :
    child.2 = .ok (.item (some item)) ∨ ∃ statement, item = .statement statement := by
  obtain ⟨part, value, denotes⟩ := bind_eq_ok.mp denotes
  split at denotes
  · rw [value, pure_eq_ok.mp denotes]
    exact .inl rfl
  · obtain ⟨statement, _, denotes⟩ := bind_eq_ok.mp denotes
    cases statement with
    | none => cases denotes
    | some statement =>
      cases denotes
      exact .inr ⟨statement, rfl⟩

/-- The items that the node of a module denotes are denoted by the nodes below it. -/
theorem item_of_assemble {node : Node Rule} {children : List Child} {items : List ModuleItem}
    {item : ModuleItem} (rule : node.rule = .moduleSource)
    (denotes : assemble node children = .ok (.items items)) (member : item ∈ items) :
    ∃ child ∈ children.filter fun child => !child.rule.isNoise,
      child.item? = .ok (some item) := by
  obtain ⟨_, place, stop⟩ := node
  cases rule
  simp only [assemble, bind_eq_ok, pure_eq_ok, Part.items.injEq] at denotes
  obtain ⟨values, all, rfl⟩ := denotes
  obtain ⟨_, found, rfl⟩ := List.mem_filterMap.mp member
  exact exists_of_mem_mapM all found

/-- Every item of a parsed module is a statement or what a node of the parse tree denotes. -/
theorem declares_of_mem_parseModule {text : String} {items : List ModuleItem} {item : ModuleItem}
    (parsed : parseModule text = .ok items) (member : item ∈ items) :
    (∃ statement, item = .statement statement) ∨
      ∃ tree : Peg.Tree Rule, tree.Grows grammar ∧
        Declares tree.root (partsBelow tree) (.item (some item)) := by
  obtain ⟨tree, tried, parsed⟩ := bind_eq_ok.mp parsed
  obtain ⟨grows, rule⟩ := grows_of_parseTree (by decide) tried
  obtain ⟨part, denotes, parsed⟩ := bind_eq_ok.mp parsed
  split at parsed
  case h_2 => cases parsed
  obtain rfl := pure_eq_ok.mp parsed
  obtain ⟨children, assembled, parts⟩ := childOf_snd tree
  obtain ⟨child, inside, found⟩ := item_of_assemble rule (assembled.symm.trans denotes) member
  rw [parts] at inside
  obtain ⟨below, grown, rfl⟩ := grows_of_mem_partsBelow grows inside
  rcases item_of_item? found with value | statement
  · exact .inr ⟨below, grown, declares_of_childOf value (.inl ⟨_, rfl⟩)⟩
  · exact .inl statement

end PluginSandbox.Syntax
