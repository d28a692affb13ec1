import PluginSandbox.Proofs.Syntax.Exponents
import PluginSandbox.Proofs.Syntax.Printing

/-!
# Modules without imports and exports

A module that imports and exports nothing is a script: both are read as the same statements. The
rules for modules try import and export declarations before statements, but these start with
reserved words, and no statement starts with one of those words.
-/
namespace PluginSandbox.Syntax

open Peg (Derives Node Place Surroundings)
open Peg.Grammar (outermost)
open Peg.Expression (firstOf inOrder many)

/-- What items of modules are tried as, in order, before statements. -/
def declarationRules : List Rule :=
  [.importDeclaration, .exportDefault, .exportAssignment, .exportAll, .exportNamed,
    .exportDeclaration]

section Items

variable {around : Surroundings} {place stop : Place} {trees : List (Peg.Tree Rule)}

/-- An item is a declaration of one of six kinds, or else a statement. -/
theorem body_moduleItem : grammar.body .moduleItem =
    firstOf ((declarationRules ++ [Rule.statement]).map .call) := rfl

/-- A rule starts with a word that no statement starts with. -/
structure Rule.StandsApart (rule : Rule) (word : Keyword) : Prop where
  /-- The rule shows as a node. -/
  kind : rule.kind = .plain
  /-- It starts with the word. -/
  opens : ∃ others, rule.body = .seq (.call (.keyword word)) others
  /-- The word is spelled like a name. -/
  name : startsName word.spelling.toList = true
  /-- No statement starts with it. -/
  shut : (Head.named word.spelling.toList).opens 64 (.call .statement) = false

/-- Import and export declarations start with words that no statement starts with. -/
theorem standsApart {rule : Rule} (listed : rule ∈ declarationRules) :
    ∃ word, rule.StandsApart word := by
  have words : ∀ word ∈ [Keyword.import, .export], startsName word.spelling.toList = true ∧
      (Head.named word.spelling.toList).opens 64 (.call .statement) = false := by
    decide
  simp only [declarationRules, List.mem_cons, List.not_mem_nil, or_false] at listed
  rcases listed with rfl | rfl | rfl | rfl | rfl | rfl
  · obtain ⟨name, shut⟩ := words .import (by decide)
    exact ⟨.import, rfl, ⟨_, rfl⟩, name, shut⟩
  all_goals
    obtain ⟨name, shut⟩ := words .export (by decide)
    exact ⟨.export, rfl, ⟨_, rfl⟩, name, shut⟩

/-- Where a statement stands, no import or export declaration does. -/
theorem declaration_fails {rule : Rule} (listed : rule ∈ declarationRules)
    (statement : Derives grammar around (.once (.call .statement)) place (some (stop, trees))) :
    Derives grammar around (.once (.call rule)) place none := by
  obtain ⟨word, apart⟩ := standsApart listed
  have filled : (Rule.keyword word).words ≠ [] := nofun
  -- A text that starts with the word starts no statement, and any other one no declaration.
  by_cases starts : firstWord place.rest ∈ (Rule.keyword word).words.map String.toList
  · exfalso
    have first : firstWord place.rest = word.spelling.toList := List.mem_singleton.mp starts
    have fits : (Head.named word.spelling.toList).Fits place.rest := ⟨first, apart.name⟩
    have settled := Head.settled fits rfl
    exact (Rejects.of_head _ fits settled rfl rfl apart.shut).not_derives rfl statement
  · obtain ⟨others, opens⟩ := apart.opens
    have rejects : Rejects (Peg.Grammar.inside rule.kind around) (.once rule.body) place.rest := by
      rw [opens]
      exact .seq (.words filled starts) others
    exact Rejects.call rejects place rfl

/-- A statement is an item. -/
theorem moduleItem_of_statement
    (derived : Derives grammar around (.once (.call .statement)) place (some (stop, trees))) :
    Derives grammar around (.once (.call .moduleItem)) place (some (stop, trees)) := by
  refine .callHidden rfl ?_
  rw [body_moduleItem, List.map_append]
  refine .firstOf_last (fun other member => ?_) derived
  obtain ⟨rule, listed, rfl⟩ := List.mem_map.mp member
  exact declaration_fails listed derived

/-- An item that is no declaration is a statement. -/
theorem statement_of_moduleItem (makes : around.makesNodes = true)
    (plain : ∀ tree ∈ trees, tree.root.rule ∉ declarationRules)
    (derived : Derives grammar around (.once (.call .moduleItem)) place (some (stop, trees))) :
    Derives grammar around (.once (.call .statement)) place (some (stop, trees)) := by
  have body := derived.body_of_call rfl
  rw [body_moduleItem] at body
  obtain ⟨rule, listed, found⟩ := body.of_firstOf
  rcases List.mem_append.mp listed with declaration | statement
  · -- A declaration would show as a node.
    obtain ⟨_, apart⟩ := standsApart declaration
    have kind : grammar.kind rule = .plain := apart.kind
    have shown : grammar.kind rule ≠ .hidden := by
      rw [kind]
      nofun
    obtain ⟨children, rfl, _⟩ := found.node_of_call shown (by rw [kind]; exact makes)
    exact absurd declaration (plain _ (List.mem_singleton_self _))
  · rwa [List.mem_singleton.mp statement] at found

/-- What a text of items matches. -/
def wholeOf (item : Rule) : Peg.Expression Rule :=
  inOrder [.atStart, many (.call item), .call .endOfText]

/-- At the end of a text, nothing is left. -/
theorem rest_of_endOfText
    (derived : Derives grammar around (.once (.call .endOfText)) place (some (stop, trees))) :
    place.rest = [] := by
  cases derived with
  | callHidden hidden _ => cases hidden
  | callShown _ body =>
    cases body with
    | atEnd done => exact done

/-- A text of items of one rule is a text of items of another rule that matches wherever the first
does, as long as the nodes are of some kind. -/
theorem whole_replaced {first second : Rule} (kind : Peg.Tree Rule → Prop)
    (replaces : ∀ {place middle trees}, (∀ tree ∈ trees, kind tree) →
      Derives grammar around (.once (.call first)) place (some (middle, trees)) →
        Derives grammar around (.once (.call second)) place (some (middle, trees)))
    (filled : Peg.Expression.isNullable ranking (.call second) = false)
    (all : ∀ tree ∈ trees, kind tree)
    (derived : Derives grammar around (.once (wholeOf first)) place (some (stop, trees))) :
    Derives grammar around (.once (wholeOf second)) place (some (stop, trees)) := by
  cases derived with
  | seq start others =>
    cases start with
    | atStart zero =>
      cases others with
      | @seq _ _ _ _ middle _ items ending repeated ends =>
        have ended : Derives grammar around (.once (.call second)) (grammar.padded around middle)
            none := Rejects.at_end rfl filled _ (rest_of_endOfText ends)
        have inItems : ∀ tree ∈ items, kind tree := fun tree member =>
          all tree (List.mem_append_right [] (List.mem_append_left _ member))
        have others := Derives.many_replaced replaces (skipsOnce.settled _ _) inItems ended repeated
        exact .seq (.atStart zero) (.seq others ends)

end Items

section Texts

variable {text : String}

/-- A script and a module of the same text have the same nodes at the same places. -/
def SameNodes (text : String) : Prop :=
  ∃ stop children, parseTree .script text = .ok (.node .script (Place.start text) stop children) ∧
    parseTree .moduleSource text = .ok (.node .moduleSource (Place.start text) stop children)

/-- A text whose items one rule matches is parsed as such a text. -/
theorem parseTree_of_whole {rule : Rule} {stop : Place} {children : List (Peg.Tree Rule)}
    (plain : grammar.kind rule = .plain)
    (derived : Derives grammar outermost (.once (grammar.body rule)) (Place.start text)
      (some (stop, children))) :
    parseTree rule text = .ok (.node rule (Place.start text) stop.offset children) := by
  have shown : grammar.kind rule ≠ .hidden := by
    rw [plain]
    nofun
  have call : Derives grammar outermost (.once (.call rule)) (Place.start text)
      (some (stop, Peg.nodesOf rule (Peg.Grammar.shownIn (grammar.kind rule) outermost)
        (Place.start text) stop children)) :=
    .callShown shown (by rw [plain]; exact derived)
  rw [Peg.nodesOf, if_pos (makesNodes_outermost _)] at call
  exact parseTree_eq call

/-- The nodes of a script are those of a module of the same text. -/
theorem sameNodes_of_script {tree : Peg.Tree Rule} (parsed : parseTree .script text = .ok tree) :
    SameNodes text := by
  obtain ⟨stop, children, rfl, derived⟩ := derives_of_parseTree (by decide) parsed
  refine ⟨stop.offset, children, parsed, parseTree_of_whole rfl ?_⟩
  exact whole_replaced (fun _ => True) (fun _ => moduleItem_of_statement) rfl
    (fun _ _ => trivial) derived

/-- The nodes of a module without imports and exports are those of a script of the same text. -/
theorem sameNodes_of_module {tree : Peg.Tree Rule}
    (parsed : parseTree .moduleSource text = .ok tree)
    (plain : ∀ child ∈ tree.children, child.root.rule ∉ declarationRules) : SameNodes text := by
  obtain ⟨stop, children, rfl, derived⟩ := derives_of_parseTree (by decide) parsed
  refine ⟨stop.offset, children, parseTree_of_whole rfl ?_, parsed⟩
  exact whole_replaced _ (statement_of_moduleItem rfl) rfl plain derived

/-- What a node denotes that denotes no item by itself is a statement wherever it is an item. -/
theorem item?_eq_statement? {child : Child} (other : ∀ item, child.2 ≠ .ok (.item item)) :
    child.item? = Option.map ModuleItem.statement <$> child.statement? := by
  obtain ⟨node, value⟩ := child
  cases value with
  | error problem => rfl
  | ok part =>
    cases part with
    | item item => exact absurd rfl (other item)
    | _ => rfl

/-- The items that some nodes denote which denote no items by themselves are the statements that
they denote. -/
theorem items_eq_statements {parts : List Child}
    (others : ∀ child ∈ parts, ∀ item, child.2 ≠ .ok (.item item)) :
    (fun found => found.filterMap id) <$> parts.mapM Child.item? =
      (fun found => (found.filterMap id).map ModuleItem.statement) <$>
        parts.mapM Child.statement? := by
  rw [mapM_eq_map fun child member => item?_eq_statement? (others child member)]
  cases parts.mapM Child.statement? with
  | error problem => rfl
  | ok found =>
    change Except.ok ((found.map _).filterMap id) = Except.ok ((found.filterMap id).map _)
    rw [List.filterMap_map, List.map_filterMap]
    rfl

/-- The statements of a script are what the nodes below its root denote. -/
theorem parseScript_eq {tree : Peg.Tree Rule} (parsed : parseTree .script text = .ok tree) :
    parseScript text =
      (fun found => found.filterMap id) <$> (partsBelow tree).mapM Child.statement? := by
  obtain ⟨stop, children, rfl, -⟩ := derives_of_parseTree (by decide) parsed
  rw [parseScript, parsed, partsBelow]
  simp only [bind, Except.bind, Peg.Tree.fold, foldAll_eq_map, assemble]
  cases ((children.map childOf).filter fun child => !child.rule.isNoise).mapM
    Child.statement? <;> rfl

/-- The items of a module are what the nodes below its root denote. -/
theorem parseModule_eq {tree : Peg.Tree Rule} (parsed : parseTree .moduleSource text = .ok tree) :
    parseModule text =
      (fun found => found.filterMap id) <$> (partsBelow tree).mapM Child.item? := by
  obtain ⟨stop, children, rfl, -⟩ := derives_of_parseTree (by decide) parsed
  rw [parseModule, parsed, partsBelow]
  simp only [bind, Except.bind, Peg.Tree.fold, foldAll_eq_map, assemble]
  cases ((children.map childOf).filter fun child => !child.rule.isNoise).mapM Child.item? <;> rfl

/-- Below a node without import and export declarations right below it, nothing denotes an item by
itself. -/
theorem not_item_of_plain {tree : Peg.Tree Rule} {child : Child} {item : Option ModuleItem}
    (plain : ∀ below ∈ tree.children, below.root.rule ∉ declarationRules)
    (member : child ∈ partsBelow tree) : child.2 ≠ .ok (.item item) := by
  intro denotes
  obtain ⟨rule, start, stop, children⟩ := tree
  obtain ⟨below, inside, rfl⟩ := List.mem_map.mp (List.mem_filter.mp member).1
  apply plain below inside
  have declares := declares_of_childOf denotes (.inl ⟨_, rfl⟩)
  generalize partsBelow below = parts at declares
  cases declares with
  | importDeclaration rule | exportDefault rule | exportAssignment rule | exportAll rule
  | exportList rule | exportDeclaration rule =>
    rw [rule]
    decide

/-- What denotes a statement denotes no item by itself. -/
theorem not_item_of_statement? {parts : List Child} {found : List (Option Statement)}
    {child : Child} {item : Option ModuleItem} (all : parts.mapM Child.statement? = .ok found)
    (member : child ∈ parts) : child.2 ≠ .ok (.item item) := by
  intro denotes
  obtain ⟨_, one⟩ := step_of_mem_mapM all member
  rw [Child.statement?, denotes] at one
  cases one

/-- Where a script and a module have the same nodes and none of them denotes an item by itself, the
items of the module are the statements of the script. -/
theorem parseModule_eq_map {stop : Nat} {children : List (Peg.Tree Rule)}
    (script : parseTree .script text = .ok (.node .script (Place.start text) stop children))
    (whole : parseTree .moduleSource text =
      .ok (.node .moduleSource (Place.start text) stop children))
    (others : ∀ child ∈ partsBelow (.node .script (Place.start text) stop children),
      ∀ item, child.2 ≠ .ok (.item item)) :
    parseModule text = List.map .statement <$> parseScript text := by
  rw [parseScript_eq script, parseModule_eq whole]
  refine (items_eq_statements others).trans ?_
  cases (partsBelow (.node .script (Place.start text) stop children)).mapM Child.statement? <;> rfl

end Texts

/-- A text that is a script is a module of the same statements, with the same nodes at the same
places. A module in which no import and no export occurs is a script of its items, again with the
same nodes. -/
theorem script_agrees_module (text : String) :
    (∀ statements, parseScript text = .ok statements →
      parseModule text = .ok (statements.map .statement) ∧ SameNodes text) ∧
    (∀ items tree, parseModule text = .ok items → parseTree .moduleSource text = .ok tree →
      (∀ below ∈ tree.subtrees, below.root.rule ∉ declarationRules) →
      ∃ statements, parseScript text = .ok statements ∧ items = statements.map .statement ∧
        SameNodes text) := by
  refine ⟨fun statements parsed => ?script, fun items tree parsed tried plain => ?module⟩
  case script =>
    obtain ⟨tree, tried, -⟩ := bind_eq_ok.mp parsed
    refine ⟨?_, sameNodes_of_script tried⟩
    obtain ⟨stop, children, script, whole⟩ := sameNodes_of_script tried
    have all := parsed
    rw [parseScript_eq script] at all
    rw [parseModule_eq_map script whole, parsed]
    · rfl
    · intro child member item
      cases each : (partsBelow (.node .script (Place.start text) stop children)).mapM
          Child.statement? with
      | error problem =>
        rw [each] at all
        cases all
      | ok found => exact not_item_of_statement? each member
  case module =>
    have children : ∀ child ∈ tree.children, child.root.rule ∉ declarationRules :=
      fun child member => plain child (Peg.Tree.mem_subtrees.mpr
        (.inr ⟨child, member, Peg.Tree.mem_subtrees.mpr (.inl rfl)⟩))
    have same := sameNodes_of_module tried children
    obtain ⟨stop, below, script, whole⟩ := sameNodes_of_module tried children
    obtain rfl := Except.ok.inj (tried.symm.trans whole)
    rw [parseModule_eq_map script whole fun child member item => not_item_of_plain children member]
      at parsed
    cases found : parseScript text with
    | error problem =>
      rw [found] at parsed
      cases parsed
    | ok statements =>
      rw [found] at parsed
      exact ⟨statements, rfl, (Except.ok.inj parsed).symm, same⟩

/-- An assignment is both a script and a module, and the module is a script again. -/
theorem script_agrees_module_assignment :
    (∃ statements, parseScript "a = 1;" = .ok statements ∧
      parseModule "a = 1;" = .ok (statements.map .statement)) ∧
    ∃ items, parseModule "a = 1;" = .ok items ∧
      ∃ statements, parseScript "a = 1;" = .ok statements ∧ items = statements.map .statement := by
  have script : (parseScript "a = 1;").isOk = true := by decide +kernel
  have plain : ((parseTree .moduleSource "a = 1;").toOption.all fun tree =>
      tree.subtrees.all fun below => below.root.rule ∉ declarationRules) = true := by
    decide +kernel
  cases parsed : parseScript "a = 1;" with
  | error problem =>
    rw [parsed] at script
    cases script
  | ok statements =>
    obtain ⟨whole, stop, children, -, tried⟩ := (script_agrees_module "a = 1;").1 statements parsed
    rw [tried] at plain
    have none : ∀ below ∈ Peg.Tree.subtrees (.node .moduleSource (Place.start "a = 1;") stop
        children), below.root.rule ∉ declarationRules := by
      simpa [Except.toOption] using plain
    obtain ⟨others, again, same, -⟩ :=
      (script_agrees_module "a = 1;").2 _ _ whole tried none
    exact ⟨⟨statements, rfl, whole⟩, _, whole, others, parsed.symm.trans again, same⟩

end PluginSandbox.Syntax
