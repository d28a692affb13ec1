import PluginSandbox.Proofs.Syntax.Assemblies

/-!
# What sound nodes denote

Every rule that shows in a node and is neither a mark nor part of a type denotes a part of its own
kind, or shows a problem that is foreseen, where the nodes below the node are arranged and sound.
-/
namespace PluginSandbox.Syntax

open Peg (Node Place)
open Peg.Expression (inOrder firstOf many maybe separated)

/-- A node of a rule denotes a part of a kind if the nodes below it are arranged and sound. -/
def Denoting (refused : Node Rule → Prop) (rule : Rule) (kind : PartKind) : Prop :=
  ∀ (place : Place) (stop : Nat) (children : List Child),
    Arranged refused rule (children.filter fun child => !child.rule.isNoise) →
      Delivers refused (assemble ⟨rule, place, stop⟩ children)
        (Covers refused ⟨rule, place, stop⟩ kind)

/-- The nodes of a rule denote parts of the kind that the rule stands for, if it stands for one. -/
def DenotingOwn (refused : Node Rule → Prop) (rule : Rule) : Prop :=
  match rule.partKind with
  | some kind => Denoting refused rule kind
  | none => True

variable {refused : Node Rule → Prop} {parts : List Child} {node : Node Rule}

section Names

theorem denoting_string : Denoting refused .string .text := by
  intro place stop children _
  rw [assemble]
  generalize (children.filter fun child => !child.rule.isNoise) = parts
  rcases parts with _ | ⟨raw, _ | _⟩ <;> exact .text

theorem denoting_memberDot : Denoting refused .memberDot .text := by
  intro place stop children arranged
  obtain ⟨name, _, below, _, rfl⟩ := arranged.shape
  rw [assemble, below]
  exact .text

theorem denoting_optionalMember : Denoting refused .optionalMember .text := by
  intro place stop children arranged
  obtain ⟨name, _, below, _, rfl⟩ := arranged.shape
  rw [assemble, below]
  exact .text

theorem denoting_moduleSpecifier : Denoting refused .moduleSpecifier .text := by
  intro place stop children arranged
  obtain ⟨source, _, below, one, rfl⟩ := arranged.shape
  rw [assemble, below]
  exact Settles.bind (one.textValue (by decide)) fun _ => .text

end Names

section Lists

theorem denoting_arguments : Denoting refused .arguments .elements := by
  intro place stop children arranged
  have all := (startsWith_of_makes Rule.elements (by decide) arranged.shape).all
  rw [assemble]
  exact Settles.bind (.mapM fun child member => (all child member).elements (by decide))
    fun _ => .elements

theorem denoting_optionalCall : Denoting refused .optionalCall .elements := by
  intro place stop children arranged
  obtain ⟨source, _, below, one, rfl⟩ := arranged.shape
  rw [assemble, below]
  exact Settles.bind (one.elements (by decide)) fun _ => .elements

theorem denoting_spreadElement : Denoting refused .spreadElement .spread := by
  intro place stop children arranged
  obtain ⟨source, _, below, one, rfl⟩ := arranged.shape
  rw [assemble, below]
  exact Settles.bind (one.expr (by decide)) fun _ => .spread

end Lists

section Properties

theorem denoting_propertyName : Denoting refused .propertyName .key := by
  intro place stop children arranged
  obtain ⟨key, _, below, one, rfl⟩ : ∃ key rest,
      (children.filter fun child => !child.rule.isNoise) = key :: rest ∧
        key.OneOf refused [.identifierName, .string, .number, .computedPropertyName] ∧ rest = [] :=
    one_of_firstOf [.identifierName, .string, .number, .computedPropertyName] (by decide)
      (by decide) arranged.shape
  rw [assemble, below]
  exact Settles.bind (one.key (by decide)) fun _ => .key

theorem denoting_computedPropertyName : Denoting refused .computedPropertyName .key := by
  intro place stop children arranged
  obtain ⟨key, _, below, one, rfl⟩ := arranged.shape
  rw [assemble, below]
  exact Settles.bind (one.expr (by decide)) fun _ => .key

theorem denoting_shorthandProperty : Denoting refused .shorthandProperty .property := by
  intro place stop children arranged
  obtain ⟨name, _, below, _, rfl⟩ := arranged.shape
  rw [assemble, below]
  exact .property

theorem denoting_keyValueProperty : Denoting refused .keyValueProperty .property := by
  intro place stop children arranged
  obtain ⟨key, _, below, first, value, _, rfl, second, rfl⟩ := arranged.shape
  rw [assemble, below]
  refine Settles.bind (first.key (by decide)) fun _ => ?_
  exact Settles.bind (second.expr (by decide)) fun _ => .property

/-- A method has a key, and its body comes last. -/
theorem denoting_methodProperty : Denoting refused .methodProperty .property := by
  intro place stop children arranged
  rw [assemble]
  generalize (children.filter fun child => !child.rule.isNoise) = parts at arranged ⊢
  have sound := arranged.sound
  have keyed : ∃ key ∈ parts, key.rule = .propertyName := by
    obtain ⟨front, _, rfl, _, key, rest, rfl, one, _⟩ :=
      startsWith_of_makes (e := maybe (.call (.keyword .async))) [.keyword .async] (by decide)
        arranged.shape
    exact ⟨key, List.mem_append_right _ List.mem_cons_self, List.mem_singleton.mp one.rule⟩
  have head : (inOrder [maybe (.call (.keyword .async)), .call .propertyName,
      maybe (.call .typeParameters), .call .formalParameters,
        maybe (.call .typeAscription)]).Makes (sounding refused)
          (sounding refused .functionBody (· = [])) parts := arranged.shape
  obtain ⟨front, _, rfl, _, body, _, rfl, last, rfl⟩ :=
    startsWith_of_makes [.keyword .async, .propertyName, .formalParameters] (by decide) head
  dsimp only
  split
  case h_1 key found =>
    refine Settles.bind ((oneOf_of_find sound found).key (by decide)) fun _ => ?_
    exact Settles.bind (settles_assembleFunction sound (last.weaken (by decide))) fun _ => .property
  case h_2 none =>
    obtain ⟨key, inside, same⟩ := keyed
    exact absurd (decide_eq_true same) (List.find?_eq_none.mp none key inside)

theorem denoting_functionExpression : Denoting refused .functionExpression .function := by
  intro place stop children arranged
  rw [assemble]
  generalize (children.filter fun child => !child.rule.isNoise) = parts at arranged ⊢
  have head : (inOrder [maybe (.call (.keyword .async)), .call (.keyword .function),
      maybe (.call .identifier), maybe (.call .typeParameters), .call .formalParameters,
        maybe (.call .typeAscription)]).Makes (sounding refused)
          (sounding refused .functionBody (· = [])) parts := arranged.shape
  have sound := arranged.sound
  obtain ⟨front, _, rfl, _, body, _, rfl, last, rfl⟩ :=
    startsWith_of_makes [.keyword .async, .identifier, .formalParameters] (by decide) head
  exact Settles.bind (settles_assembleFunction sound (last.weaken (by decide))) fun _ => .function

theorem denoting_functionDeclaration : Denoting refused .functionDeclaration .function := by
  intro place stop children arranged
  rw [assemble]
  generalize (children.filter fun child => !child.rule.isNoise) = parts at arranged ⊢
  have head : (inOrder [maybe (.call (.keyword .async)), .call (.keyword .function),
      .call .identifier, maybe (.call .typeParameters), .call .formalParameters,
        maybe (.call .typeAscription)]).Makes (sounding refused)
          (sounding refused .functionBody (· = [])) parts := arranged.shape
  have sound := arranged.sound
  obtain ⟨front, _, rfl, _, body, _, rfl, last, rfl⟩ :=
    startsWith_of_makes [.keyword .async, .identifier, .formalParameters] (by decide) head
  exact Settles.bind (settles_assembleFunction sound (last.weaken (by decide))) fun _ => .function

end Properties

section Patterns

/-- What binds a variable, a pattern or a parameter is listed with whether it is a rest. -/
theorem settles_listedPattern {child : Child}
    (one : child.OneOf refused [.parameter, .identifier, .restElement, .bindingElement]) :
    Settles refused (listedPattern child) := by
  by_cases named : child.rule = .parameter
  · have alone : child.OneOf refused [.parameter] := ⟨List.mem_singleton.mpr named, one.sound⟩
    refine (alone.only .parameter (by decide)).bind fun part covers => ?_
    cases covers
    exact trivial
  · have alone : child.OneOf refused [.identifier, .restElement, .bindingElement] :=
      ⟨(List.mem_cons.mp one.rule).resolve_left named, one.sound⟩
    have value := alone.pattern (by decide)
    refine (alone.read [.pattern, .word] (by decide)).bind fun part ⟨kind, listed, covers⟩ => ?_
    cases covers with
    | pattern | word => exact Settles.bind value fun _ => trivial
    | _ => exact absurd listed (by decide)

/-- The mark of a rest parameter is left out where its target and its initial value are read. -/
theorem denoting_parameter : Denoting refused .parameter .parameter := by
  intro place stop children arranged
  rw [assemble]
  generalize (children.filter fun child => !child.rule.isNoise) = parts at arranged ⊢
  have marked : (maybe (.call Rule.restMarker)).Makes (sounding refused)
      (sounding refused .bindingTarget ((inOrder [maybe (.call .optionalMarker),
        maybe (.call .typeAscription), maybe (.call .initializer)]).Makes (sounding refused)
          (· = []))) parts := arranged.shape
  obtain ⟨marks, _, rfl, all, target, others, rfl, first, rest⟩ :=
    startsWith_of_makes [.restMarker] (by decide) marked
  have initial := (startsWith_of_makes [.initializer] (by decide) rest).all
  have unmarked : ((marks ++ target :: others).filter fun child => child.rule ≠ .restMarker) =
      target :: others := by
    have dropped : (marks.filter fun child => child.rule ≠ .restMarker) = [] :=
      List.filter_eq_nil_iff.mpr fun mark member => by
        simpa using (all mark member).rule
    have kept : ((target :: others).filter fun child => child.rule ≠ .restMarker) =
        target :: others := by
      refine List.filter_eq_self.mpr fun child member => ?_
      have listed : child.rule ∈ Rule.initializer :: Rule.targets := by
        rcases List.mem_cons.mp member with rfl | later
        · exact .tail _ first.rule
        · exact List.mem_singleton.mp (initial child later).rule ▸ List.mem_cons_self
      refine decide_eq_true fun same => ?_
      rw [same] at listed
      exact absurd listed (by decide)
    rw [List.filter_append, dropped, kept, List.nil_append]
  dsimp only
  rw [unmarked]
  exact Settles.bind (settles_assembleElement first initial) fun _ => .parameter

theorem denoting_formalParameters : Denoting refused .formalParameters .parameters := by
  intro place stop children arranged
  have all := (startsWith_of_makes [.parameter] (by decide) arranged.shape).all
  rw [assemble]
  generalize (children.filter fun child => !child.rule.isNoise) = parts at all ⊢
  have each : ∀ child ∈ parts, Settles refused (listedPattern child) := fun child member =>
    settles_listedPattern ((all child member).weaken (by decide))
  rcases parts with _ | ⟨child, _ | ⟨other, others⟩⟩
  · exact .parameters
  · have one := all child List.mem_cons_self
    refine (one.only .parameter (by decide)).bind fun part covers => ?_
    cases covers
    exact Settles.bind (each child List.mem_cons_self) fun _ => .parameters
  · exact Settles.bind (.mapM each) fun _ => .parameters

/-- The parameters of an arrow function are passed on, or are a variable. -/
theorem denoting_arrowParameters : Denoting refused .arrowParameters .parameters := by
  intro place stop children arranged
  rcases arranged.shape with ⟨name, _, below, one, rfl⟩ | ⟨parameters, _, below, one, rfl⟩
  all_goals rw [assemble, below]
  · refine (one.only .word (by decide)).bind fun part covers => ?_
    cases covers
    exact Settles.bind (settles_listedPattern (one.weaken (by decide))) fun _ => .parameters
  · refine (one.only .parameters (by decide)).bind fun part covers => ?_
    cases covers
    exact .parameters

theorem denoting_bindingElement : Denoting refused .bindingElement .pattern := by
  intro place stop children arranged
  obtain ⟨target, others, below, first, rest⟩ := arranged.shape
  have initial : (maybe (.call Rule.initializer)).Makes (sounding refused) (· = []) others := rest
  have all := (startsWith_of_makes [.initializer] (by decide) initial).all
  rw [assemble, below]
  exact Settles.bind (settles_assembleElement first all) fun _ => .pattern

theorem denoting_restElement : Denoting refused .restElement .pattern := by
  intro place stop children arranged
  obtain ⟨target, _, below, one, rfl⟩ := arranged.shape
  rw [assemble, below]
  exact Settles.bind (one.pattern (by decide)) fun _ => .pattern

theorem denoting_shorthandBindingProperty :
    Denoting refused .shorthandBindingProperty .patternProperty := by
  intro place stop children arranged
  obtain ⟨name, others, below, first, rest⟩ := arranged.shape
  have initial : (maybe (.call Rule.initializer)).Makes (sounding refused) (· = []) others := rest
  have all := (startsWith_of_makes [.initializer] (by decide) initial).all
  rw [assemble, below]
  exact Settles.bind (settles_assembleElement (first.weaken (by decide)) all)
    fun _ => .patternProperty

theorem denoting_aliasedBindingProperty :
    Denoting refused .aliasedBindingProperty .patternProperty := by
  intro place stop children arranged
  obtain ⟨key, _, below, first, value, _, rfl, second, rfl⟩ := arranged.shape
  rw [assemble, below]
  refine Settles.bind (first.key (by decide)) fun _ => ?_
  exact Settles.bind (second.pattern (by decide)) fun _ => .patternProperty

theorem denoting_objectPattern : Denoting refused .objectPattern .pattern := by
  intro place stop children arranged
  have all := (startsWith_of_makes Rule.patternProperties (by decide) arranged.shape).all
  rw [assemble]
  refine Settles.bind (.mapM fun child member => ?_) fun _ => .pattern
  have one := all child member
  by_cases rest : child.rule = .restElement
  · have alone : child.OneOf refused [.restElement] := ⟨List.mem_singleton.mpr rest, one.sound⟩
    have value := alone.pattern (by decide)
    refine (alone.only .pattern (by decide)).bind fun part covers => ?_
    cases covers
    exact Settles.bind value fun _ => trivial
  · have alone : child.OneOf refused [.aliasedBindingProperty, .shorthandBindingProperty] :=
      ⟨(List.mem_cons.mp one.rule).resolve_left rest, one.sound⟩
    refine (alone.only .patternProperty (by decide)).bind fun part covers => ?_
    cases covers
    exact trivial

theorem denoting_arrayPattern : Denoting refused .arrayPattern .pattern := by
  intro place stop children arranged
  have all := (startsWith_of_makes [.restElement, .bindingElement] (by decide) arranged.shape).all
  rw [assemble]
  exact Settles.bind (.mapM fun child member =>
    settles_listedPattern ((all child member).weaken (by decide))) fun _ => .pattern

end Patterns

section Statements

theorem denoting_variableDeclarator : Denoting refused .variableDeclarator .declarator := by
  intro place stop children arranged
  obtain ⟨target, others, below, first, rest⟩ := arranged.shape
  have initial : (inOrder [maybe (.call .definiteMarker), maybe (.call .typeAscription),
      maybe (.call Rule.initializer)]).Makes (sounding refused) (· = []) others := rest
  have all := (startsWith_of_makes [.initializer] (by decide) initial).all
  rw [assemble, below]
  refine Settles.bind (first.pattern (by decide)) fun _ => ?_
  refine Settles.bind (.optionMapM fun value found => ?_) fun _ => .declarator
  exact (all value (List.mem_of_mem_head? found)).expr (by decide)

/-- A constant without a value is an early fault. -/
theorem denoting_variableDeclaration : Denoting refused .variableDeclaration .declaration := by
  intro place stop children arranged
  obtain ⟨kind, declared, below, _, rest⟩ := arranged.shape
  have declarators : (separated "," (.call Rule.variableDeclarator)).Makes (sounding refused)
      (· = []) declared := rest
  have all := (startsWith_of_makes [.variableDeclarator] (by decide) declarators).all
  rw [assemble, below]
  refine Settles.bind (Settles.bind (.mapM fun child member => ?_) fun _ => trivial)
    fun _ => .declaration
  refine ((all child member).only .declarator (by decide)).bind fun part covers => ?_
  cases covers with
  | @declarator declarator =>
    obtain ⟨target, _ | value⟩ := declarator
    · have checked (isConst : Prop) [Decidable isConst] : Settles refused
          (if isConst then throw ⟨.missingInitializer, spanOf child.1⟩
            else return Declarator.mk target none) := by
        split
        · exact .early rfl
        · exact trivial
      exact checked _
    · exact trivial

theorem denoting_forInit : Denoting refused .forInit .loopStart := by
  intro place stop children arranged
  rcases arranged.shape with ⟨child, _, below, one, rfl⟩ | ⟨child, _, below, one, rfl⟩
  all_goals
    have same := List.mem_singleton.mp one.rule
    rw [assemble, below]
    dsimp only
    rw [same]
  · exact Settles.bind (one.declaration (by decide)) fun _ => .loopStart
  · exact Settles.bind (one.expr (by decide)) fun _ => .loopStart

/-- The statements of a case come after its value, if it has one. -/
theorem settles_assembleCase (arranged : Arranged refused .switchCase parts) :
    Settles refused (assembleCase parts) := by
  have body {list : List Child} (many : (many (.call Rule.statement)).Makes (sounding refused)
      (· = []) list) : ∀ child ∈ list, child.OneOf refused Rule.statements :=
    (startsWith_of_makes Rule.statements (by decide) many).all
  rcases arranged.shape with ⟨test, others, rfl, one, rest⟩ | rest
  · rw [assembleCase, if_pos (List.mem_singleton.mp one.rule)]
    refine Settles.bind (one.expr (by decide)) fun _ => ?_
    exact Settles.bind (.mapM fun child member => (body rest child member).statement? (by decide))
      fun _ => trivial
  · have all := body rest
    rcases parts with _ | ⟨child, others⟩
    · exact trivial
    · have distinct : child.rule ≠ .expression := by
        intro same
        have listed := (all child List.mem_cons_self).rule
        rw [same] at listed
        exact absurd listed (by decide)
      rw [assembleCase, if_neg distinct]
      exact Settles.bind (.mapM fun child member => (all child member).statement? (by decide))
        fun _ => trivial

theorem denoting_switchCase : Denoting refused .switchCase .switchCase := by
  intro place stop children arranged
  rw [assemble]
  exact Settles.bind (settles_assembleCase arranged) fun _ => .switchCase

theorem denoting_catchClause : Denoting refused .catchClause .handler := by
  intro place stop children arranged
  rcases arranged.shape with ⟨body, _, below, one, rfl⟩ | ⟨parameter, rest, below, first, later⟩
  · rw [assemble, below]
    exact Settles.bind (one.statements (by decide)) fun _ => .handler
  · obtain ⟨body, _, rfl, second, rfl⟩ := next_of_marks later (by decide)
    rw [assemble, below]
    refine Settles.bind (first.pattern (by decide)) fun _ => ?_
    exact Settles.bind (second.statements (by decide)) fun _ => .handler

theorem denoting_finallyClause : Denoting refused .finallyClause .statements := by
  intro place stop children arranged
  obtain ⟨body, _, below, one, rfl⟩ := arranged.shape
  rw [assemble, below]
  exact Settles.bind (one.statements (by decide)) fun _ => .statements

theorem denoting_functionBody : Denoting refused .functionBody .statements := by
  intro place stop children arranged
  have all := (startsWith_of_makes Rule.statements (by decide) arranged.shape).all
  rw [assemble]
  exact Settles.bind (.mapM fun child member => (all child member).statement? (by decide))
    fun _ => .statements

theorem denoting_blockStatement : Denoting refused .blockStatement .statements := by
  intro place stop children arranged
  have all := (startsWith_of_makes Rule.statements (by decide) arranged.shape).all
  rw [assemble]
  exact Settles.bind (.mapM fun child member => (all child member).statement? (by decide))
    fun _ => .statements

theorem denoting_script : Denoting refused .script .statements := by
  intro place stop children arranged
  have all := (startsWith_of_makes Rule.statements (by decide) arranged.shape).all
  rw [assemble]
  exact Settles.bind (.mapM fun child member => (all child member).statement? (by decide))
    fun _ => .statements

end Statements

section Modules

theorem denoting_defaultImport : Denoting refused .defaultImport .importSpecifiers := by
  intro place stop children arranged
  obtain ⟨name, _, below, _, rfl⟩ := arranged.shape
  rw [assemble, below]
  exact .importSpecifiers

theorem denoting_namespaceImport : Denoting refused .namespaceImport .importSpecifiers := by
  intro place stop children arranged
  obtain ⟨name, _, below, _, rfl⟩ := arranged.shape
  rw [assemble, below]
  exact .importSpecifiers

/-- A specifier has a name besides the mark of a type. -/
theorem denoting_importSpecifier : Denoting refused .importSpecifier .importSpecifiers := by
  intro place stop children arranged
  rw [assemble]
  obtain ⟨front, _, below, _, name, rest, rfl, one, _⟩ :=
    startsWith_of_makes (e := maybe (.call .specifierTypeMarker)) [.specifierTypeMarker] (by decide)
      arranged.shape
  have kept : name ∈ (front ++ name :: rest).filter fun child =>
      child.rule ≠ .specifierTypeMarker := by
    refine List.mem_filter.mpr ⟨List.mem_append_right _ List.mem_cons_self, decide_eq_true ?_⟩
    rw [List.mem_singleton.mp one.rule]
    decide
  rw [below]
  refine Settles.bind ?_ fun _ => .importSpecifiers
  unfold assembleImportSpecifier
  dsimp only
  cases names : (front ++ name :: rest).filter fun child => child.rule ≠ .specifierTypeMarker with
  | nil =>
    rw [names] at kept
    cases kept
  | cons first others =>
    rw [List.getLast?_cons]
    exact trivial

theorem denoting_namedImports : Denoting refused .namedImports .importSpecifiers := by
  intro place stop children arranged
  have all := (startsWith_of_makes [.importSpecifier] (by decide) arranged.shape).all
  rw [assemble]
  refine Settles.bind (.mapM fun child member => ?_) fun _ => .importSpecifiers
  refine ((all child member).only .importSpecifiers (by decide)).bind fun part covers => ?_
  cases covers
  exact trivial

theorem denoting_exportSpecifier : Denoting refused .exportSpecifier .exportSpecifiers := by
  intro place stop children arranged
  obtain ⟨name, others, below, _⟩ := arranged.shape
  rw [assemble, below]
  dsimp only
  rw [List.getLast?_cons]
  exact .exportSpecifiers

theorem denoting_exportClause : Denoting refused .exportClause .exportSpecifiers := by
  intro place stop children arranged
  have all := (startsWith_of_makes [.exportSpecifier] (by decide) arranged.shape).all
  rw [assemble]
  refine Settles.bind (.mapM fun child member => ?_) fun _ => .exportSpecifiers
  refine ((all child member).only .exportSpecifiers (by decide)).bind fun part covers => ?_
  cases covers
  exact trivial

theorem denoting_importDeclaration : Denoting refused .importDeclaration .item := by
  intro place stop children arranged
  have all := (startsWith_of_makes
    [.typeOnlyMarker, .defaultImport, .namespaceImport, .namedImports, .moduleSpecifier]
      (by decide) arranged.shape).all
  rw [assemble]
  refine Settles.bind (Settles.bind (.mapM fun child member => ?_) fun _ => ?_) fun _ => .item
  · have denotes := (all child member).read [.word, .importSpecifiers, .text] (by decide)
    refine denotes.bind fun part _ => ?_
    split <;> exact trivial
  · exact Settles.bind (.mapM_find arranged.sound fun child one => one.textValue (by decide))
      fun _ => trivial

theorem denoting_exportDefault : Denoting refused .exportDefault .item := by
  intro place stop children arranged
  rcases arranged.shape with ⟨value, _, below, one, rfl⟩ | ⟨value, _, below, one, rfl⟩ |
    ⟨value, rest, below, one, ends⟩
  all_goals
    have same := List.mem_singleton.mp one.rule
  · rw [assemble, below]
    refine Settles.bind ?_ fun _ => .item
    rw [assembleExportDefault, same]
    exact trivial
  · rw [assemble, below]
    refine Settles.bind ?_ fun _ => .item
    rw [assembleExportDefault, same]
    exact Settles.bind (one.function (by decide)) fun _ => trivial
  · obtain rfl := next_of_marks ends (by decide)
    rw [assemble, below]
    refine Settles.bind ?_ fun _ => .item
    rw [assembleExportDefault, same]
    exact Settles.bind (one.spannedExpr (by decide)) fun _ => trivial

theorem denoting_exportAssignment : Denoting refused .exportAssignment .item := by
  intro place stop children arranged
  obtain ⟨value, rest, below, one, ends⟩ := arranged.shape
  obtain rfl := next_of_marks ends (by decide)
  rw [assemble, below]
  exact Settles.bind (one.expr (by decide)) fun _ => .item

theorem denoting_exportAll : Denoting refused .exportAll .item := by
  intro place stop children arranged
  rw [assemble]
  exact Settles.bind (.mapM_find arranged.sound fun child one => one.textValue (by decide))
    fun _ => .item

theorem denoting_exportNamed : Denoting refused .exportNamed .item := by
  intro place stop children arranged
  have all := (startsWith_of_makes [.typeOnlyMarker, .exportClause, .moduleSpecifier]
    (by decide) arranged.shape).all
  rw [assemble]
  refine Settles.bind (Settles.bind (.mapM fun child member => ?_) fun _ => ?_) fun _ => .item
  · have denotes := (all child member).read [.word, .exportSpecifiers, .text] (by decide)
    refine denotes.bind fun part _ => ?_
    split <;> exact trivial
  · exact Settles.bind (.mapM_find arranged.sound fun child one => one.textValue (by decide))
      fun _ => trivial

theorem denoting_exportDeclaration : Denoting refused .exportDeclaration .item := by
  intro place stop children arranged
  rcases arranged.shape with ⟨child, _, below, one, rfl⟩ | ⟨child, _, below, one, rfl⟩ |
    ⟨child, _, below, one, rfl⟩
  all_goals
    have same := List.mem_singleton.mp one.rule
    rw [assemble, below]
    refine Settles.bind ?_ fun _ => .item
    rw [assembleExportDeclaration, same]
  · exact Settles.bind (one.declaration (by decide)) fun _ => trivial
  · exact Settles.bind (one.function (by decide)) fun _ => trivial
  · exact trivial

theorem denoting_moduleSource : Denoting refused .moduleSource .items := by
  intro place stop children arranged
  have all := (startsWith_of_makes Rule.items (by decide) arranged.shape).all
  rw [assemble]
  exact Settles.bind (.mapM fun child member => (all child member).item? (by decide))
    fun _ => .items

end Modules

section Whole

/-- A node denotes the statement that is assembled. -/
theorem denoting_statement {rule : Rule}
    (settles : ∀ {parts : List Child} {place : Place} {stop : Nat}, Arranged refused rule parts →
      Settles refused (assembleStatement ⟨rule, place, stop⟩ parts))
    (same : ∀ place stop (children : List Child), assemble ⟨rule, place, stop⟩ children = do
      return .statement (some (← assembleStatement ⟨rule, place, stop⟩
        (children.filter fun child => !child.rule.isNoise)))) :
    Denoting refused rule .statement := by
  intro place stop children arranged
  rw [same]
  exact Settles.bind (settles arranged) fun _ => .statement

/-- A node denotes the expression that is assembled. -/
theorem denoting_expression {rule : Rule}
    (settles : ∀ {parts : List Child} {place : Place} {stop : Nat}, Arranged refused rule parts →
      Settles refused (assembleExpression ⟨rule, place, stop⟩ parts))
    (same : ∀ place stop (children : List Child), assemble ⟨rule, place, stop⟩ children = do
      let (value, span) ← assembleExpression ⟨rule, place, stop⟩
        (children.filter fun child => !child.rule.isNoise)
      return .expression value span) :
    Denoting refused rule .expression := by
  intro place stop children arranged
  rw [same]
  exact Settles.bind (settles arranged) fun _ => .expression

/-- The value of the only node below a node is passed on. -/
theorem denoting_single {rule : Rule} (inner : Rule) (stands : standFor valueKinds [inner] = true)
    (shape : ∀ parts, Arranged refused rule parts →
      ∃ child rest, parts = child :: rest ∧ child.OneOf refused [inner] ∧ rest = [])
    (same : ∀ place stop (children : List Child) child,
      (children.filter fun child => !child.rule.isNoise) = [child] →
        assemble ⟨rule, place, stop⟩ children = do
          let (value, span) ← child.spannedExpr
          return .expression value span) :
    Denoting refused rule .expression := by
  intro place stop children arranged
  obtain ⟨child, _, below, one, rfl⟩ := shape _ arranged
  rw [same place stop children child below]
  exact Settles.bind (one.spannedExpr stands) fun _ => .expression

theorem denoting_variableStatement : Denoting refused .variableStatement .binding := by
  intro place stop children arranged
  rw [assemble]
  refine (settles_variableStatement arranged).bind fun statement made => ?_
  obtain ⟨declaration, rfl⟩ := made
  exact .binding

/-- The nodes of rules that are matched as a whole denote what the rules stand for; only numbers
depend on their text. -/
theorem denotes_atomic {rule : Rule} {kind : PartKind} (known : rule.partKind = some kind)
    (atomic : grammar.kind rule = .atomic) (sized : rule ≠ .number) (place : Place) (stop : Nat)
    (children : List Child) : Delivers refused (assemble ⟨rule, place, stop⟩ children)
      (Covers refused ⟨rule, place, stop⟩ kind) := by
  cases rule with
  | number => exact absurd rfl sized
  | identifier | identifierName | doubleQuoted | singleQuoted | templateChars | declarationKind
    | assignmentOperator | operator =>
    cases known
    exact .word
  | keyword word =>
    cases word with
    | async | await | delete | typeof | void =>
      cases known
      exact .word
    | _ => cases known
  | nullLiteral | booleanLiteral | thisExpression =>
    cases known
    exact .expression
  | reservedWord | typeOperator => cases known
  | _ => cases atomic

/-- The nodes of the other rules denote what the rules stand for. -/
theorem denotingOwn {rule : Rule} (compound : grammar.kind rule ≠ .atomic) :
    DenotingOwn refused rule := by
  cases rule with
  | restMarker | preIncrement | preDecrement | logicalNot | negate | unaryPlus | bitwiseNot
    | postIncrement | postDecrement | typeOnlyMarker | specifierTypeMarker | operator =>
    exact fun _ _ _ _ => .word
  | emptyStatement | breakStatement | continueStatement =>
    exact denoting_statement (fun _ => trivial) fun _ _ _ => rfl
  | typeDeclaration => exact fun _ _ _ _ => .statement
  | templateSubstitution | forTest | forUpdate | optionalBracket | memberBracket
    | parenthesizedExpression =>
    refine denoting_single .expression (by decide) (fun _ arranged => arranged.shape) ?_
    intro place stop children child below
    rw [assemble, below]
    rfl
  | initializer | expression =>
    refine denoting_single .assignmentExpression (by decide) (fun _ arranged => arranged.shape) ?_
    intro place stop children child below
    rw [assemble, below]
    rfl
  | string => exact denoting_string
  | memberDot => exact denoting_memberDot
  | optionalMember => exact denoting_optionalMember
  | moduleSpecifier => exact denoting_moduleSpecifier
  | arguments => exact denoting_arguments
  | optionalCall => exact denoting_optionalCall
  | spreadElement => exact denoting_spreadElement
  | propertyName => exact denoting_propertyName
  | computedPropertyName => exact denoting_computedPropertyName
  | shorthandProperty => exact denoting_shorthandProperty
  | keyValueProperty => exact denoting_keyValueProperty
  | methodProperty => exact denoting_methodProperty
  | functionExpression => exact denoting_functionExpression
  | functionDeclaration => exact denoting_functionDeclaration
  | parameter => exact denoting_parameter
  | formalParameters => exact denoting_formalParameters
  | arrowParameters => exact denoting_arrowParameters
  | bindingElement => exact denoting_bindingElement
  | restElement => exact denoting_restElement
  | shorthandBindingProperty => exact denoting_shorthandBindingProperty
  | aliasedBindingProperty => exact denoting_aliasedBindingProperty
  | objectPattern => exact denoting_objectPattern
  | arrayPattern => exact denoting_arrayPattern
  | variableStatement => exact denoting_variableStatement
  | variableDeclarator => exact denoting_variableDeclarator
  | variableDeclaration => exact denoting_variableDeclaration
  | forInit => exact denoting_forInit
  | switchCase => exact denoting_switchCase
  | catchClause => exact denoting_catchClause
  | finallyClause => exact denoting_finallyClause
  | functionBody => exact denoting_functionBody
  | blockStatement => exact denoting_blockStatement
  | script => exact denoting_script
  | importSpecifier => exact denoting_importSpecifier
  | namedImports => exact denoting_namedImports
  | exportSpecifier => exact denoting_exportSpecifier
  | exportClause => exact denoting_exportClause
  | importDeclaration => exact denoting_importDeclaration
  | exportDefault => exact denoting_exportDefault
  | exportAssignment => exact denoting_exportAssignment
  | exportAll => exact denoting_exportAll
  | exportNamed => exact denoting_exportNamed
  | exportDeclaration => exact denoting_exportDeclaration
  | moduleSource => exact denoting_moduleSource
  | expressionStatement => exact denoting_statement settles_expressionStatement fun _ _ _ => rfl
  | ifStatement => exact denoting_statement settles_ifStatement fun _ _ _ => rfl
  | whileStatement => exact denoting_statement settles_whileStatement fun _ _ _ => rfl
  | forStatement => exact denoting_statement settles_forStatement fun _ _ _ => rfl
  | forInStatement => exact denoting_statement settles_forInStatement fun _ _ _ => rfl
  | forOfStatement => exact denoting_statement settles_forOfStatement fun _ _ _ => rfl
  | switchStatement => exact denoting_statement settles_switchStatement fun _ _ _ => rfl
  | returnStatement => exact denoting_statement settles_returnStatement fun _ _ _ => rfl
  | throwStatement => exact denoting_statement settles_throwStatement fun _ _ _ => rfl
  | tryStatement => exact denoting_statement settles_tryStatement fun _ _ _ => rfl
  | assignmentExpression => exact denoting_expression settles_assignmentExpression fun _ _ _ => rfl
  | arrowFunction => exact denoting_expression settles_arrowFunction fun _ _ _ => rfl
  | conditionalExpression =>
    exact denoting_expression settles_conditionalExpression fun _ _ _ => rfl
  | binaryExpression => exact denoting_expression settles_binaryExpression fun _ _ _ => rfl
  | unaryExpression => exact denoting_expression settles_unaryExpression fun _ _ _ => rfl
  | postfixExpression => exact denoting_expression settles_postfixExpression fun _ _ _ => rfl
  | leftHandSideExpression =>
    exact denoting_expression settles_leftHandSideExpression fun _ _ _ => rfl
  | newExpression => exact denoting_expression settles_newExpression fun _ _ _ => rfl
  | templateLiteral => exact denoting_expression settles_templateLiteral fun _ _ _ => rfl
  | arrayLiteral => exact denoting_expression settles_arrayLiteral fun _ _ _ => rfl
  | objectLiteral => exact denoting_expression settles_objectLiteral fun _ _ _ => rfl
  | defaultImport => exact denoting_defaultImport
  | namespaceImport => exact denoting_namespaceImport
  | keyword | number | nullLiteral | booleanLiteral | thisExpression | identifier | identifierName
    | doubleQuoted | singleQuoted | templateChars | declarationKind | assignmentOperator =>
    exact absurd rfl compound
  | _ => exact trivial

end Whole

end PluginSandbox.Syntax
