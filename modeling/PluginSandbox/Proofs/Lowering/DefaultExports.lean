import PluginSandbox.Plugin.Transpilation
import PluginSandbox.Proofs.Lowering.Gathering
import PluginSandbox.Proofs.Lowering.Pieces

/-!
# The default export

A module exports a default value in several forms. Each of them becomes an assignment in the script,
and all but the export of a whole module under the name note a text. The text that is kept is the
last one in the order of the source, while the assignments of export lists run after all others; so
the text describes the value that is assigned last if no other form comes after an export list.
-/
namespace PluginSandbox.Plugin

open Syntax

/-- The ways in which an item gives out a default value. -/
inductive DefaultForm where
  /-- An expression, with the part of the source that the export spans. -/
  | expression (value : Expr) (span : Span)
  /-- A function, with the part of the source that it spans. -/
  | function (definition : Function) (span : Span)
  /-- A variable of the module, in an export list. -/
  | variable (name : String)
  /-- An attribute of another module, in an export list. -/
  | attribute (module name : String)
  /-- Another module as a whole. -/
  | whole (module : String)
  /-- A declaration of the name itself. -/
  | declaration

namespace DefaultForm

/-- The text that a form notes, if it notes any. -/
def text (source : List Char) : DefaultForm → Option String
  | .expression _ span | .function _ span =>
    some (Text.trim (String.ofList (Text.slice span.start span.stop source)))
  | .variable name => some name
  | .attribute module name => some (module ++ "." ++ name)
  | .whole _ | .declaration => none

/-- Whether the assignment of a form runs after all other statements. -/
def isPostponed : DefaultForm → Bool
  | .variable _ => true
  | _ => false

/-- Whether a form assigns a value. -/
inductive Assigns : DefaultForm → Expr → Prop where
  | expression {value span} : Assigns (.expression value span) (awaitInExpr value)
  | function {definition span} (unnamed : definition.name = none) :
    Assigns (.function definition span) (.function (awaitInFunction definition))
  | named {definition span name} (named : definition.name = some name) :
    Assigns (.function definition span) (.identifier name)
  | variable {name} : Assigns (.variable name) (.identifier name)
  | attribute {module name} (reexport : String) :
    Assigns (.attribute module name) (propertyOf (.identifier reexport) name)
  | whole {module} : Assigns (.whole module) (awaitInExpr (requireCall module))
  | declaration : Assigns .declaration (.identifier "default")

end DefaultForm

/-- The forms of an export list, where each of them is made in the same way. -/
def listedForms (form : ExportSpecifier → DefaultForm) (specifiers : List ExportSpecifier) :
    List DefaultForm :=
  (specifiers.filter (·.exported = "default")).map form

/-- The forms of a declaration of names. -/
def declaredForms (names : List String) : List DefaultForm :=
  (names.filter (· = "default")).map fun _ => .declaration

/-- The forms in which an item gives out a default value, in the order of the source. -/
def defaultForms : ModuleItem → List DefaultForm
  | .exportDefault (.expression value) span => [.expression value span]
  | .exportDefault (.function definition) span => [.function definition span]
  | .exportList specifiers none false =>
    listedForms (fun specifier => .variable specifier.name) specifiers
  | .exportList specifiers (some module) false =>
    listedForms (fun specifier => .attribute module specifier.name) specifiers
  | .exportAll (some exported) module => if exported = "default" then [.whole module] else []
  | .exportDeclaration (.function definition) => declaredForms definition.name.toList
  | .exportDeclaration (.variables declared) => declaredForms declared.boundNames
  | _ => []

/-- The value that a statement assigns to the default export. -/
def assignedDefault : Statement → Option Expr
  | .expression (.assign .assign (.member (.identifier object) name false) value) =>
    if object = exportsName ∧ name = "default" then some value else none
  | _ => none

/-- The values that statements assign to the default export, in the order in which they run. -/
def assignedDefaults (statements : List Statement) : List Expr :=
  statements.filterMap assignedDefault

/-- An export assigns the default value if it has that name. -/
theorem assignedDefault_exportStatement (name : String) (value : Expr) :
    assignedDefault (awaitInStatement (exportStatement name value)) =
      if name = "default" then some (awaitInExpr value) else none := by
  have simple : awaitInExpr (exportPlace name) = exportPlace name := by
    unfold exportPlace
    split <;> rfl
  rw [exportStatement, awaitInStatement, awaitInExpr, simple]
  unfold exportPlace
  split
  · simp [assignedDefault]
  case isFalse odd =>
    have other : name ≠ "default" := fun same => odd (same ▸ by decide)
    rw [if_neg other]
    rfl

/-- The specifiers of an export list assign the default value as often as they give it out. -/
theorem assignedDefaults_exports {α : Type} (name : α → String) (value : α → Expr)
    (parts : List α) :
    assignedDefaults (awaitInStatements
        (parts.map fun part => exportStatement (name part) (value part))) =
      (parts.filter (name · = "default")).map fun part => awaitInExpr (value part) := by
  rw [awaitInStatements_eq_map, List.map_map, assignedDefaults, List.filterMap_map]
  induction parts with
  | nil => rfl
  | cons part rest ih =>
    have first := assignedDefault_exportStatement (name part) (value part)
    rw [List.filterMap_cons, Function.comp_apply, Function.comp_apply, first, ih]
    by_cases same : name part = "default"
    · simp [same]
    · simp [same]

/-- The statements of an import declaration assign no default value. -/
theorem assignedDefaults_importStatements (specifiers : List ImportSpecifier) (module : String) :
    assignedDefaults (awaitInStatements (importStatements specifiers module)) = [] := by
  unfold importStatements
  split
  · rfl
  · cases (specifiers.filterMap boundModule).getLast? with
    | none =>
      simp only
      split <;> rfl
    | some name =>
      simp only
      split <;> rfl

section Listed

variable {form : ExportSpecifier → DefaultForm} (specifiers : List ExportSpecifier)

theorem filterMap_text_listedForms (source : List Char) (text : ExportSpecifier → String)
    (notes : ∀ specifier, (form specifier).text source = some (text specifier)) :
    (listedForms form specifiers).filterMap (·.text source) =
      specifiers.filterMap (Lowering.notedText text) := by
  rw [listedForms, List.filterMap_map, List.filterMap_filter]
  congr 1
  funext specifier
  rw [Lowering.notedText, Function.comp_apply, notes]
  simp only [decide_eq_true_eq]

theorem filter_listedForms_all {holds : DefaultForm → Bool}
    (all : ∀ specifier, holds (form specifier) = true) :
    (listedForms form specifiers).filter holds = listedForms form specifiers := by
  refine List.filter_eq_self.mpr fun listed member => ?_
  obtain ⟨specifier, _, rfl⟩ := List.mem_map.mp member
  exact all specifier

theorem filter_listedForms_none {holds : DefaultForm → Bool}
    (none : ∀ specifier, holds (form specifier) = false) :
    (listedForms form specifiers).filter holds = [] := by
  refine List.filter_eq_nil_iff.mpr fun listed member => ?_
  obtain ⟨specifier, _, rfl⟩ := List.mem_map.mp member
  rw [none specifier]
  exact Bool.false_ne_true

theorem assigns_listedForms {value : ExportSpecifier → Expr}
    (assigns : ∀ specifier, DefaultForm.Assigns (form specifier) (awaitInExpr (value specifier))) :
    List.Forall₂ DefaultForm.Assigns (listedForms form specifiers)
      (assignedDefaults (awaitInStatements (specifiers.map fun specifier =>
        exportStatement specifier.exported (value specifier)))) := by
  rw [assignedDefaults_exports (·.exported) value, listedForms, List.forall₂_map_left_iff,
    List.forall₂_map_right_iff]
  exact List.forall₂_same.mpr fun specifier _ => assigns specifier

end Listed

/-- A declaration of names notes nothing and assigns the default value if it is one of them. -/
theorem declaredForms_piece (source : List Char) (statement : Statement)
    (assigns : assignedDefault (awaitInStatement statement) = none) (names : List String) :
    let forms := declaredForms names
    forms.filterMap (·.text source) = [] ∧ forms.filter (·.isPostponed) = [] ∧
    List.Forall₂ DefaultForm.Assigns (forms.filter (!·.isPostponed))
      (assignedDefaults (awaitInStatements
        (statement :: names.map fun name => exportStatement name (.identifier name)))) := by
  intro forms
  have shape : ∀ form ∈ forms, form = .declaration := by
    intro form member
    obtain ⟨_, _, rfl⟩ := List.mem_map.mp member
    rfl
  refine ⟨?_, ?_, ?_⟩
  · exact List.filterMap_eq_nil_iff.mpr fun form member => shape form member ▸ rfl
  · exact List.filter_eq_nil_iff.mpr fun form member => shape form member ▸ Bool.false_ne_true
  · have all : forms.filter (!·.isPostponed) = forms :=
      List.filter_eq_self.mpr fun form member => shape form member ▸ rfl
    have exported : assignedDefaults (awaitInStatements
        (statement :: names.map fun name => exportStatement name (.identifier name))) =
        (names.filter (· = "default")).map .identifier := by
      refine (List.filterMap_cons_none assigns).trans ?_
      exact assignedDefaults_exports id .identifier names
    rw [all, exported]
    refine List.forall₂_map_left_iff.mpr (List.forall₂_map_right_iff.mpr ?_)
    refine List.forall₂_same.mpr fun name member => ?_
    obtain rfl := of_decide_eq_true (List.mem_filter.mp member).2
    exact .declaration

/-- What the default forms of an item become in its piece. -/
structure DefaultsLowered (source : List Char) (item : ModuleItem) (piece : Lowering) : Prop where
  /-- The text that the last form notes is noted. -/
  noted : piece.defaultExport = ((defaultForms item).filterMap (·.text source)).getLast?
  /-- The forms that are not postponed assign their values in order; what a statement assigns is its
  own. -/
  prompt : (∃ statement, item = .statement statement) ∨
    List.Forall₂ DefaultForm.Assigns ((defaultForms item).filter (!·.isPostponed))
      (assignedDefaults (awaitInStatements piece.body))
  /-- So do the others, after all other statements. -/
  postponed : List.Forall₂ DefaultForm.Assigns ((defaultForms item).filter (·.isPostponed))
    (assignedDefaults (awaitInStatements piece.trailing))

theorem defaultsLowered_piece (source : List Char) (item : ModuleItem) (loaded : Nat) :
    DefaultsLowered source item (Lowering.piece source loaded item) := by
  cases item with
  | statement statement => exact ⟨rfl, .inl ⟨statement, rfl⟩, .nil⟩
  | importDeclaration specifiers module isTypeOnly =>
    cases isTypeOnly with
    | true => exact ⟨rfl, .inr .nil, .nil⟩
    | false =>
      exact ⟨rfl, .inr (assignedDefaults_importStatements specifiers module ▸ .nil), .nil⟩
  | exportDefault value span =>
    cases value with
    | expression value => exact ⟨rfl, .inr (.cons .expression .nil), .nil⟩
    | function definition =>
      obtain ⟨name, parameters, rest, body, isAsync, isArrow⟩ := definition
      cases name with
      | none => exact ⟨rfl, .inr (.cons (.function rfl) .nil), .nil⟩
      | some name => exact ⟨rfl, .inr (.cons (.named rfl) .nil), .nil⟩
  | exportAssignment value span => exact ⟨rfl, .inr .nil, .nil⟩
  | exportDeclaration declaration =>
    cases declaration with
    | function definition =>
      obtain ⟨noted, postponed, assigned⟩ := declaredForms_piece source
        (.function definition) rfl definition.name.toList
      exact ⟨(congrArg List.getLast? noted).symm, .inr assigned, postponed ▸ .nil⟩
    | «variables» declared =>
      obtain ⟨noted, postponed, assigned⟩ := declaredForms_piece source
        (.variables declared) rfl declared.boundNames
      exact ⟨(congrArg List.getLast? noted).symm, .inr assigned, postponed ▸ .nil⟩
  | exportList specifiers module isTypeOnly =>
    cases isTypeOnly with
    | true => cases module <;> exact ⟨rfl, .inr .nil, .nil⟩
    | false =>
      cases module with
      | none =>
        rw [Lowering.piece, Lowering.item_exportList]
        refine ⟨Option.or_none.trans (congrArg List.getLast? ?_), .inr ?_, ?_⟩
        · exact (filterMap_text_listedForms specifiers source (·.name) fun _ => rfl).symm
        · rw [defaultForms, filter_listedForms_none specifiers fun _ => rfl]
          exact .nil
        · rw [defaultForms, filter_listedForms_all specifiers fun _ => rfl]
          exact assigns_listedForms specifiers fun _ => .variable
      | some module =>
        rw [Lowering.piece, Lowering.item_exportListFrom]
        refine ⟨Option.or_none.trans (congrArg List.getLast? ?_), .inr ?_, ?_⟩
        · exact (filterMap_text_listedForms specifiers source (module ++ "." ++ ·.name)
            fun _ => rfl).symm
        · rw [defaultForms, filter_listedForms_all specifiers fun _ => rfl]
          exact assigns_listedForms specifiers fun _ => .attribute _
        · rw [defaultForms, filter_listedForms_none specifiers fun _ => rfl]
          exact .nil
  | exportAll name module =>
    cases name with
    | some name =>
      by_cases same : name = "default"
      · subst same
        exact ⟨rfl, .inr (.cons .whole .nil), .nil⟩
      · have none : defaultForms (.exportAll (some name) module) = [] := if_neg same
        have assigned : assignedDefaults (awaitInStatements
            [exportStatement name (requireCall module)]) = [] :=
          List.filterMap_cons_none (by rw [assignedDefault_exportStatement, if_neg same])
        refine ⟨none ▸ rfl, .inr (none ▸ ?_), none ▸ .nil⟩
        exact assigned ▸ .nil
    | none => exact ⟨rfl, .inr .nil, .nil⟩

/-- The last text of several lists is the last one of the last list that has any. -/
theorem getLast?_texts (source : List Char) {items : List ModuleItem} {parts : List Lowering}
    (each : List.Forall₂ (fun item part =>
      part.defaultExport = ((defaultForms item).filterMap (·.text source)).getLast?) items parts) :
    (parts.filterMap Lowering.defaultExport).getLast? =
      ((items.flatMap defaultForms).filterMap (·.text source)).getLast? := by
  induction each with
  | nil => rfl
  | @cons item part items parts first _ ih =>
    rw [List.flatMap_cons, List.filterMap_append, List.getLast?_append, ← ih, ← first,
      List.filterMap_cons]
    cases part.defaultExport with
    | none => exact Option.or_none.symm
    | some noted =>
      rw [List.getLast?_cons]
      cases (parts.filterMap Lowering.defaultExport).getLast? <;> rfl

/-- Forms of which none comes after a postponed one run in the order of the source. -/
theorem filter_append_filter {forms : List DefaultForm}
    (ordered : forms.Pairwise fun earlier later => earlier.isPostponed → later.isPostponed) :
    forms.filter (!·.isPostponed) ++ forms.filter (·.isPostponed) = forms := by
  induction ordered with
  | nil => rfl
  | @cons form rest first _ ih =>
    cases postponed : form.isPostponed with
    | false =>
      rw [List.filter_cons_of_pos (by rw [postponed]; rfl),
        List.filter_cons_of_neg (by rw [postponed]; exact Bool.false_ne_true),
        List.cons_append, ih]
    | true =>
      have none : rest.filter (!·.isPostponed) = [] :=
        List.filter_eq_nil_iff.mpr fun later member => by
          rw [first later member postponed]
          exact Bool.false_ne_true
      have all : rest.filter (·.isPostponed) = rest :=
        List.filter_eq_self.mpr fun later member => first later member postponed
      rw [List.filter_cons_of_neg (by rw [postponed]; exact Bool.false_ne_true),
        List.filter_cons_of_pos postponed, none, all, List.nil_append]

/-- What a module that parses is transpiled to. -/
theorem result_transpile {source : String} {items : List ModuleItem}
    (parsed : parseModule source = .ok items) (requireDefault : Bool) :
    (transpile source requireDefault).result =
      if requireDefault && (lower source items).defaultExport.isNone then
        .error .missingDefaultExport
      else .ok (renderBody (lower source items).statements) := by
  unfold transpile
  rw [parsed]

/-- A plugin that needs a default export is refused if no text of one is noted. -/
theorem transpile_missing {source : String} {items : List ModuleItem}
    (parsed : parseModule source = .ok items) :
    (transpile source true).result = .error .missingDefaultExport ↔
      (lower source items).defaultExport = none := by
  rw [result_transpile parsed, Bool.true_and, ← Option.isNone_iff_eq_none]
  cases (lower source items).defaultExport.isNone with
  | true => exact ⟨fun _ => rfl, fun _ => rfl⟩
  | false => exact ⟨nofun, nofun⟩

/-- The last text is that of the last form if every form notes one. -/
theorem getLast?_filterMap {text : DefaultForm → Option String} {forms : List DefaultForm}
    (all : ∀ form ∈ forms, (text form).isSome) :
    (forms.filterMap text).getLast? = forms.getLast?.bind text := by
  rcases List.eq_nil_or_concat forms with rfl | ⟨front, form, rfl⟩
  · rfl
  · obtain ⟨noted, some⟩ := Option.isSome_iff_exists.mp (all form (by simp))
    simp [some]

/-- The text of the default export is the one that the last form in the source notes, and a script
that needs a default export is refused exactly if no form notes any. The forms assign their values
in the order of the source, but those of export lists after all others. So if every form notes a
text, there is one exactly if there is a form; if besides no form comes after one of an export list,
the text is that of the form whose assignment runs last. -/
theorem default_export_noted {source : String} {items : List ModuleItem}
    (parsed : parseModule source = .ok items) :
    let lowered := lower source items
    let text := DefaultForm.text source.toList
    let forms := items.flatMap defaultForms
    let run := forms.filter (!·.isPostponed) ++ forms.filter (·.isPostponed)
    lowered.defaultExport = (forms.filterMap text).getLast? ∧
    ((transpile source true).result = .error .missingDefaultExport ↔ lowered.defaultExport = none) ∧
    (∃ pieces trailing, lowered.statements = pieces.flatten ++ trailing ∧
      List.Forall₂ (fun item piece => (∃ statement, item = .statement statement) ∨
        List.Forall₂ DefaultForm.Assigns ((defaultForms item).filter (!·.isPostponed))
          (assignedDefaults piece)) items pieces ∧
      List.Forall₂ DefaultForm.Assigns (forms.filter (·.isPostponed))
        (assignedDefaults trailing)) ∧
    ((∀ form ∈ forms, (text form).isSome) →
      (lowered.defaultExport.isSome ↔ forms ≠ []) ∧
      (forms.Pairwise (fun earlier later => earlier.isPostponed → later.isPostponed) →
        lowered.defaultExport = run.getLast?.bind text)) := by
  intro lowered text forms run
  let parts := Lowering.pieces source.toList 0 items
  have each : List.Forall₂ (DefaultsLowered source.toList) items parts :=
    Lowering.forall₂_pieces source.toList items
      (fun item _ loaded => defaultsLowered_piece source.toList item loaded) 0
  have last : lowered.defaultExport = (forms.filterMap text).getLast? :=
    (Lowering.defaultExport_lower source items).trans
      (getLast?_texts source.toList (each.imp fun _ _ piece => piece.noted))
  refine ⟨last, transpile_missing parsed, ⟨parts.map fun part => awaitInStatements part.body,
    awaitInStatements (parts.flatMap Lowering.trailing), ?_, ?_, ?_⟩,
    fun all => ⟨?_, fun ordered => ?_⟩⟩
  · rw [← List.flatMap_def]
    exact Lowering.statements_lower source items
  · exact List.forall₂_map_right_iff.mpr (each.imp fun _ _ piece => piece.prompt)
  · have split : assignedDefaults (awaitInStatements (parts.flatMap Lowering.trailing)) =
        parts.flatMap fun part => assignedDefaults (awaitInStatements part.trailing) := by
      simp only [awaitInStatements_eq_map, assignedDefaults, List.map_flatMap,
        List.filterMap_flatMap]
    rw [split, List.filter_flatMap]
    exact List.rel_flatMap each fun _ _ piece => piece.postponed
  · rw [last, List.getLast?_isSome, ne_eq, List.filterMap_eq_nil_iff]
    refine not_congr ⟨fun none => ?_, fun none => none ▸ nofun⟩
    refine List.eq_nil_iff_forall_not_mem.mpr fun form member => ?_
    have some := all form member
    rw [none form member] at some
    cases some
  · rw [last, getLast?_filterMap all, show run = forms from filter_append_filter ordered]

/-- A module that lists its default export before it exports another one. -/
def listedFirst : String :=
  "const a = null; export \x7b a as default \x7d; export default true;"

/-- The text of that module is the one of the second export. -/
theorem default_export_noted_listed : ∃ items, parseModule listedFirst = .ok items ∧
    (lower listedFirst items).defaultExport = some "true" := by
  have notes : (parseModule listedFirst).toOption.map (fun items =>
      ((items.flatMap defaultForms).filterMap (·.text listedFirst.toList)).getLast?) =
      some (some "true") := by
    decide +kernel
  cases parsed : parseModule listedFirst with
  | error problem =>
    rw [parsed] at notes
    cases notes
  | ok items =>
    rw [parsed] at notes
    exact ⟨items, rfl, (default_export_noted parsed).1.trans (Option.some.inj notes)⟩

/-- A module that exports another one as its default value. -/
def wholeAsDefault : String := "export * as default from 'm';"

/-- The text and the values, as they are printed, of the default exports of a module. -/
def defaultsOf (source : String) : Option (Option String × List String) :=
  (parseModule source).toOption.map fun items =>
    ((lower source items).defaultExport,
      (assignedDefaults (lower source items).statements).map (Expr.render 0))

/-- A whole module that is assigned notes no text, and of a list and an expression it is the list
that is assigned last. -/
theorem default_export_differs :
    defaultsOf wholeAsDefault = some (none, ["await require(\"m\")"]) ∧
    defaultsOf listedFirst = some (some "true", ["true", "a"]) := by
  decide +kernel

end PluginSandbox.Plugin
