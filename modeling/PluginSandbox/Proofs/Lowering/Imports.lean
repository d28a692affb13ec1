import PluginSandbox.Proofs.Lowering.Gathering
import PluginSandbox.Proofs.Lowering.Pieces
import PluginSandbox.Proofs.Resolution.Declarations
import PluginSandbox.Proofs.Syntax.ImportClauses

/-!
# Imported modules in the script

The script of a module requires modules in the order of its items: each import declaration that
binds a value or nothing at all requires its module once, and so does each export from another
module. What an import declaration binds are constants, one for every specifier that names a value,
and they come out of the one module that it requires. Every specifier is described, in order.
-/
namespace PluginSandbox.Plugin

open Script.Evaluation Syntax

/-! ## Modules that code requires -/

/-- The text that an expression is, if it is a fixed one. -/
def fixedText : Expr → Option String
  | .literal (.text value) => some value
  | _ => none

/-- The module that the arguments of a call name, if they are one fixed text. -/
def namedModule : List Element → Option String
  | [.item value] => fixedText value
  | _ => none

/-- A call of `require` shows the module that it names; nothing else shows anything. -/
def requiredModule : Expr → List (Option String)
  | .call (.identifier name) arguments _ =>
    if name = requireName then [namedModule arguments] else []
  | _ => []

theorem fixedText_awaitInExpr (e : Expr) : fixedText (awaitInExpr e) = fixedText e := by
  cases e with
  | call callee arguments optional =>
    rw [awaitInExpr, awaited]
    split <;> rfl
  | await operand =>
    obtain ⟨rewritten, same⟩ := awaitInExpr_await_eq operand
    rw [same]
    rfl
  | _ => rfl

theorem namedModule_awaitInElements (arguments : List Element) :
    namedModule (awaitInElements arguments) = namedModule arguments := by
  match arguments with
  | [] => rfl
  | [.spread source] | .spread source :: _ :: _ => rfl
  | [.item value] => exact fixedText_awaitInExpr value
  | .item value :: .item _ :: _ | .item value :: .spread _ :: _ => rfl

/-- Awaiting does not change which modules are required. -/
theorem overlooks_requiredModule : Overlooks requiredModule where
  await _ := rfl
  call callee arguments optional := by
    cases callee with
    | identifier name => rw [awaitInExpr, requiredModule, namedModule_awaitInElements]; rfl
    | call callee arguments optional => rw [awaitInExpr, awaited]; split <;> rfl
    | await operand =>
      obtain ⟨rewritten, same⟩ := awaitInExpr_await_eq operand
      rw [same]
      rfl
    | _ => rfl
  other e noCall := by
    cases e with
    | call callee arguments optional => exact absurd rfl (noCall callee arguments optional)
    | await operand =>
      obtain ⟨rewritten, same⟩ := awaitInExpr_await_eq operand
      rw [same]
      rfl
    | _ => rfl

/-- The modules that statements require, in the order of the text. -/
def requiredIn (statements : List Statement) : List (Option String) :=
  gatherStatements requiredModule statements

/-- Whether a specifier names a value. -/
def bindsValue (specifier : ImportSpecifier) : Bool :=
  (boundModule specifier).isSome || (boundAttribute specifier).isSome

/-- The modules that an item loads by what it imports or exports. -/
def loadedBy : ModuleItem → List String
  | .importDeclaration specifiers module isTypeOnly =>
    if isTypeOnly then []
    else if specifiers.isEmpty || specifiers.any bindsValue then [module] else []
  | .exportList _ (some module) false | .exportAll _ module => [module]
  | _ => []

/-- The modules that the code of an item requires by itself. -/
def requiredBy : ModuleItem → List (Option String)
  | .statement statement => gatherStatement requiredModule statement
  | .exportDefault (.expression value) _ => gatherExpr requiredModule value
  | .exportDefault (.function definition) _ | .exportDeclaration (.function definition) =>
    gatherFunction requiredModule definition
  | .exportDeclaration (.variables declaration) => gatherDeclaration requiredModule declaration
  | _ => []

theorem requiredIn_append (front back : List Statement) :
    requiredIn (front ++ back) = requiredIn front ++ requiredIn back := by
  simp only [requiredIn, gatherStatements_eq_flatMap, List.flatMap_append]

theorem requiredIn_flatMap {α : Type} (parts : List α) (statements : α → List Statement) :
    requiredIn (parts.flatMap statements) =
      parts.flatMap fun part => requiredIn (statements part) := by
  simp only [requiredIn, gatherStatements_eq_flatMap, List.flatMap_assoc]

/-- Statements that require nothing each require nothing together. -/
theorem requiredIn_map {α : Type} {statement : α → Statement} (parts : List α)
    (each : ∀ part, gatherStatement requiredModule (statement part) = []) :
    requiredIn (parts.map statement) = [] := by
  rw [requiredIn, gatherStatements_eq_flatMap, List.flatMap_map]
  exact List.flatMap_eq_nil_iff.mpr fun part _ => each part

/-- An export requires what its value requires. -/
theorem gatherStatement_exportStatement (name : String) (value : Expr) :
    gatherStatement requiredModule (exportStatement name value) =
      gatherExpr requiredModule value := by
  rw [exportStatement, gatherStatement, gatherExpr, exportPlace]
  split <;> rfl

/-- A constant with a simple pattern requires what its value requires. -/
theorem gatherStatement_constant {target : Pattern} (value : Expr)
    (simple : gatherPattern requiredModule target = []) :
    gatherStatement requiredModule (constant target value) = gatherExpr requiredModule value := by
  rw [constant, gatherStatement, gatherDeclaration, gatherDeclarators, simple, gatherDeclarators,
    List.append_nil]
  rfl

theorem gatherPattern_propertyPattern (names : List (String × String)) :
    gatherPattern requiredModule (propertyPattern names) = [] := by
  have properties : gatherPatternProperties requiredModule (names.map fun pair =>
      .mk (.fixed pair.1) (.identifier pair.2) (decide (pair.1 = pair.2))) = [] := by
    induction names with
    | nil => rfl
    | cons pair rest ih => exact ih
  rw [propertyPattern, gatherPattern, properties]
  rfl

/-- A call that loads a module requires it. -/
theorem gatherExpr_requireCall (module : String) :
    gatherExpr requiredModule (requireCall module) = [some module] := rfl

/-- Specifiers name a value if they bind the module or an attribute of it. -/
theorem any_bindsValue (specifiers : List ImportSpecifier) :
    specifiers.any bindsValue =
      (!(specifiers.filterMap boundModule).isEmpty ||
        !(specifiers.filterMap boundAttribute).isEmpty) := by
  induction specifiers with
  | nil => rfl
  | cons specifier rest ih =>
    rw [List.any_cons, ih, bindsValue, List.filterMap_cons, List.filterMap_cons]
    cases boundModule specifier <;> cases boundAttribute specifier <;> simp

/-- An import declaration requires its module once if it binds a value or nothing at all. -/
theorem requiredIn_importStatements (specifiers : List ImportSpecifier) (module : String) :
    requiredIn (importStatements specifiers module) =
      (loadedBy (.importDeclaration specifiers module false)).map some := by
  have parts (value : Expr) : gatherStatement requiredModule
      (constant (propertyPattern (specifiers.filterMap boundAttribute)) value) =
      gatherExpr requiredModule value :=
    gatherStatement_constant value (gatherPattern_propertyPattern _)
  rw [loadedBy, any_bindsValue, importStatements]
  cases empty : specifiers.isEmpty with
  | true => rfl
  | false =>
    simp only [Bool.false_or, List.isEmpty_map, Bool.false_eq_true, if_false]
    cases whole : (specifiers.filterMap boundModule).getLast? with
    | some name =>
      have some : (specifiers.filterMap boundModule).isEmpty = false := by
        cases names : specifiers.filterMap boundModule with
        | nil => rw [names] at whole; cases whole
        | cons => rfl
      simp only [some, Bool.not_false, Bool.true_or, if_true]
      split
      · rfl
      · exact congrArg ([Option.some module] ++ [] ++ · ++ []) (parts (.identifier name))
    | none =>
      have none : (specifiers.filterMap boundModule).isEmpty = true :=
        List.isEmpty_iff.mpr (List.getLast?_eq_none_iff.mp whole)
      simp only [none, Bool.not_true, Bool.false_or]
      cases (specifiers.filterMap boundAttribute).isEmpty with
      | true => rfl
      | false => exact congrArg (· ++ []) (parts (requireCall module))

/-- Specifiers of an export list read what they give out without requiring anything. -/
theorem requiredIn_exportLocal (specifiers : List ExportSpecifier) :
    requiredIn (specifiers.map Lowering.exportLocal) = [] :=
  requiredIn_map specifiers fun _ => gatherStatement_exportStatement _ _

theorem requiredIn_exportFrom (name : String) (specifiers : List ExportSpecifier) :
    requiredIn (specifiers.map (Lowering.exportFrom name)) = [] :=
  requiredIn_map specifiers fun _ => gatherStatement_exportStatement _ _

/-- An exported declaration requires what the declaration requires. -/
theorem requiredIn_exported (statement : Statement) (names : List String) :
    requiredIn (statement :: names.map fun name => exportStatement name (.identifier name)) =
      gatherStatement requiredModule statement := by
  have exports : requiredIn (names.map fun name => exportStatement name (.identifier name)) = [] :=
    requiredIn_map names fun _ => gatherStatement_exportStatement _ _
  rw [requiredIn, gatherStatements, ← requiredIn, exports, List.append_nil]

/-- The piece of an item requires the modules that the item loads or that its code requires. -/
theorem requiredIn_piece (source : List Char) (item : ModuleItem) (loaded : Nat) :
    requiredIn (Lowering.piece source loaded item).body =
        (loadedBy item).map some ++ requiredBy item ∧
      requiredIn (Lowering.piece source loaded item).trailing = [] := by
  have exported (value : Expr) (name : String) : requiredIn [exportStatement name value] =
      gatherExpr requiredModule value :=
    (List.append_nil _).trans (gatherStatement_exportStatement name value)
  cases item with
  | statement statement => exact ⟨List.append_nil _, rfl⟩
  | importDeclaration specifiers module isTypeOnly =>
    cases isTypeOnly with
    | true => exact ⟨rfl, rfl⟩
    | false =>
      have required := requiredIn_importStatements specifiers module
      exact ⟨required.trans (List.append_nil _).symm, rfl⟩
  | exportDefault value span =>
    cases value with
    | expression value => exact ⟨exported value "default", rfl⟩
    | function definition =>
      obtain ⟨name, parameters, rest, body, isAsync, isArrow⟩ := definition
      cases name with
      | none => exact ⟨exported _ "default", rfl⟩
      | some name =>
        have noted := congrArg (gatherStatement requiredModule (.function
          (.mk name parameters rest body isAsync isArrow)) ++ ·)
          (exported (.identifier name) "default")
        exact ⟨noted.trans (List.append_nil _), rfl⟩
  | exportAssignment value span => exact ⟨rfl, rfl⟩
  | exportDeclaration declaration =>
    cases declaration with
    | function definition => exact ⟨requiredIn_exported _ _, rfl⟩
    | «variables» declared => exact ⟨requiredIn_exported _ _, rfl⟩
  | exportList specifiers module isTypeOnly =>
    cases isTypeOnly with
    | true => cases module <;> exact ⟨rfl, rfl⟩
    | false =>
      cases module with
      | none =>
        rw [Lowering.piece, Lowering.item_exportList]
        exact ⟨rfl, requiredIn_exportLocal specifiers⟩
      | some module =>
        rw [Lowering.piece, Lowering.item_exportListFrom]
        exact ⟨congrArg ([some module] ++ ·) (requiredIn_exportFrom _ specifiers), rfl⟩
  | exportAll name module =>
    cases name with
    | some name => exact ⟨exported (requireCall module) name, rfl⟩
    | none => exact ⟨rfl, rfl⟩

/-! ## Constants that come out of a module -/

/-- Where the value of a constant comes from. -/
inductive Origin where
  /-- It is the value of a required module. -/
  | module (name : String)
  /-- It is an attribute of another value. -/
  | attribute (name : String) (whole : Origin)
  deriving DecidableEq, Repr

/-- Constants in order, each with where its value comes from as far as that shows. -/
abbrev Origins := List (String × Option Origin)

/-- Where the value of an expression comes from, among constants that are known. -/
def originOf (known : Origins) : Expr → Option Origin
  | .await (.call (.identifier name) arguments _) =>
    if name = requireName then (namedModule arguments).map .module else none
  | .identifier name => (known.lookup name).join
  | _ => none

/-- The names that a pattern binds, and where their values come from. -/
def originsIn (value : Option Origin) : Pattern → Origins
  | .identifier name => [(name, value)]
  | .object properties none => properties.flatMap fun
    | .mk (.fixed key) (.identifier name) _ => [(name, value.map (.attribute key))]
    | .mk _ pattern _ => pattern.boundNames.map (·, none)
  | pattern => pattern.boundNames.map (·, none)

/-- The constants that variables with initial values are. -/
def constantsOf (known : Origins) : List Declarator → Origins
  | [] => []
  | .mk target initial :: rest =>
    let bound := originsIn (initial.bind (originOf known)) target
    bound ++ constantsOf (bound ++ known) rest

/-- The constants that statements declare. -/
def constantsIn (known : Origins) : List Statement → Origins
  | [] => []
  | .variables (.mk .const declarators) :: rest =>
    let bound := constantsOf known declarators
    bound ++ constantsIn (bound ++ known) rest
  | _ :: rest => constantsIn known rest

/-- The constant that a specifier asks for, if it names a value. -/
def askedConstant (module : String) : ImportSpecifier → Option (String × Option Origin)
  | .default name => some (name, some (.attribute "default" (.module module)))
  | .whole name => some (name, some (.module module))
  | .named imported name isTypeOnly =>
    if isTypeOnly then none else some (name, some (.attribute imported (.module module)))

theorem constantsIn_constant (known : Origins) (target : Pattern) (value : Expr)
    (rest : List Statement) :
    constantsIn known (constant target value :: rest) =
      originsIn (originOf known value) target ++
        constantsIn (originsIn (originOf known value) target ++ known) rest := by
  simp [constant, constantsIn, constantsOf]

theorem originsIn_propertyPattern (value : Origin) (names : List (String × String)) :
    originsIn (some value) (propertyPattern names) =
      names.map fun pair => (pair.2, some (.attribute pair.1 value)) := by
  induction names with
  | nil => rfl
  | cons pair rest ih => exact congrArg (_ :: ·) ih

/-- The constants of a module that a declaration binds, the whole module before its attributes. -/
def boundConstants (specifiers : List ImportSpecifier) (module : String) : Origins :=
  (specifiers.filterMap boundModule).map (·, some (.module module)) ++
    (specifiers.filterMap boundAttribute).map fun pair =>
      (pair.2, some (.attribute pair.1 (.module module)))

/-- These are the constants that its specifiers ask for. -/
theorem boundConstants_perm (specifiers : List ImportSpecifier) (module : String) :
    (boundConstants specifiers module).Perm (specifiers.filterMap (askedConstant module)) := by
  induction specifiers with
  | nil => exact .refl _
  | cons specifier rest ih =>
    cases specifier with
    | default name => exact List.perm_middle.trans (ih.cons _)
    | whole name => exact ih.cons _
    | named imported name isTypeOnly =>
      cases isTypeOnly with
      | true => exact ih
      | false => exact List.perm_middle.trans (ih.cons _)

/-- What an awaited call of `require` comes to is the module that it names. -/
theorem originOf_requireCall (known : Origins) (module : String) :
    originOf known (awaitInExpr (requireCall module)) = some (.module module) := rfl

/-- The constants of a declaration of attributes, from an expression that comes to a module. -/
theorem constantsIn_parts (known : Origins) {module : String} {value : Expr}
    (comes : originOf known (awaitInExpr value) = some (.module module))
    (names : List (String × String)) :
    constantsIn known (awaitInStatements [constant (propertyPattern names) value]) =
      names.map fun pair => (pair.2, some (.attribute pair.1 (.module module))) := by
  have awaited : awaitInStatements [constant (propertyPattern names) value] =
      [constant (awaitInPattern (propertyPattern names)) (awaitInExpr value)] := rfl
  rw [awaited, awaitInPattern_propertyPattern, constantsIn_constant, comes,
    originsIn_propertyPattern]
  exact List.append_nil _

theorem length_boundModule (specifiers : List ImportSpecifier) :
    (specifiers.filterMap boundModule).length = countWholes specifiers := by
  rw [List.length_filterMap_eq_countP, countWholes]
  congr 1
  funext specifier
  cases specifier <;> rfl

/-- The statements of a declaration that names the whole module at most once bind its constants. -/
theorem constantsIn_importStatements {specifiers : List ImportSpecifier} (module : String)
    (single : countWholes specifiers ≤ 1) :
    constantsIn [] (awaitInStatements (importStatements specifiers module)) =
      boundConstants specifiers module := by
  rw [← length_boundModule] at single
  rw [boundConstants]
  cases whole : specifiers.filterMap boundModule with
  | nil =>
    by_cases parts : specifiers.filterMap boundAttribute = []
    · unfold importStatements
      rw [whole, parts]
      split <;> rfl
    · rw [importStatements_parts whole parts]
      exact constantsIn_parts [] (originOf_requireCall [] module) _
  | cons name others =>
    obtain rfl : others = [] := by
      rw [whole, List.length_cons] at single
      exact List.length_eq_zero_iff.mp (by omega)
    have named := constantsIn_constant [] (.identifier name) (awaitInExpr (requireCall module))
    rw [originOf_requireCall] at named
    rw [importStatements_whole whole]
    refine (named _).trans (congrArg (_ :: ·) ?_)
    split
    case isTrue none =>
      rw [List.isEmpty_iff.mp none]
      rfl
    case isFalse =>
      refine constantsIn_parts _ ?_ _
      simp [awaitInExpr, originOf, originsIn]

/-! ## Descriptions -/

/-- The name that a specifier asks for. -/
def askedName : ImportSpecifier → String
  | .default name | .whole name | .named _ name _ => name

/-- The attribute that a specifier asks for, if it does not ask for the whole module. -/
def askedAttribute : ImportSpecifier → Option String
  | .default _ => some "default"
  | .whole _ => none
  | .named imported _ _ => some imported

/-- Whether a specifier asks for a type alone. -/
def asksType : ImportSpecifier → Bool
  | .default _ | .whole _ => false
  | .named _ _ isTypeOnly => isTypeOnly

/-- Whether a description says what a specifier of a declaration asks for. -/
structure Describes (module : String) (isTypeOnly : Bool) (specifier : ImportSpecifier)
    (description : Import) : Prop where
  /-- It names the module of the declaration. -/
  module : description.module = module
  /-- It has the name that the specifier asks for. -/
  localName : description.localName = askedName specifier
  /-- It asks for the same attribute. -/
  requestedAttribute? : description.requestedAttribute? = askedAttribute specifier
  /-- It brings in a type alone if the declaration or the specifier does. -/
  isTypeOnly : description.isTypeOnly = (isTypeOnly || asksType specifier)

/-- An import that is bound to another name has that name. -/
theorem localName_withAlias (statement : Import) (other : String) :
    (statement.withAlias other).localName = other := by
  rw [Import.localName, Import.withAlias]
  split
  case isTrue same => exact same.symm
  case isFalse => rfl

theorem describes_describeSpecifier (module : String) (isTypeOnly : Bool)
    (specifier : ImportSpecifier) :
    Describes module isTypeOnly specifier (describeSpecifier module isTypeOnly specifier) := by
  cases specifier with
  | default name => exact ⟨rfl, rfl, rfl, (Bool.or_false _).symm⟩
  | whole name => exact ⟨rfl, rfl, rfl, (Bool.or_false _).symm⟩
  | named imported name isType => exact ⟨rfl, localName_withAlias _ name, rfl, rfl⟩

/-- What an import declaration becomes. -/
structure ImportLowered (specifiers : List ImportSpecifier) (module : String) (isTypeOnly : Bool)
    (statements : List Statement) (imports : List Import) : Prop where
  /-- The constants are those that the specifiers ask for, each once. -/
  binds : (constantsIn [] statements).Perm
    (if isTypeOnly then [] else specifiers.filterMap (askedConstant module))
  /-- Every specifier is described, in order. -/
  describes : List.Forall₂ (Describes module isTypeOnly) specifiers imports

/-- What an item of a module becomes: statements of the script and descriptions of imports. -/
structure ItemLowered (item : ModuleItem) (piece : List Statement × List Import) : Prop where
  /-- The statements require what the item loads, each once, and what its own code requires. -/
  requires : requiredIn piece.1 = (loadedBy item).map some ++ requiredBy item
  /-- An import declaration binds and describes its specifiers. -/
  imports : ∀ specifiers module isTypeOnly,
    item = .importDeclaration specifiers module isTypeOnly →
      ImportLowered specifiers module isTypeOnly piece.1 piece.2

theorem itemLowered_piece (source : List Char) {item : ModuleItem}
    (single : ∀ specifiers module isTypeOnly,
      item = .importDeclaration specifiers module isTypeOnly → countWholes specifiers ≤ 1)
    (loaded : Nat) :
    ItemLowered item (awaitInStatements (Lowering.piece source loaded item).body,
      (Lowering.piece source loaded item).imports) where
  requires := (overlooks_requiredModule.statements _).trans (requiredIn_piece source item loaded).1
  imports specifiers module isTypeOnly same := by
    have once := single specifiers module isTypeOnly same
    subst same
    have described : List.Forall₂ (Describes module isTypeOnly) specifiers
        (specifiers.map (describeSpecifier module isTypeOnly)) :=
      List.forall₂_map_right_iff.mpr
        (List.forall₂_same.mpr fun specifier _ => describes_describeSpecifier _ _ specifier)
    cases isTypeOnly with
    | true => exact ⟨.refl _, described⟩
    | false =>
      refine ⟨?_, described⟩
      exact (constantsIn_importStatements module once).symm ▸ boundConstants_perm specifiers module

/-- The script of a parsed module requires what its items load, in their order and each once, beside
what their own code requires. Item by item, an import declaration binds the constants that its
specifiers ask for, out of the one module that it requires, and describes every specifier. -/
theorem imports_lowered {source : String} {items : List ModuleItem}
    (parsed : parseModule source = .ok items) :
    let lowered := lower source items
    requiredIn lowered.statements =
      items.flatMap (fun item => (loadedBy item).map some ++ requiredBy item) ∧
    ∃ pieces trailing, List.Forall₂ ItemLowered items pieces ∧
      lowered.statements = pieces.flatMap (·.1) ++ trailing ∧ requiredIn trailing = [] ∧
      lowered.imports = pieces.flatMap (·.2) := by
  intro lowered
  let parts := Lowering.pieces source.toList 0 items
  let pieces := parts.map fun part => (awaitInStatements part.body, part.imports)
  let trailing := awaitInStatements (parts.flatMap Lowering.trailing)
  have each : List.Forall₂ ItemLowered items pieces := by
    refine List.forall₂_map_right_iff.mpr
      (Lowering.forall₂_pieces _ _ (fun item member loaded => ?_) 0)
    refine itemLowered_piece source.toList (fun specifiers module isTypeOnly same => ?_) loaded
    exact countWholes_importDeclaration parsed (same ▸ member)
  have whole : lowered.statements = pieces.flatMap (·.1) ++ trailing := by
    rw [Lowering.statements_lower, List.flatMap_map]
  have nothing : requiredIn trailing = [] :=
    calc requiredIn trailing
        = parts.flatMap fun part => requiredIn part.trailing :=
          (overlooks_requiredModule.statements _).trans (requiredIn_flatMap _ _)
      _ = items.flatMap fun _ => [] :=
          Lowering.flatMap_eq_of_forall₂ (Lowering.forall₂_pieces source.toList items
            (fun item _ loaded => (requiredIn_piece source.toList item loaded).2) 0)
      _ = [] := List.flatMap_eq_nil_iff.mpr fun _ _ => rfl
  refine ⟨?_, pieces, trailing, each, whole, nothing, ?_⟩
  · rw [whole, requiredIn_append, requiredIn_flatMap, nothing, List.append_nil]
    exact Lowering.flatMap_eq_of_forall₂ (each.imp fun _ _ lowers => lowers.requires)
  · rw [List.flatMap_map]
    exact Lowering.imports_lower source items

/-- A module with an import declaration of all kinds of specifiers, an export from another module
and a call of `require`. -/
def mixedImports : String :=
  "import d, { a as b, type T } from 'm'; export * from 'n'; require('o');"

/-- Each of the three modules is required once. -/
theorem imports_lowered_mixed : ∃ items, parseModule mixedImports = .ok items ∧
    requiredIn (lower mixedImports items).statements = [some "m", some "n", some "o"] := by
  have parses : (parseModule mixedImports).toOption.map (fun items =>
      items.flatMap fun item => (loadedBy item).map some ++ requiredBy item) =
      some [some "m", some "n", some "o"] := by
    decide +kernel
  cases parsed : parseModule mixedImports with
  | error problem =>
    rw [parsed] at parses
    cases parses
  | ok items =>
    rw [parsed] at parses
    exact ⟨items, rfl, (imports_lowered parsed).1.trans (Option.some.inj parses)⟩

end PluginSandbox.Plugin
