import PluginSandbox.Proofs.Lowering.DefaultExports
import PluginSandbox.Proofs.Resolution.Declarations
import PluginSandbox.Proofs.Script.Holding

/-!
# Names that lowering introduces

The script of a module declares the object that collects the exports, and a name of its own for
every module that it gives out again. If the module declares none of these names itself, each of
them is declared once, and keeps its value until the script ends.
-/
namespace PluginSandbox.Plugin

open Script Script.Evaluation Syntax

/-- The statements of the body of a module, given those that the module becomes. -/
def bodyStatements (statements : List Statement) : List Statement :=
  .expression (.literal (.text "use strict")) ::
    constant (.identifier exportsName) (.object []) ::
      (statements ++ [.return (some (.identifier exportsName))])

theorem renderAll_append (depth : Nat) (first second : List Statement) :
    Statement.renderAll depth (first ++ second) =
      Statement.renderAll depth first ++ Statement.renderAll depth second := by
  induction first with
  | nil => simp [Statement.renderAll]
  | cons statement rest ih => simp [Statement.renderAll, ih, String.append_assoc]

/-- The body is the text of these statements. -/
theorem renderBody_eq (statements : List Statement) :
    renderBody statements = renderScript (bodyStatements statements) := by
  have first : Statement.render false 0 (.expression (.literal (.text "use strict"))) =
      line 0 "\"use strict\";" := by
    decide +kernel
  have second : Statement.render false 0 (constant (.identifier exportsName) (.object [])) =
      line 0 ("const " ++ exportsName ++ " = \x7b\x7d;") := by
    decide +kernel
  have last : Statement.render false 0 (.return (some (.identifier exportsName))) =
      line 0 ("return " ++ exportsName ++ ";") := by
    decide +kernel
  simp only [renderBody, renderScript, bodyStatements, Statement.renderAll, renderAll_append, first,
    second, last, String.append_assoc, String.append_empty]

/-- The name of a module that a script loads to give it out again, given how many it has loaded. -/
def temporaryName (count : Nat) : String := "__reexport_" ++ toString count

theorem temporaryName_inj {first second : Nat} (same : temporaryName first = temporaryName second) :
    first = second := by
  have digits := congrArg String.toList (String.append_right_inj _ |>.mp same)
  simp only [Nat.toString_eq_repr, Nat.repr_eq_ofList_toDigits, String.toList_ofList] at digits
  rw [← Nat.ofDigitChars_toDigits (b := 10) (n := first) (by decide) (by decide), digits,
    Nat.ofDigitChars_toDigits (by decide) (by decide)]

theorem temporaryName_ne_exportsName (count : Nat) : temporaryName count ≠ exportsName := by
  intro same
  have heads := congrArg (·.toList.head?) same
  simp only [temporaryName, String.toList_append] at heads
  exact absurd (show some '_' = some 'e' from heads) (by decide)

/-- The module that an item loads under a name of its own, if any. -/
def loadedModule? : ModuleItem → Option String
  | .exportList _ module isTypeOnly => if isTypeOnly then none else module
  | .exportAll exported module => if exported.isNone then some module else none
  | _ => none

/-- The names under which items load modules, given how many were loaded before, with the values
that they are given. -/
def loadings : Nat → List ModuleItem → List (String × Expr)
  | _, [] => []
  | loaded, item :: items =>
    match loadedModule? item with
    | some module =>
      (temporaryName (loaded + 1), .await (requireCall module)) :: loadings (loaded + 1) items
    | none => loadings loaded items

/-- The names that lowering introduces, with the values that they are given: the object of the
exports, and the modules that are loaded to be given out again. -/
def introductions (items : List ModuleItem) : List (String × Expr) :=
  (exportsName, .object []) :: loadings 0 items

/-- The names that an item declares in the scope of its module. -/
def ownNames : ModuleItem → List String
  | .statement statement => statement.ownNames
  | .importDeclaration specifiers _ false => boundNames specifiers
  | .exportDefault (.function definition) _ => definition.name.toList
  | .exportDeclaration (.function definition) => definition.name.toList
  | .exportDeclaration (.variables declaration) => declaration.boundNames
  | _ => []

mutual

/-- Waiting for modules does not change what a pattern binds. -/
theorem boundNames_awaitInPattern (pattern : Pattern) :
    (awaitInPattern pattern).boundNames = pattern.boundNames := by
  cases pattern with
  | identifier name => rfl
  | object properties rest =>
    rw [awaitInPattern, Pattern.boundNames, Pattern.boundNames,
      boundNames_awaitInPatternProperties properties, boundNames_awaitInRest rest]
  | array elements rest =>
    rw [awaitInPattern, Pattern.boundNames, Pattern.boundNames,
      boundNames_awaitInPatterns elements, boundNames_awaitInRest rest]
  | withDefault target value => exact boundNames_awaitInPattern target

theorem boundNames_awaitInPatterns (patterns : List Pattern) :
    Pattern.boundNamesOf (awaitInPatterns patterns) = Pattern.boundNamesOf patterns := by
  cases patterns with
  | nil => rfl
  | cons pattern rest =>
    rw [awaitInPatterns, Pattern.boundNamesOf, Pattern.boundNamesOf,
      boundNames_awaitInPattern pattern, boundNames_awaitInPatterns rest]

theorem boundNames_awaitInRest (rest : Option Pattern) :
    Pattern.boundNamesOfRest (awaitInRest rest) = Pattern.boundNamesOfRest rest := by
  cases rest with
  | none => rfl
  | some pattern => exact boundNames_awaitInPattern pattern

theorem boundNames_awaitInPatternProperties (properties : List PatternProperty) :
    PatternProperty.boundNamesOf (awaitInPatternProperties properties) =
      PatternProperty.boundNamesOf properties := by
  cases properties with
  | nil => rfl
  | cons property rest =>
    obtain ⟨key, value, isShorthand⟩ := property
    rw [awaitInPatternProperties, PatternProperty.boundNamesOf, PatternProperty.boundNamesOf,
      boundNames_awaitInPattern value, boundNames_awaitInPatternProperties rest]

end

theorem boundNames_awaitInDeclaration (declaration : VariableDeclaration) :
    (awaitInDeclaration declaration).boundNames = declaration.boundNames := by
  obtain ⟨kind, declarators⟩ := declaration
  rw [awaitInDeclaration, VariableDeclaration.boundNames, VariableDeclaration.boundNames]
  induction declarators with
  | nil => rfl
  | cons declarator rest ih =>
    obtain ⟨target, initial⟩ := declarator
    rw [awaitInDeclarators, List.flatMap_cons, List.flatMap_cons, ih]
    exact congrArg (· ++ _) (boundNames_awaitInPattern target)

/-- Nor what a statement declares. -/
theorem ownNames_awaitInStatement (statement : Statement) :
    (awaitInStatement statement).ownNames = statement.ownNames := by
  cases statement with
  | function definition =>
    obtain ⟨name, parameters, rest, body, isAsync, isArrow⟩ := definition
    cases isAsync <;> rfl
  | «variables» declaration => exact boundNames_awaitInDeclaration declaration
  | «if» test whenTrue whenFalse =>
    have yes := ownNames_awaitInStatement whenTrue
    cases whenFalse with
    | none => exact congrArg (· ++ _) yes
    | some statement => exact congrArg₂ (· ++ ·) yes (ownNames_awaitInStatement statement)
  | «while» test body => exact ownNames_awaitInStatement body
  | _ => rfl

/-- The names that statements declare in the scope that they run in. -/
def declaredNames (statements : List Statement) : List String :=
  statements.flatMap Statement.ownNames

theorem declaredNames_append (first second : List Statement) :
    declaredNames (first ++ second) = declaredNames first ++ declaredNames second :=
  List.flatMap_append

theorem declaredNames_awaitInStatements (statements : List Statement) :
    declaredNames (awaitInStatements statements) = declaredNames statements := by
  induction statements with
  | nil => rfl
  | cons statement rest ih =>
    exact congrArg₂ (· ++ ·) (ownNames_awaitInStatement statement) ih

/-- Statements that export values declare nothing. -/
theorem declaredNames_exports {α : Type} (name : α → String) (value : α → Expr) (items : List α) :
    declaredNames (items.map fun item => exportStatement (name item) (value item)) = [] := by
  induction items with
  | nil => rfl
  | cons item rest ih => exact ih

/-- Whether some statements declare a name once, as a constant with a value. -/
def DeclaresOnce (statements : List Statement) (name : String) (value : Expr) : Prop :=
  ∃ front back, statements = front ++ constant (.identifier name) value :: back ∧
    name ∉ declaredNames front ∧ name ∉ declaredNames back

section Once

variable {statements others : List Statement} {name : String} {value : Expr}

theorem DeclaresOnce.after (once : DeclaresOnce statements name value)
    (other : name ∉ declaredNames others) : DeclaresOnce (others ++ statements) name value := by
  obtain ⟨front, back, rfl, before, behind⟩ := once
  refine ⟨others ++ front, back, (List.append_assoc ..).symm, ?_, behind⟩
  rw [declaredNames_append, List.mem_append, not_or]
  exact ⟨other, before⟩

theorem DeclaresOnce.before (once : DeclaresOnce statements name value)
    (other : name ∉ declaredNames others) : DeclaresOnce (statements ++ others) name value := by
  obtain ⟨front, back, rfl, before, behind⟩ := once
  refine ⟨front, back ++ others, List.append_assoc .., before, ?_⟩
  rw [declaredNames_append, List.mem_append, not_or]
  exact ⟨behind, other⟩

end Once

/-- What an item exports of the names of its own module in a list. -/
def listedExports : ModuleItem → List ExportSpecifier
  | .exportList specifiers none false => specifiers
  | _ => []

namespace Lowering

variable (source : List Char) (loaded : Nat)

/-- What comes after all other statements is the exports of lists of the module itself. -/
theorem piece_trailing (item : ModuleItem) :
    (piece source loaded item).trailing = (listedExports item).map exportLocal := by
  cases item with
  | exportDefault value span => cases value <;> rfl
  | importDeclaration specifiers module isTypeOnly => cases isTypeOnly <;> rfl
  | exportList specifiers module isTypeOnly =>
    cases isTypeOnly with
    | true => cases module <;> rfl
    | false =>
      cases module with
      | none =>
        rw [piece, item_exportList]
        rfl
      | some module =>
        rw [piece, item_exportListFrom]
        rfl
  | exportAll exported module => cases exported <;> rfl
  | _ => rfl

/-- An item that loads a module binds it to the next of the names for that, and declares nothing
else. -/
theorem piece_loads {item : ModuleItem} {module : String}
    (loads : loadedModule? item = some module) :
    (piece source loaded item).loaded = loaded + 1 ∧
    ∃ rest, (piece source loaded item).body =
        constant (.identifier (temporaryName (loaded + 1))) (requireCall module) :: rest ∧
      declaredNames rest = [] := by
  cases item with
  | exportList specifiers listed isTypeOnly =>
    cases isTypeOnly with
    | true => cases loads
    | false =>
      obtain rfl : listed = some module := loads
      rw [piece, item_exportListFrom]
      exact ⟨rfl, _, rfl, declaredNames_exports _ _ specifiers⟩
  | exportAll exported loaded =>
    cases exported with
    | some exported => cases loads
    | none =>
      obtain rfl := Option.some.inj loads
      exact ⟨rfl, _, rfl, rfl⟩
  | _ => cases loads

/-- A pattern of properties binds their names. -/
theorem boundNames_properties (attributes : List (String × String)) :
    PatternProperty.boundNamesOf (attributes.map fun (imported, name) =>
      PatternProperty.mk (.fixed imported) (.identifier name) (imported = name)) =
        attributes.map (·.2) := by
  induction attributes with
  | nil => rfl
  | cons pair rest ih => exact congrArg (pair.2 :: ·) ih

/-- The statements of an import declaration declare what it binds. -/
theorem declaredNames_importStatements (specifiers : List ImportSpecifier) (module : String) :
    ∀ name ∈ declaredNames (importStatements specifiers module), name ∈ boundNames specifiers := by
  have attributes (source : Expr) : declaredNames [constant (.object
      ((specifiers.filterMap boundAttribute).map fun (imported, name) =>
        PatternProperty.mk (.fixed imported) (.identifier name) (imported = name)) none) source] =
      (specifiers.filterMap boundAttribute).map (·.2) := by
    rw [← boundNames_properties]
    simp [declaredNames, constant, Statement.ownNames, VariableDeclaration.boundNames,
      Pattern.boundNames, Pattern.boundNamesOfRest]
  intro name declared
  rw [boundNames, List.mem_append]
  unfold importStatements at declared
  split at declared
  · cases declared
  · cases whole : (specifiers.filterMap boundModule).getLast? with
    | none =>
      simp only [whole] at declared
      split at declared
      · cases declared
      · rw [List.nil_append, attributes] at declared
        exact .inr declared
    | some other =>
      simp only [whole] at declared
      split at declared
      · obtain rfl := List.mem_singleton.mp declared
        exact .inl (List.mem_of_getLast? whole)
      · rw [declaredNames_append, attributes] at declared
        rcases List.mem_append.mp declared with first | later
        · obtain rfl := List.mem_singleton.mp first
          exact .inl (List.mem_of_getLast? whole)
        · exact .inr later

/-- Any other item declares its own names alone. -/
theorem piece_plain {item : ModuleItem} (plain : loadedModule? item = none) :
    (piece source loaded item).loaded = loaded ∧
    ∀ name ∈ declaredNames (piece source loaded item).body, name ∈ ownNames item := by
  have only {statements : List Statement} {own : List String}
      (same : declaredNames statements = own) : ∀ name ∈ declaredNames statements, name ∈ own :=
    fun _ declared => same ▸ declared
  cases item with
  | statement statement =>
    exact ⟨rfl, only (List.append_nil statement.ownNames)⟩
  | importDeclaration specifiers module isTypeOnly =>
    cases isTypeOnly with
    | true => exact ⟨rfl, List.forall_mem_nil _⟩
    | false => exact ⟨rfl, declaredNames_importStatements specifiers module⟩
  | exportDefault value span =>
    cases value with
    | expression value => exact ⟨rfl, List.forall_mem_nil _⟩
    | function definition =>
      obtain ⟨name, parameters, rest, body, isAsync, isArrow⟩ := definition
      cases name <;> exact ⟨rfl, fun _ declared => declared⟩
  | exportAssignment value span => exact ⟨rfl, List.forall_mem_nil _⟩
  | exportDeclaration declaration =>
    have declares (statement : Statement) (names : List String) :
        declaredNames (statement :: names.map fun name => exportStatement name (.identifier name)) =
          statement.ownNames := by
      have exports := declaredNames_exports id Expr.identifier names
      exact (congrArg (statement.ownNames ++ ·) exports).trans (List.append_nil _)
    cases declaration with
    | function definition =>
      exact ⟨rfl, only (declares (.function definition) _)⟩
    | «variables» declaration =>
      exact ⟨rfl, only (declares (.variables declaration) _)⟩
  | exportList specifiers module isTypeOnly =>
    cases isTypeOnly with
    | true => exact ⟨rfl, List.forall_mem_nil _⟩
    | false =>
      cases module with
      | none =>
        rw [piece, item_exportList]
        exact ⟨rfl, List.forall_mem_nil _⟩
      | some module => cases plain
  | exportAll exported module =>
    cases exported with
    | some exported => exact ⟨rfl, List.forall_mem_nil _⟩
    | none => cases plain

/-- The statements of the pieces of a module, without those that come after all others. -/
def bodies (source : List Char) (loaded : Nat) (items : List ModuleItem) : List Statement :=
  (pieces source loaded items).flatMap fun part => awaitInStatements part.body

theorem bodies_cons (source : List Char) (loaded : Nat) (item : ModuleItem)
    (items : List ModuleItem) :
    bodies source loaded (item :: items) =
      awaitInStatements (piece source loaded item).body ++
        bodies source (piece source loaded item).loaded items :=
  rfl

/-- The names of loaded modules are numbered on. -/
theorem temporary_of_loadings {loaded : Nat} {items : List ModuleItem} {name : String}
    (member : name ∈ (loadings loaded items).map Prod.fst) :
    ∃ count, loaded < count ∧ name = temporaryName count := by
  induction items generalizing loaded with
  | nil => cases member
  | cons item rest ih =>
    rw [loadings] at member
    cases loads : loadedModule? item with
    | some module =>
      rw [loads] at member
      rcases List.mem_cons.mp member with rfl | later
      · exact ⟨loaded + 1, Nat.lt_succ_self loaded, rfl⟩
      · obtain ⟨count, more, same⟩ := ih later
        exact ⟨count, Nat.lt_of_succ_lt more, same⟩
    | none =>
      rw [loads] at member
      exact ih member

/-- A module declares its own names and those of the modules that it loads. -/
theorem declaredNames_bodies (source : List Char) {loaded : Nat} {items : List ModuleItem}
    {name : String} (declared : name ∈ declaredNames (bodies source loaded items)) :
    (∃ item ∈ items, name ∈ ownNames item) ∨ name ∈ (loadings loaded items).map Prod.fst := by
  induction items generalizing loaded with
  | nil => cases declared
  | cons item rest ih =>
    rw [bodies_cons, declaredNames_append, List.mem_append, declaredNames_awaitInStatements]
      at declared
    rw [loadings]
    cases loads : loadedModule? item with
    | some module =>
      obtain ⟨next, statements, body, nothing⟩ := piece_loads source loaded loads
      rw [next, body] at declared
      rcases declared with here | later
      · have only : name ∈ temporaryName (loaded + 1) :: declaredNames statements := here
        rw [nothing] at only
        exact .inr (List.mem_cons.mpr (.inl (List.mem_singleton.mp only)))
      · obtain ⟨item, member, own⟩ | introduced := ih later
        · exact .inl ⟨item, .tail _ member, own⟩
        · exact .inr (.tail _ introduced)
    | none =>
      obtain ⟨same, own⟩ := piece_plain source loaded loads
      rw [same] at declared
      rcases declared with here | later
      · exact .inl ⟨item, .head _, own name here⟩
      · obtain ⟨item, member, own⟩ | introduced := ih later
        · exact .inl ⟨item, .tail _ member, own⟩
        · exact .inr introduced

/-- Each module that is loaded under a name of its own is loaded by the one declaration of the name,
unless the module declares it as well. -/
theorem bodies_declareOnce (source : List Char) {loaded : Nat} {items : List ModuleItem}
    {name : String} {value : Expr} (member : (name, value) ∈ loadings loaded items)
    (free : ∀ item ∈ items, name ∉ ownNames item) :
    DeclaresOnce (bodies source loaded items) name value := by
  induction items generalizing loaded with
  | nil => cases member
  | cons item rest ih =>
    have others (item : ModuleItem) (later : item ∈ rest) : name ∉ ownNames item :=
      free item (.tail _ later)
    rw [loadings] at member
    rw [bodies_cons]
    cases loads : loadedModule? item with
    | some module =>
      rw [loads] at member
      obtain ⟨next, statements, body, nothing⟩ := piece_loads source loaded loads
      rw [next, body]
      rcases List.mem_cons.mp member with here | later
      · obtain ⟨rfl, rfl⟩ := Prod.mk.inj here
        refine ⟨[], awaitInStatements statements ++ bodies source (loaded + 1) rest, rfl,
          List.not_mem_nil, ?_⟩
        rw [declaredNames_append, declaredNames_awaitInStatements, nothing, List.nil_append]
        intro again
        obtain ⟨item, later, own⟩ | introduced := declaredNames_bodies source again
        · exact others item later own
        · obtain ⟨count, more, same⟩ := temporary_of_loadings introduced
          exact Nat.ne_of_lt more (temporaryName_inj same)
      · refine (ih later others).after ?_
        rw [declaredNames_awaitInStatements]
        intro here
        have only : name ∈ temporaryName (loaded + 1) :: declaredNames statements := here
        rw [nothing, List.mem_singleton] at only
        obtain ⟨count, more, same⟩ := temporary_of_loadings (List.mem_map_of_mem later)
        exact Nat.ne_of_lt more (temporaryName_inj (only.symm.trans same))
    | none =>
      rw [loads] at member
      obtain ⟨same, own⟩ := piece_plain source loaded loads
      rw [same]
      refine (ih member others).after ?_
      rw [declaredNames_awaitInStatements]
      exact fun declared => free item (.head _) (own name declared)

/-- Nothing in the export of a name waits for a module. -/
theorem awaitInStatement_exportLocal (specifier : ExportSpecifier) :
    awaitInStatement (exportLocal specifier) = exportLocal specifier := by
  unfold exportLocal exportStatement exportPlace
  split <;> rfl

/-- A module becomes the statements of its items, and then the exports of its lists. -/
theorem statements_eq_bodies (source : String) (items : List ModuleItem) :
    (lower source items).statements =
      bodies source.toList 0 items ++ (items.flatMap listedExports).map exportLocal := by
  have trailing (loaded : Nat) : (pieces source.toList loaded items).flatMap Lowering.trailing =
      (items.flatMap listedExports).map exportLocal := by
    induction items generalizing loaded with
    | nil => rfl
    | cons item rest ih =>
      rw [pieces, List.flatMap_cons, List.flatMap_cons, List.map_append, ih,
        piece_trailing source.toList loaded item]
  rw [statements_lower, trailing, awaitInStatements_eq_map, List.map_map]
  exact congrArg (_ ++ ·) (List.map_congr_left fun specifier _ =>
    awaitInStatement_exportLocal specifier)

end Lowering

/-- The body of a module declares each name that lowering introduces once, unless the module
declares it as well. -/
theorem bodyStatements_declareOnce (source : String) {items : List ModuleItem} {name : String}
    {value : Expr} (introduced : (name, value) ∈ introductions items)
    (free : ∀ item ∈ items, name ∉ ownNames item) :
    DeclaresOnce (bodyStatements (lower source items).statements) name value := by
  have trailing : name ∉
      declaredNames ((items.flatMap listedExports).map Lowering.exportLocal) := by
    unfold Lowering.exportLocal
    rw [declaredNames_exports]
    exact List.not_mem_nil
  have last : name ∉ declaredNames [.return (some (.identifier exportsName))] := List.not_mem_nil
  rw [bodyStatements, Lowering.statements_eq_bodies]
  rcases List.mem_cons.mp introduced with here | loading
  · obtain ⟨rfl, rfl⟩ := Prod.mk.inj here
    refine ⟨[.expression (.literal (.text "use strict"))], _, rfl, List.not_mem_nil, ?_⟩
    simp only [declaredNames_append, List.mem_append, not_or]
    refine ⟨⟨fun declared => ?_, trailing⟩, last⟩
    obtain ⟨item, member, own⟩ | again := Lowering.declaredNames_bodies _ declared
    · exact free item member own
    · obtain ⟨count, -, same⟩ := Lowering.temporary_of_loadings again
      exact temporaryName_ne_exportsName count same.symm
  · have first : name ∉ declaredNames [.expression (.literal (.text "use strict")),
        constant (.identifier exportsName) (.object [])] := by
      intro declared
      obtain ⟨count, -, same⟩ := Lowering.temporary_of_loadings (List.mem_map_of_mem loading)
      exact temporaryName_ne_exportsName count
        (same.symm.trans (List.mem_singleton.mp declared))
    exact (((Lowering.bodies_declareOnce source.toList loading free).before trailing).before
      last).after first

/-- If a module declares none of the names that lowering introduces, its body declares each of them
once. From its declaration on the name stands for the value that it was given then, wherever the
body reads it: at every export, and when it returns the exports in the end. Calls, loops and other
code that runs while the body waits do not change that. -/
theorem introduced_names_kept {source body : String} {items : List ModuleItem} {required : Bool}
    (others : State → State → Prop) (parsed : parseModule source = .ok items)
    (transpiled : (transpile source required).result = .ok body)
    (free : ∀ item ∈ items, ∀ name ∈ ownNames item, name ∉ (introductions items).map Prod.fst)
    (spares : SparesConstants others) :
    ∃ statements, body = renderScript statements ∧
      ∀ name value, (name, value) ∈ introductions items →
        ∃ front back, statements = front ++ constant (.identifier name) value :: back ∧
          name ∉ declaredNames front ∧ name ∉ declaredNames back ∧
          ∀ bound context before middle,
            context.environment.innermost.index < before.heap.scopes.size →
            ((Interpreter.within (bound + 2)).statement (constant (.identifier name) value) context
              before).ComesTo others (.ok .normal) middle →
            ∃ given evaluated,
              ((Interpreter.within (bound + 1)).expression value context before).ComesTo others
                (.ok given) evaluated ∧
              ∀ part, part <+: back → ∀ outcome after,
                (runSequence (Interpreter.within (bound + 2)) context part middle).ComesTo others
                  outcome after →
                (Interpreter.within (bound + 1)).expression (.identifier name) context after =
                    .done given after ∧
                  (Interpreter.within (bound + 2)).statement (.return (some (.identifier name)))
                    context after = .done (.returned given) after := by
  have rendered : body = renderScript (bodyStatements (lower source items).statements) := by
    rw [result_transpile parsed] at transpiled
    split at transpiled
    · cases transpiled
    · rw [← renderBody_eq]
      exact (Except.ok.inj transpiled).symm
  refine ⟨_, rendered, fun name value introduced => ?_⟩
  obtain ⟨front, back, split, before, behind⟩ := bodyStatements_declareOnce source introduced
    fun item member own => free item member name own (List.mem_map_of_mem introduced)
  refine ⟨front, back, split, before, behind, fun bound context state middle present comes => ?_⟩
  obtain ⟨given, evaluated, evaluates, holds⟩ := constant_comesTo spares present comes
  refine ⟨given, evaluated, evaluates, fun part ahead outcome after runs => ?_⟩
  have other : name ∉ declaredNames part := by
    obtain ⟨rest, rfl⟩ := ahead
    rw [declaredNames_append, List.mem_append, not_or] at behind
    exact behind.1
  have reads : (Code.tryHeap fun heap => heap.readName context.environment name : Eval Value)
      after = .done given after :=
    Code.tryHeap_of_ok (constant_kept spares other holds runs)
  exact ⟨reads, Code.bind_of_done reads _⟩

/-- A module that gives out what another one exports. -/
def passingOn : String := "export * from 'm'; export default 1;"

/-- A context with a scope of its own, and nothing else. -/
def emptyContext : Context := { realm := ⟨0⟩, environment := ⟨⟨0⟩, []⟩, this := .undefined }

/-- The state in which code begins to run in that context. -/
def emptyState : State := { heap := { scopes := #[{}] } }

/-- The exports of that module are the object that is created first. -/
theorem introduced_names_kept_passingOn :
    ∃ items body statements front back middle, parseModule passingOn = .ok items ∧
      (transpile passingOn true).result = .ok body ∧ body = renderScript statements ∧
      statements = front ++ constant (.identifier exportsName) (.object []) :: back ∧
      exportsName ∉ declaredNames front ∧ exportsName ∉ declaredNames back ∧
      (Interpreter.within 2).statement (constant (.identifier exportsName) (.object []))
        emptyContext emptyState = .done .normal middle ∧
      (Interpreter.within 1).expression (.identifier exportsName) emptyContext middle =
        .done (.object ⟨0⟩) middle := by
  have facts : (parseModule passingOn).toOption.map (fun items =>
      (items.flatMap ownNames, (transpile passingOn true).result.toOption.isSome)) =
      some ([], true) := by
    decide +kernel
  cases parsed : parseModule passingOn with
  | error problem =>
    rw [parsed] at facts
    cases facts
  | ok items =>
    rw [parsed] at facts
    obtain ⟨nothing, transpiles⟩ := Prod.mk.inj (Option.some.inj facts)
    cases transpiled : (transpile passingOn true).result with
    | error problem =>
      rw [transpiled] at transpiles
      cases transpiles
    | ok body =>
      obtain ⟨statements, rendered, kept⟩ := introduced_names_kept
        (fun before after => after = before) parsed transpiled
        (fun item member name own => absurd (List.mem_flatMap.mpr ⟨item, member, own⟩)
          (nothing ▸ List.not_mem_nil))
        (fun same ref constants holds => same ▸ holds)
      obtain ⟨front, back, split, before, behind, runs⟩ := kept exportsName (.object []) (.head _)
      obtain ⟨given, evaluated, ⟨value, -⟩, reads⟩ := runs 0 emptyContext emptyState _
        Nat.zero_lt_one ⟨rfl, rfl⟩
      obtain rfl := Except.ok.inj value
      exact ⟨items, body, statements, front, back, _, rfl, rfl, rendered, split, before, behind,
        rfl, (reads [] List.nil_prefix _ _ ⟨rfl, rfl⟩).1⟩

/-- What the body of a module returns, when it is executed in a new realm with some modules: the
keys of the object, with the kinds of their values. -/
def returnedKinds (modules : List (String × Option HostValue)) (source : String) :
    Option (List (String × String)) :=
  let (realm, heap) := Library.createRealm {}
  match (transpile source true).result with
  | .error _ => none
  | .ok body =>
    match execute (Interpreter.within 12) realm (.table modules) body { heap } with
    | .done value state => some ((state.heap.ownKeys value).map fun key =>
        (key, (state.heap.getOwn? value key).elim "" state.heap.typeOf))
    | _ => none

/-- A module that declares one of the names itself takes its place: the exports are written to its
own object, and the module that is given out stands for its own value. -/
theorem introduced_names_replaced :
    returnedKinds [] "const exports = { a: 1 }; export default 5;" =
      some [("a", "number"), ("default", "number")] ∧
    returnedKinds [("m", some (.object [("x", .number 1)]))]
        "const __reexport_1 = { y: 9 }; export { x } from 'm';
          export default __reexport_1.y;" =
      some [("x", "number"), ("default", "undefined")] := by
  constructor
  · decide +kernel
  · decide +kernel

end PluginSandbox.Plugin
