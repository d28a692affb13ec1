import PluginSandbox.Plugin.Resolution
import PluginSandbox.Proofs.Lowering.Pieces
import PluginSandbox.Proofs.Script.Constants

/-!
# Import declarations

An import declaration becomes statements that require its module once and take the attributes out
of it that its specifiers ask for. The script of a module runs the statements of each of its import
declarations as one piece, in whatever state it has come to by then.
-/
namespace PluginSandbox.Plugin

open Script Script.Evaluation Syntax

/-- The script of a module contains the statements of each of its import declarations, and the
descriptions of their specifiers are listed. -/
theorem lower_importDeclaration {items : List ModuleItem} {specifiers : List ImportSpecifier}
    {module : String} (source : String)
    (imports : ModuleItem.importDeclaration specifiers module false ∈ items) :
    (∃ front back, (lower source items).statements =
      front ++ awaitInStatements (importStatements specifiers module) ++ back) ∧
    ∀ specifier ∈ specifiers,
      describeSpecifier module false specifier ∈ (lower source items).imports := by
  obtain ⟨loaded, member⟩ := Lowering.piece_mem_pieces source.toList imports 0
  constructor
  · obtain ⟨earlier, later, parts⟩ := List.append_of_mem member
    rw [Lowering.statements_lower, parts, List.flatMap_append, List.flatMap_cons,
      ← List.append_assoc, List.append_assoc]
    exact ⟨_, _, rfl⟩
  · intro specifier asked
    rw [Lowering.imports_lower]
    exact List.mem_flatMap.mpr ⟨_, member, List.mem_map_of_mem asked⟩

/-- The name that a specifier binds, if it does not bring in a type alone. -/
def boundName? : ImportSpecifier → Option String
  | .default name | .whole name => some name
  | .named _ name isTypeOnly => if isTypeOnly then none else some name

/-- The names that specifiers bind, in the order in which they are bound. -/
def boundNames (specifiers : List ImportSpecifier) : List String :=
  specifiers.filterMap boundModule ++ (specifiers.filterMap boundAttribute).map (·.2)

/-- The value that a specifier gives its name, from a module and its properties as code reads
them. -/
def specifiedValue (shown : Value) (part : String → Value) : ImportSpecifier → Value
  | .default _ => part "default"
  | .whole _ => shown
  | .named imported _ _ => part imported

/-- The constants that specifiers declare, in the order in which they are bound. -/
def specifiedConstants (shown : Value) (part : String → Value)
    (specifiers : List ImportSpecifier) : List (String × Value) :=
  (specifiers.filterMap boundModule).map (·, shown) ++
    partsOf part (specifiers.filterMap boundAttribute)

section Specifiers

variable {specifiers : List ImportSpecifier} {module : String} (shown : Value)
  (part : String → Value)

theorem specifiedConstants_names :
    (specifiedConstants shown part specifiers).map (·.1) = boundNames specifiers := by
  simp [specifiedConstants, partsOf, boundNames, Function.comp_def]

theorem mem_specifiedConstants {specifier : ImportSpecifier} {name : String}
    (member : specifier ∈ specifiers) (binds : boundName? specifier = some name) :
    (name, specifiedValue shown part specifier) ∈ specifiedConstants shown part specifiers := by
  rw [specifiedConstants, List.mem_append]
  cases specifier with
  | default other =>
    obtain rfl := Option.some.inj binds
    exact .inr (List.mem_map.mpr
      ⟨("default", other), List.mem_filterMap.mpr ⟨_, member, rfl⟩, rfl⟩)
  | whole other =>
    obtain rfl := Option.some.inj binds
    exact .inl (List.mem_map.mpr ⟨other, List.mem_filterMap.mpr ⟨_, member, rfl⟩, rfl⟩)
  | named imported other isTypeOnly =>
    cases isTypeOnly with
    | true => cases binds
    | false =>
      obtain rfl := Option.some.inj binds
      exact .inr (List.mem_map.mpr
        ⟨(imported, other), List.mem_filterMap.mpr ⟨_, member, rfl⟩, rfl⟩)

/-- A declaration of a whole module binds it first and takes the attributes out of that. -/
theorem importStatements_whole {name : String}
    (whole : specifiers.filterMap boundModule = [name]) :
    importStatements specifiers module = constant (.identifier name) (requireCall module) ::
      if (specifiers.filterMap boundAttribute).isEmpty then []
      else [constant (propertyPattern (specifiers.filterMap boundAttribute))
        (.identifier name)] := by
  have nonempty : specifiers.isEmpty = false := by
    cases specifiers with
    | nil => cases whole
    | cons => rfl
  unfold importStatements
  rw [nonempty, whole]
  simp only [List.getLast?_singleton, List.isEmpty_map, Bool.false_eq_true, if_false]
  split
  · rfl
  · rfl

/-- A declaration of attributes alone takes them out of the required module. -/
theorem importStatements_parts (whole : specifiers.filterMap boundModule = [])
    (parts : specifiers.filterMap boundAttribute ≠ []) :
    importStatements specifiers module =
      [constant (propertyPattern (specifiers.filterMap boundAttribute)) (requireCall module)] := by
  have nonempty : specifiers.isEmpty = false := by
    cases specifiers with
    | nil => cases parts rfl
    | cons => rfl
  unfold importStatements
  rw [nonempty, whole]
  simp only [List.getLast?_nil, List.isEmpty_map, Bool.false_eq_true, if_false,
    List.isEmpty_eq_false_iff.mpr parts]
  rfl

/-- There is nothing to wait for in a pattern of properties. -/
theorem awaitInPattern_propertyPattern (names : List (String × String)) :
    awaitInPattern (propertyPattern names) = propertyPattern names := by
  have properties : awaitInPatternProperties (names.map fun pair =>
        .mk (.fixed pair.1) (.identifier pair.2) (decide (pair.1 = pair.2))) =
      names.map fun pair =>
        .mk (.fixed pair.1) (.identifier pair.2) (decide (pair.1 = pair.2)) := by
    induction names with
    | nil => rfl
    | cons pair rest ih => exact congrArg (_ :: ·) ih
  exact congrArg (Pattern.object · none) properties

end Specifiers

/-- Whether code sees `require` as the function that loads modules through a resolver. -/
def Requires (resolver : Resolver) (context : Context) (heap : Heap) : Prop :=
  ∃ function name properties,
    heap.readName context.environment requireName = .ok function ∧
    heap.objectOf? (heap.unwrap function) =
      some (.function name (.require (.resolver resolver)) properties)

section Running

variable {resolver : Resolver} {context : Context} {module : String} {before opened : State}
  {shown : Value}

/-- A module that is required and waited for is loaded through the resolver. -/
theorem requireCall_runs (bound : Nat) (requires : Requires resolver context before.heap)
    (loads : resolve (Interpreter.within (bound + 1)) resolver module before =
      .done shown opened) :
    (Interpreter.within (bound + 5)).expression (awaitInExpr (requireCall module)) context before =
      .done shown opened := by
  obtain ⟨function, name, properties, reads, loader⟩ := requires
  have callable : before.heap.isCallable function = true := by
    simp [Heap.isCallable, Heap.isFunction, loader, Object.isFunction]
  have read : (Code.tryHeap fun heap => heap.readName context.environment requireName : Eval Value)
      before = .done function before :=
    Code.tryHeap_of_ok reads
  have seen : (Code.readHeap fun heap => heap.objectOf? (heap.unwrap function) : Eval _) before =
      .done (some (.function name (.require (.resolver resolver)) properties)) before :=
    congrArg (Run.done · before) loader
  have calls : (Code.readHeap fun heap => heap.isCallable function : Eval Bool) before =
      .done true before :=
    congrArg (Run.done · before) callable
  have required : callRequire (Interpreter.within (bound + 1)) (.resolver resolver) [.text module]
      before = .done shown opened := by
    change ((resolve (Interpreter.within (bound + 1)) resolver module before).andThen _) = _
    rw [loads]
    rfl
  have called : (Interpreter.within (bound + 2)).call context.realm function .undefined
      [.text module] before = .done shown opened :=
    (Code.bind_of_done seen _).trans required
  have callee : (Interpreter.within (bound + 2)).chain (.identifier requireName) context before =
      .done (.reached .undefined function) before :=
    Code.bind_of_done read _
  have arguments : evaluateItems (Interpreter.within (bound + 2)) context
      [.item (.literal (.text module))] before = .done [.text module] before := rfl
  have link : (Interpreter.within (bound + 3)).chain (requireCall module) context before =
      .done (.reached .undefined shown) opened := by
    refine (Code.bind_of_done callee _).trans ?_
    refine (Code.bind_of_done arguments _).trans ?_
    refine (Code.bind_of_done calls _).trans ?_
    exact Code.bind_of_done called _
  exact Code.bind_of_done link _

/-- A declaration that binds `require` itself does not reach its module: the name is declared before
the module is required. -/
theorem requireCall_shadowed (bound : Nat) {isMutable : Bool}
    (own : before.heap.ownBinding? context.environment requireName = some ⟨none, isMutable⟩) :
    (Interpreter.within (bound + 5)).expression (awaitInExpr (requireCall module)) context before =
      .failed (Heap.uninitialized requireName) before := by
  have unread : before.heap.readName context.environment requireName =
      .error (Heap.uninitialized requireName) := by
    unfold Heap.ownBinding? at own
    rw [Heap.readName, Environment.scopes, Heap.findBinding, own]
  have read : (Code.tryHeap fun heap => heap.readName context.environment requireName : Eval Value)
      before = .failed (Heap.uninitialized requireName) before :=
    Code.tryHeap_of_error unread
  have callee : (Interpreter.within (bound + 2)).chain (.identifier requireName) context before =
      .failed (Heap.uninitialized requireName) before :=
    Code.bind_of_failed read _
  have link : (Interpreter.within (bound + 3)).chain (requireCall module) context before =
      .failed (Heap.uninitialized requireName) before :=
    Code.bind_of_failed callee _
  exact Code.bind_of_failed link _

variable {specifiers : List ImportSpecifier} {part : String → Value}

/-- The attributes of a module become constants. -/
theorem propertyPattern_runs (bound : Nat) {expression : Expr} (names : List (String × String))
    (evaluates : (Interpreter.within (bound + 2)).expression (awaitInExpr expression) context
      before = .done shown opened)
    (object : shown.isNullish = false)
    (reads : ∀ key, opened.heap.read context.realm shown key = .ok (part key)) :
    (Interpreter.within (bound + 3)).statement
        (awaitInStatement (constant (propertyPattern names) expression)) context before =
      .done .normal (bindingConstants context (partsOf part names) opened) := by
  have awaited : awaitInStatement (constant (propertyPattern names) expression) =
      .variables (.mk .const [.mk (awaitInPattern (propertyPattern names))
        (some (awaitInExpr expression))]) := rfl
  rw [awaited, awaitInPattern_propertyPattern]
  exact constant_runs evaluates (bind_propertyPattern bound object reads names)

/-- A declaration that binds no name requires its module, unless it brings in types alone. -/
theorem importStatements_nameless (bound : Nat)
    (requires : (Interpreter.within (bound + 5)).expression (awaitInExpr (requireCall module))
      context before = .done shown opened)
    (nameless : boundNames specifiers = []) :
    ∃ after, runSequence (Interpreter.within (bound + 6)) context
      (awaitInStatements (importStatements specifiers module)) before = .done .normal after := by
  obtain ⟨whole, parts⟩ := List.append_eq_nil_iff.mp nameless
  unfold importStatements
  split
  · exact ⟨opened, runSequence_cons (Code.bind_of_done requires _) []⟩
  · rw [whole, List.map_eq_nil_iff.mp parts]
    exact ⟨before, rfl⟩

/-- The statements of an import declaration declare the constants of its specifiers. -/
theorem importStatements_run (bound : Nat) (requires : Requires resolver context before.heap)
    (loads : resolve (Interpreter.within (bound + 1)) resolver module before =
      .done shown opened)
    (object : shown.isNullish = false)
    (reads : ∀ key, opened.heap.read context.realm shown key = .ok (part key))
    (present : context.environment.innermost.index < opened.heap.scopes.size)
    (single : (specifiers.filterMap boundModule).length ≤ 1) :
    ∃ after, runSequence (Interpreter.within (bound + 6)) context
        (awaitInStatements (importStatements specifiers module)) before = .done .normal after ∧
      (boundNames specifiers ≠ [] →
        after = bindingConstants context (specifiedConstants shown part specifiers) opened) := by
  have required := requireCall_runs bound requires loads
  by_cases nameless : boundNames specifiers = []
  · obtain ⟨after, runs⟩ := importStatements_nameless bound required nameless
    exact ⟨after, runs, fun names => absurd nameless names⟩
  refine ⟨_, ?_, fun _ => rfl⟩
  cases whole : specifiers.filterMap boundModule with
  | nil =>
    have parts : specifiers.filterMap boundAttribute ≠ [] := by
      intro none
      refine nameless ?_
      rw [boundNames, whole, none]
      rfl
    rw [importStatements_parts whole parts, specifiedConstants, whole]
    exact runSequence_cons (propertyPattern_runs (bound + 3) _ required object reads) []
  | cons name others =>
    obtain rfl : others = [] := by
      rw [whole, List.length_cons] at single
      exact List.length_eq_zero_iff.mp (by omega)
    let named := bindingConstants context [(name, shown)] opened
    have first : (Interpreter.within (bound + 6)).statement
        (awaitInStatement (constant (.identifier name) (requireCall module))) context before =
        .done .normal named :=
      constant_runs required rfl
    rw [importStatements_whole whole, specifiedConstants, whole]
    refine (runSequence_cons first _).trans ?_
    split
    case isTrue none =>
      rw [List.isEmpty_iff.mp none]
      rfl
    case isFalse =>
      have own : named.heap.ownBinding? context.environment name = some ⟨some shown, false⟩ :=
        Heap.ownBinding?_bindConstants present (by simp) List.mem_cons_self
      have again : (Code.tryHeap fun heap => heap.readName context.environment name : Eval Value)
          named = .done shown named :=
        Code.tryHeap_of_ok (Heap.readName_of_ownBinding? own)
      have parts (key : String) : named.heap.read context.realm shown key = .ok (part key) :=
        (Heap.read_bindConstants context.realm _ shown key).trans (reads key)
      have evaluates : (Interpreter.within (bound + 5)).expression (awaitInExpr (.identifier name))
          context named = .done shown named := again
      exact runSequence_cons (propertyPattern_runs (bound + 3) _ evaluates object parts) []

end Running

end PluginSandbox.Plugin
