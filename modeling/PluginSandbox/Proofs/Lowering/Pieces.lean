import Mathlib.Data.List.Forall2
import PluginSandbox.Plugin.Lowering

/-!
# The pieces of a script

Every item of a module adds a piece of its own to the script: statements, statements that come
after all others, descriptions of imports, and perhaps the text of a default export. The piece
depends on the items before it only by how many modules they load under names of their own. The
script is made of the pieces in the order of the items, and the last text is the one that is kept.
-/
namespace PluginSandbox.Plugin

open Syntax

/-- Statements are rewritten one by one. -/
theorem awaitInStatements_eq_map (statements : List Statement) :
    awaitInStatements statements = statements.map awaitInStatement := by
  induction statements with
  | nil => rfl
  | cons statement others ih => rw [awaitInStatements, ih, List.map_cons]

namespace Lowering

/-- What an item adds to a module that has loaded so many modules under names of their own. -/
def piece (source : List Char) (loaded : Nat) (item : ModuleItem) : Lowering :=
  Lowering.item source { loaded } item

/-- The pieces of the items of a module. -/
def pieces (source : List Char) : Nat → List ModuleItem → List Lowering
  | _, [] => []
  | loaded, item :: items =>
    piece source loaded item :: pieces source (piece source loaded item).loaded items

/-- A piece is what was added between two states. -/
structure Follows (before piece after : Lowering) : Prop where
  /-- Statements are added at the end. -/
  body : after.body = before.body ++ piece.body
  /-- So are those that come after all others. -/
  trailing : after.trailing = before.trailing ++ piece.trailing
  /-- So are descriptions. -/
  imports : after.imports = before.imports ++ piece.imports
  /-- A new text of the default export replaces an old one. -/
  defaultExport : after.defaultExport = piece.defaultExport.or before.defaultExport
  /-- Both count the modules that were loaded under names of their own. -/
  loaded : after.loaded = piece.loaded

namespace Follows

variable {before piece after : Lowering}

/-- Nothing was added yet. -/
theorem start (state : Lowering) : Follows state { loaded := state.loaded } state where
  body := (List.append_nil _).symm
  trailing := (List.append_nil _).symm
  imports := (List.append_nil _).symm
  defaultExport := rfl
  loaded := rfl

theorem push (follows : Follows before piece after) (statements : List Statement) :
    Follows before (piece.push statements) (after.push statements) where
  body := by rw [Lowering.push, follows.body, List.append_assoc]; rfl
  trailing := follows.trailing
  imports := follows.imports
  defaultExport := follows.defaultExport
  loaded := follows.loaded

theorem trail (follows : Follows before piece after) (statements : List Statement) :
    Follows before { piece with trailing := piece.trailing ++ statements }
      { after with trailing := after.trailing ++ statements } where
  body := follows.body
  trailing := by rw [follows.trailing, List.append_assoc]
  imports := follows.imports
  defaultExport := follows.defaultExport
  loaded := follows.loaded

theorem describe (follows : Follows before piece after) (imports : List Import) :
    Follows before (piece.describe imports) (after.describe imports) where
  body := follows.body
  trailing := follows.trailing
  imports := by rw [Lowering.describe, follows.imports, List.append_assoc]; rfl
  defaultExport := follows.defaultExport
  loaded := follows.loaded

theorem find (follows : Follows before piece after) (diagnostic : Diagnostic) :
    Follows before (piece.find diagnostic) (after.find diagnostic) :=
  ⟨follows.body, follows.trailing, follows.imports, follows.defaultExport, follows.loaded⟩

theorem noteDefault (follows : Follows before piece after) (source : List Char) (span : Span) :
    Follows before (piece.noteDefault source span) (after.noteDefault source span) := by
  have found : Follows before
      (if piece.defaultExport.isSome then piece.find (duplicateDefault span) else piece)
      (if after.defaultExport.isSome then after.find (duplicateDefault span) else after) := by
    split <;> split
    · exact follows.find _
    · exact ⟨follows.body, follows.trailing, follows.imports, follows.defaultExport, follows.loaded⟩
    · exact ⟨follows.body, follows.trailing, follows.imports, follows.defaultExport, follows.loaded⟩
    · exact follows
  exact ⟨found.body, found.trailing, found.imports, rfl, found.loaded⟩

theorem note (follows : Follows before piece after) (text : Option String) :
    Follows before { piece with defaultExport := text.or piece.defaultExport }
      { after with defaultExport := text.or after.defaultExport } where
  body := follows.body
  trailing := follows.trailing
  imports := follows.imports
  defaultExport := by rw [follows.defaultExport, Option.or_assoc]
  loaded := follows.loaded

/-- A module that is loaded gets the same name in both. -/
theorem load (follows : Follows before piece after) (module : String) :
    Follows before (piece.load module).1 (after.load module).1 ∧
      (after.load module).2 = (piece.load module).2 := by
  simp only [Lowering.load, follows.loaded]
  refine ⟨?_, trivial⟩
  have counted : Follows before { piece with loaded := piece.loaded + 1 }
      { after with loaded := piece.loaded + 1 } :=
    ⟨follows.body, follows.trailing, follows.imports, follows.defaultExport, rfl⟩
  exact counted.push _

end Follows

/-- The text that a specifier of an export list notes if it gives out the default export. -/
def notedText (text : ExportSpecifier → String) (specifier : ExportSpecifier) : Option String :=
  if specifier.exported = "default" then some (text specifier) else none

theorem noteDefaultText_eq (text : ExportSpecifier → String) (specifier : ExportSpecifier)
    (state : Lowering) :
    state.noteDefaultText specifier.exported (text specifier) =
      { state with
        defaultExport := (notedText text specifier).or state.defaultExport } := by
  unfold noteDefaultText notedText
  split <;> rfl

/-- The last of several texts that are noted, the first of them apart. -/
theorem getLast?_or_cons (text : ExportSpecifier → String) (specifier : ExportSpecifier)
    (rest : List ExportSpecifier) (before : Option String) :
    ((specifier :: rest).filterMap (notedText text)).getLast?.or before =
      (rest.filterMap (notedText text)).getLast?.or ((notedText text specifier).or before) := by
  rw [List.filterMap_cons]
  cases notedText text specifier with
  | none => rfl
  | some noted =>
    rw [List.getLast?_cons]
    cases (rest.filterMap (notedText text)).getLast? <;> rfl

/-- The statement of a specifier of an export list of the module itself. -/
def exportLocal (specifier : ExportSpecifier) : Statement :=
  exportStatement specifier.exported (.identifier specifier.name)

/-- An export list of the module itself adds statements that come after all others. -/
theorem item_exportList (source : List Char) (specifiers : List ExportSpecifier)
    (state : Lowering) :
    state.item source (.exportList specifiers none false) =
      { state with
        trailing := state.trailing ++ specifiers.map exportLocal
        defaultExport := (specifiers.filterMap (notedText (·.name))).getLast?.or
          state.defaultExport } := by
  rw [Lowering.item]
  induction specifiers generalizing state with
  | nil => simp
  | cons specifier rest ih =>
    rw [List.foldl_cons, ih, noteDefaultText_eq (·.name), getLast?_or_cons, List.map_cons,
      List.append_cons state.trailing (exportLocal specifier) (rest.map exportLocal)]
    rfl

/-- The statement of a specifier of an export list of another module. -/
def exportFrom (name : String) (specifier : ExportSpecifier) : Statement :=
  exportStatement specifier.exported (propertyOf (.identifier name) specifier.name)

/-- The description of a specifier of an export list of another module. -/
def describeExport (module : String) (specifier : ExportSpecifier) : Import :=
  (Import.named module specifier.name).withAlias specifier.exported

/-- An export list of another module loads the module and adds a statement for every specifier. -/
theorem item_exportListFrom (source : List Char) (specifiers : List ExportSpecifier)
    (module : String) (state : Lowering) :
    state.item source (.exportList specifiers (some module) false) =
      { (state.load module).1 with
        body := (state.load module).1.body ++ specifiers.map (exportFrom (state.load module).2)
        imports := (state.load module).1.imports ++ specifiers.map (describeExport module)
        defaultExport := (specifiers.filterMap (notedText (module ++ "." ++ ·.name))).getLast?.or
          (state.load module).1.defaultExport } := by
  rw [Lowering.item]
  generalize state.load module = found
  obtain ⟨loaded, name⟩ := found
  simp only
  induction specifiers generalizing loaded with
  | nil => simp
  | cons specifier rest ih =>
    rw [List.foldl_cons, ih, noteDefaultText_eq (module ++ "." ++ ·.name), getLast?_or_cons,
      List.map_cons, List.map_cons,
      List.append_cons loaded.body (exportFrom name specifier) (rest.map (exportFrom name)),
      List.append_cons loaded.imports (describeExport module specifier)
        (rest.map (describeExport module))]
    rfl

/-- An item adds its piece. -/
theorem item_follows (source : List Char) (state : Lowering) (item : ModuleItem) :
    Follows state (piece source state.loaded item) (state.item source item) := by
  have start := Follows.start state
  cases item with
  | statement statement => exact start.push _
  | importDeclaration specifiers module isTypeOnly =>
    cases isTypeOnly with
    | true => exact start.describe _
    | false => exact (start.describe _).push _
  | exportDefault value span =>
    cases value with
    | expression value => exact (start.noteDefault source span).push _
    | function definition => exact (start.noteDefault source span).push _
  | exportAssignment value span => exact start.find _
  | exportDeclaration declaration => exact start.push _
  | exportList specifiers module isTypeOnly =>
    cases isTypeOnly with
    | true => exact start
    | false =>
      cases module with
      | none =>
        rw [piece, item_exportList, item_exportList]
        exact (start.trail (specifiers.map exportLocal)).note _
      | some module =>
        obtain ⟨loaded, same⟩ := start.load module
        rw [piece, item_exportListFrom, item_exportListFrom, same]
        exact ((loaded.push _).describe _).note _
  | exportAll exported module =>
    cases exported with
    | some exported => exact (start.describe _).push _
    | none =>
      obtain ⟨loaded, same⟩ := (start.describe [Import.whole module module]).load module
      simp only [piece, Lowering.item, same]
      exact loaded.push _

/-- What all pieces together add. -/
theorem foldl_item (source : List Char) (items : List ModuleItem) (state : Lowering) :
    let whole := items.foldl (Lowering.item source) state
    let parts := pieces source state.loaded items
    whole.body = state.body ++ parts.flatMap Lowering.body ∧
    whole.trailing = state.trailing ++ parts.flatMap Lowering.trailing ∧
    whole.imports = state.imports ++ parts.flatMap Lowering.imports ∧
    whole.defaultExport =
      (parts.filterMap Lowering.defaultExport).getLast?.or state.defaultExport := by
  induction items generalizing state with
  | nil => simp [pieces]
  | cons item rest ih =>
    have first := item_follows source state item
    obtain ⟨body, trailing, imports, text⟩ := ih (state.item source item)
    rw [first.loaded] at body trailing imports text
    refine ⟨?_, ?_, ?_, ?_⟩
    · rw [List.foldl_cons, body, first.body, List.append_assoc]
      rfl
    · rw [List.foldl_cons, trailing, first.trailing, List.append_assoc]
      rfl
    · rw [List.foldl_cons, imports, first.imports, List.append_assoc]
      rfl
    · rw [List.foldl_cons, text, first.defaultExport, pieces, List.filterMap_cons]
      cases (piece source state.loaded item).defaultExport with
      | none => rfl
      | some noted => rw [List.getLast?_cons]; cases (List.getLast? _) <;> rfl

/-- The script of a module is made of the pieces of its items. -/
theorem statements_lower (source : String) (items : List ModuleItem) :
    (lower source items).statements =
      (pieces source.toList 0 items).flatMap (fun part => awaitInStatements part.body) ++
        awaitInStatements ((pieces source.toList 0 items).flatMap Lowering.trailing) := by
  obtain ⟨body, trailing, _⟩ := foldl_item source.toList items {}
  rw [Lowering.statements, show (lower source items).body = _ from body,
    show (lower source items).trailing = _ from trailing]
  simp only [awaitInStatements_eq_map, List.map_append, ← List.map_flatMap]
  rfl

/-- So are its descriptions of imports. -/
theorem imports_lower (source : String) (items : List ModuleItem) :
    (lower source items).imports = (pieces source.toList 0 items).flatMap Lowering.imports :=
  (foldl_item source.toList items {}).2.2.1

/-- The text of its default export is the last one that an item notes. -/
theorem defaultExport_lower (source : String) (items : List ModuleItem) :
    (lower source items).defaultExport =
      ((pieces source.toList 0 items).filterMap Lowering.defaultExport).getLast? :=
  (foldl_item source.toList items {}).2.2.2.trans Option.or_none

/-- Every item has its piece. -/
theorem piece_mem_pieces (source : List Char) {items : List ModuleItem} {item : ModuleItem}
    (member : item ∈ items) (loaded : Nat) :
    ∃ before, piece source before item ∈ pieces source loaded items := by
  induction items generalizing loaded with
  | nil => cases member
  | cons first rest ih =>
    rcases List.mem_cons.mp member with rfl | member
    · exact ⟨loaded, List.mem_cons_self⟩
    · obtain ⟨before, inside⟩ := ih member (piece source loaded first).loaded
      exact ⟨before, .tail _ inside⟩

/-- A fact about the piece of every item holds of the pieces of a module. -/
theorem forall₂_pieces {P : ModuleItem → Lowering → Prop} (source : List Char)
    (items : List ModuleItem) (each : ∀ item ∈ items, ∀ loaded, P item (piece source loaded item))
    (loaded : Nat) : List.Forall₂ P items (pieces source loaded items) := by
  induction items generalizing loaded with
  | nil => exact .nil
  | cons item rest ih =>
    exact .cons (each item List.mem_cons_self loaded)
      (ih (fun item member => each item (.tail _ member)) _)

/-- Lists that belong together member by member are put together to the same list. -/
theorem flatMap_eq_of_forall₂ {α β γ : Type} {f : α → List γ} {g : β → List γ} {left : List α}
    {right : List β} (each : List.Forall₂ (fun a b => g b = f a) left right) :
    right.flatMap g = left.flatMap f := by
  induction each with
  | nil => rfl
  | cons first _ ih => rw [List.flatMap_cons, List.flatMap_cons, first, ih]

end Lowering

end PluginSandbox.Plugin
