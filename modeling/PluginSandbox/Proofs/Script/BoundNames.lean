import PluginSandbox.Plugin.Lowering
import PluginSandbox.Proofs.Script.GivenNames

/-!
# The names that patterns bind

One recursion over a pattern lists its names, and another one takes a value apart and gives names
their values. Both go through the same names in the same order, whatever defaults and computed keys
do on the way: a pattern that is bound gives each of its names the part of the value that it stands
for, and one that fails has given values to the first of its names alone. Code that runs on the way
may replace the value of a variable, but it declares no name in the scope.
-/
namespace PluginSandbox.Syntax.Declaration

/-- The statement of a declaration that may be exported. -/
def statement : Declaration → Statement
  | .function definition => .function definition
  | .variables declaration => .variables declaration

/-- The names that a declaration binds, in order. -/
def boundNames : Declaration → List String
  | .function definition => definition.name.toList
  | .variables declaration => declaration.boundNames

end PluginSandbox.Syntax.Declaration

namespace PluginSandbox.Script

open Syntax

namespace Evaluation

variable (others : State → State → Prop) (context : Context) (isMutable : Bool)

/-- Whether code comes to a result, within some bound on nesting. -/
def Evaluates {α : Type} (code : Interpreter → Eval α) (before : State) (value : α)
    (after : State) : Prop :=
  ∃ bound, (code (Interpreter.within bound) before).ComesTo others (.ok value) after

mutual

/-- Whether the names of a pattern are given the parts of a value that they stand for, which takes
one state to another. -/
inductive Takes : Pattern → Value → List (String × Value) → State → State → Prop where
  /-- A name stands for the whole value. -/
  | identifier (name : String) (value : Value) (before : State) :
    Takes (.identifier name) value [(name, value)] before
      { before with heap := before.heap.bindName context.environment name value isMutable }
  /-- A default is not used for a value that is not undefined. -/
  | defined {target default value given before after} (defined : value.isUndefined = false)
    (takes : Takes target value given before after) :
    Takes (.withDefault target default) value given before after
  /-- A default stands in for an undefined value. -/
  | missing {target default value other given before middle after}
    (missing : value.isUndefined = true)
    (evaluates : Evaluates others (·.expression default context) before other middle)
    (takes : Takes target other given middle after) :
    Takes (.withDefault target default) value given before after
  /-- Properties of a value are read one after the other. -/
  | object {properties keys value given before after} (shown : value.isNullish = false)
    (inside : TakesProperties value properties keys given before after) :
    Takes (.object properties none) value given before after
  /-- What remains of an object is a new object with its other own properties. -/
  | objectRest {properties rest keys entries value given remaining before middle after}
    (shown : value.isNullish = false)
    (inside : TakesProperties value properties keys given before middle)
    (remains : entries.map Prod.fst =
      (middle.heap.ownKeys value).filter fun key => !keys.contains key)
    (read : ∀ entry ∈ entries, middle.heap.read context.realm value entry.1 = .ok entry.2)
    (takes : Takes rest (middle.heap.createObject entries).1 remaining
      { middle with heap := (middle.heap.createObject entries).2 } after) :
    Takes (.object properties (some rest)) value (given ++ remaining) before after
  /-- The items of a value are taken in order. -/
  | array {elements items value given before after}
    (iterates : before.heap.itemsOf value = .ok items)
    (inside : TakesItems elements items given before after) :
    Takes (.array elements none) value given before after
  /-- What remains of an array is a new array of its later items. -/
  | arrayRest {elements rest items value given remaining before middle after}
    (iterates : before.heap.itemsOf value = .ok items)
    (inside : TakesItems elements items given before middle)
    (takes : Takes rest (middle.heap.allocateValue (.array (items.drop elements.length) {})).1
      remaining { middle with
        heap := (middle.heap.allocateValue (.array (items.drop elements.length) {})).2 } after) :
    Takes (.array elements (some rest)) value (given ++ remaining) before after

/-- Whether the names of the properties of a pattern are given their parts of a value; the keys are
those of the properties. -/
inductive TakesProperties : Value → List PatternProperty → List String →
    List (String × Value) → State → State → Prop where
  /-- No property is read. -/
  | nil (value : Value) (before : State) : TakesProperties value [] [] [] before before
  /-- The first property is read once its key is known. -/
  | cons {value part : Value} {key name pattern isShorthand properties keys given more before
      keyed middle after}
    (evaluates : Evaluates others (evaluateKey · context key) before name keyed)
    (read : keyed.heap.read context.realm value name = .ok part)
    (takes : Takes pattern part given keyed middle)
    (inside : TakesProperties value properties keys more middle after) :
    TakesProperties value (.mk key pattern isShorthand :: properties) (name :: keys)
      (given ++ more) before after

/-- Whether the names of the elements of a pattern are given their parts of some items. -/
inductive TakesItems : List Pattern → List Value → List (String × Value) → State → State →
    Prop where
  /-- No item is taken. -/
  | nil (items : List Value) (before : State) : TakesItems [] items [] before before
  /-- The first element takes the first item, undefined if there is none. -/
  | cons {pattern patterns items given more before middle after}
    (takes : Takes pattern (items.head?.getD .undefined) given before middle)
    (inside : TakesItems patterns items.tail more middle after) :
    TakesItems (pattern :: patterns) items (given ++ more) before after

end

/-- Whether the names of declarators are given their parts of the initial values, which are
evaluated in order; the value of a declarator that has none is undefined. -/
inductive TakesDeclarators : List Declarator → List (String × Value) → State → State → Prop where
  /-- Nothing is declared. -/
  | nil (before : State) : TakesDeclarators [] [] before before
  /-- The initial value of the first declarator is evaluated and taken apart. -/
  | evaluated {target expression value declarators given more before middle between after}
    (evaluates : Evaluates others (·.expression expression context) before value middle)
    (takes : Takes others context isMutable target value given middle between)
    (inside : TakesDeclarators declarators more between after) :
    TakesDeclarators (.mk target (some expression) :: declarators) (given ++ more) before after
  /-- The first declarator has no initial value. -/
  | undefined {target declarators given more before between after}
    (takes : Takes others context isMutable target .undefined given before between)
    (inside : TakesDeclarators declarators more between after) :
    TakesDeclarators (.mk target none :: declarators) (given ++ more) before after

/-- Whether code gives names of the innermost scope values, parts of something: all of them if it
has a result, and some first ones of them if it fails. -/
def Initializes {α : Type} (names : List String)
    (parts : State → α → List (String × Value) → State → Prop) (code : Eval α) : Prop :=
  ∀ before outcome after, context.environment.innermost.index < before.heap.scopes.size →
    (code before).ComesTo others outcome after →
    ∃ given, before.heap.Gives context.environment.innermost isMutable given after.heap ∧
      given.map Prod.fst <+: names ∧
      ∀ result, outcome = .ok result →
        given.map Prod.fst = names ∧ parts before result given after

/-- Whether a declaration that is hoisted binds its names, and gives values to them alone, and to
all of them if it does not fail. -/
structure Declares (declaration : Declaration) (before hoisted : State) : Prop where
  /-- Its names are bound once it is hoisted, beside those that were. -/
  bound : ∀ name, hoisted.heap.bindsOwn context.environment.innermost name = true ↔
    before.heap.bindsOwn context.environment.innermost name = true ∨
      name ∈ declaration.boundNames
  /-- No other names get values. -/
  only : ∀ bound outcome after,
    ((Interpreter.within bound).statement declaration.statement context hoisted).ComesTo others
      outcome after →
    ∀ name, (after.heap.scope context.environment.innermost).hasValue name = true →
      (before.heap.scope context.environment.innermost).hasValue name = true ∨
        name ∈ declaration.boundNames
  /-- All its names have values if its statement does not fail, and the others keep theirs. -/
  all : ∀ bound completion after,
    ((Interpreter.within bound).statement declaration.statement context hoisted).ComesTo others
      (.ok completion) after →
    ∀ name, (before.heap.scope context.environment.innermost).hasValue name = true ∨
        name ∈ declaration.boundNames →
      (after.heap.scope context.environment.innermost).hasValue name = true

section Codes

variable {others} {context} {isMutable} {α β : Type}

namespace Initializes

variable {names : List String} {parts : State → α → List (String × Value) → State → Prop}
  {code : Eval α}

theorem mono (initializes : Initializes others context isMutable names parts code)
    {parts' : State → α → List (String × Value) → State → Prop}
    (more : ∀ before result given after, parts before result given after →
      parts' before result given after) :
    Initializes others context isMutable names parts' code := by
  intro before outcome after present comes
  obtain ⟨given, gives, first, all⟩ := initializes before outcome after present comes
  refine ⟨given, gives, first, fun result succeeds => ?_⟩
  obtain ⟨same, taken⟩ := all result succeeds
  exact ⟨same, more _ _ _ _ taken⟩

/-- Code that goes on gives values to the names of its first part and then to others. -/
theorem bind (initializes : Initializes others context isMutable names parts code)
    {names' : List String} {next : α → Eval β}
    {parts' : α → State → β → List (String × Value) → State → Prop}
    (goesOn : ∀ value, Initializes others context isMutable names' (parts' value) (next value)) :
    Initializes others context isMutable (names ++ names')
      (fun before result given after => ∃ value middle first second, given = first ++ second ∧
        parts before value first middle ∧ parts' value middle result second after)
      (code >>= next) := by
  intro before outcome after present runs
  rcases Code.comesTo_bind.mp runs with ⟨value, middle, comes, later⟩ | ⟨error, rfl, comes⟩
  · obtain ⟨first, gives, -, all⟩ := initializes before _ middle present comes
    obtain ⟨same, taken⟩ := all value rfl
    have still := Nat.lt_of_lt_of_le present gives.grows
    obtain ⟨second, gives', start, all'⟩ := goesOn value middle outcome after still later
    refine ⟨first ++ second, gives.append gives', ?_, fun result succeeds => ?_⟩
    · rw [List.map_append, same]
      exact (List.prefix_append_right_inj names).mpr start
    · obtain ⟨same', taken'⟩ := all' result succeeds
      rw [List.map_append, same, same']
      exact ⟨rfl, value, middle, first, second, rfl, taken, taken'⟩
  · obtain ⟨given, gives, start, -⟩ := initializes before _ after present comes
    exact ⟨given, gives, start.trans (List.prefix_append names names'), nofun⟩

/-- The result of code may be put into another form. -/
theorem map (initializes : Initializes others context isMutable names parts code) (f : α → β) :
    Initializes others context isMutable names
      (fun before result given after =>
        ∃ value, result = f value ∧ parts before value given after)
      (code >>= fun value => Pure.pure (f value)) := by
  intro before outcome after present runs
  rcases Code.comesTo_bind.mp runs with ⟨value, middle, comes, rfl, rfl⟩ | ⟨error, rfl, comes⟩
  · obtain ⟨given, gives, start, all⟩ := initializes before _ after present comes
    refine ⟨given, gives, start, ?_⟩
    rintro _ ⟨⟩
    obtain ⟨same, taken⟩ := all value rfl
    exact ⟨same, value, rfl, taken⟩
  · obtain ⟨given, gives, start, -⟩ := initializes before _ after present comes
    exact ⟨given, gives, start, nofun⟩

/-- Code that declares no name in the scope gives none a value. -/
theorem of_spares
    (spares : ∀ {before outcome after},
      context.environment.innermost.index < before.heap.scopes.size →
      (code before).ComesTo others outcome after →
      before.heap.Spares (· ≠ context.environment.innermost) after.heap) :
    Initializes others context isMutable []
      (fun before value given after =>
        given = [] ∧ (code before).ComesTo others (.ok value) after) code := by
  intro before outcome after present comes
  refine ⟨[], (spares present comes).gives present, List.prefix_rfl, ?_⟩
  rintro value rfl
  exact ⟨rfl, rfl, comes⟩

/-- What is computed from the heap gives no name a value. -/
theorem tryHeap (read : Heap → Except RuntimeError α) :
    Initializes others context isMutable []
      (fun before value given after => given = [] ∧ read before.heap = .ok value ∧ after = before)
      (Code.tryHeap read) := by
  apply (of_spares fun _ comes => .of_scopes (by rw [(Code.comesTo_tryHeap.mp comes).2])).mono
  rintro before value given after ⟨none, comes⟩
  obtain ⟨same, unchanged⟩ := Code.comesTo_tryHeap.mp comes
  exact ⟨none, same.symm, unchanged⟩

/-- Code that fails with what it computes from the heap gives no name a value. -/
theorem failing {read : Heap → Except RuntimeError α}
    (fails : ∀ heap value, read heap ≠ .ok value) :
    Initializes others context isMutable names parts (Code.tryHeap read) := by
  intro before outcome after present comes
  obtain ⟨rfl, rfl⟩ := Code.comesTo_tryHeap.mp comes
  refine ⟨[], (Heap.Spares.of_scopes rfl).gives present, List.nil_prefix, ?_⟩
  exact fun value succeeds => absurd succeeds (fails _ value)

theorem pure {value : α} (none : ∀ before, parts before value [] before) :
    Initializes others context isMutable [] parts (Pure.pure value : Eval α) := by
  rintro before outcome after present ⟨rfl, rfl⟩
  refine ⟨[], (Heap.Spares.of_scopes rfl).gives present, List.prefix_rfl, ?_⟩
  rintro _ ⟨⟩
  exact ⟨rfl, none _⟩

/-- A new object gives no name a value. -/
theorem updateHeap {f : Heap → α × Heap} (scopes : ∀ heap, (f heap).2.scopes = heap.scopes) :
    Initializes others context isMutable []
      (fun before value given after => given = [] ∧ value = (f before.heap).1 ∧
        after = { before with heap := (f before.heap).2 })
      (Code.updateHeap f) := by
  have creates {before after : State} {outcome : Except RuntimeError α}
      (comes : (Code.updateHeap f before).ComesTo others outcome after) :
      outcome = .ok (f before.heap).1 ∧ after = { before with heap := (f before.heap).2 } := comes
  apply (of_spares fun _ comes => .of_scopes (by rw [(creates comes).2, scopes])).mono
  rintro before value given after ⟨none, comes⟩
  obtain ⟨same, changed⟩ := creates comes
  exact ⟨none, Except.ok.inj same, changed⟩

end Initializes

/-- The properties that remain are read one after the other, which changes nothing. -/
theorem comesTo_readEntries {value : Value} {keys : List String} {before after : State}
    {outcome : Except RuntimeError (List (String × Value))}
    (comes : ((keys.mapM fun key => do
      return (key, ← Code.tryHeap fun heap => heap.read context.realm value key) :
        Eval (List (String × Value))) before).ComesTo others outcome after) :
    after = before ∧ ∀ entries, outcome = .ok entries → entries.map Prod.fst = keys ∧
      ∀ entry ∈ entries, before.heap.read context.realm value entry.1 = .ok entry.2 := by
  induction keys generalizing outcome after with
  | nil =>
    obtain ⟨rfl, rfl⟩ := comes
    refine ⟨rfl, ?_⟩
    rintro _ ⟨⟩
    exact ⟨rfl, nofun⟩
  | cons key keys ih =>
    rw [List.mapM_cons, Code.comesTo_bind] at comes
    rcases comes with ⟨entry, middle, first, later⟩ | ⟨error, rfl, first⟩
    · obtain ⟨part, _, reads, ⟨⟩, rfl⟩ := Code.comesTo_bind_ok.mp first
      obtain ⟨read, rfl⟩ := Code.comesTo_tryHeap.mp reads
      rcases Code.comesTo_bind.mp later with ⟨entries, _, others, rfl, rfl⟩ | ⟨error, rfl, fails⟩
      · obtain ⟨rfl, all⟩ := ih others
        refine ⟨rfl, ?_⟩
        rintro _ ⟨⟩
        obtain ⟨same, reads⟩ := all entries rfl
        rw [List.map_cons, same]
        exact ⟨rfl, List.forall_mem_cons.mpr ⟨read.symm, reads⟩⟩
      · exact ⟨(ih fails).1, nofun⟩
    · rcases Code.comesTo_bind.mp first with ⟨_, _, _, impossible, _⟩ | ⟨_, _, fails⟩
      · cases impossible
      · exact ⟨(Code.comesTo_tryHeap.mp fails).2, nofun⟩

end Codes

section Pieces

variable {others context} {isMutable : Bool} {bound : Nat}
  (binds : ∀ pattern value, Initializes others context isMutable pattern.boundNames
    (fun before _ given after => Takes others context isMutable pattern value given before after)
    ((Interpreter.within bound).bind pattern value isMutable context))
  (spares : SparesScope context.environment.innermost others)

include spares in
/-- Code that is run within a bound declares no name in the scope. -/
theorem Initializes.evaluates {α : Type} (code : Interpreter → Eval α)
    (sound : ∀ {self : Interpreter}, self.Sound (sparing context.environment.innermost) →
      (sparing context.environment.innermost).Sound context.environment.scopes (code self)) :
    Initializes others context isMutable []
      (fun before value given after => given = [] ∧ Evaluates others code before value after)
      (code (Interpreter.within bound)) := by
  have runs := sound (Plugin.scripts_sound (sparing_admits context.environment.innermost) bound)
  apply (of_spares fun present comes => ?_).mono
  · rintro before value given after ⟨none, comes⟩
    exact ⟨none, bound, comes⟩
  · exact (runs.run _ present fun _ _ => trivial).spares spares comes

include binds

include spares in
/-- The properties of a pattern give their names values in order. -/
theorem bindProperties_initializes (value : Value) (properties : List PatternProperty) :
    Initializes others context isMutable (PatternProperty.boundNamesOf properties)
      (fun before keys given after =>
        TakesProperties others context isMutable value properties keys given before after)
      (bindProperties (Interpreter.within bound) context isMutable value properties) := by
  induction properties with
  | nil => exact .pure fun before => TakesProperties.nil value before
  | cons property rest ih =>
    obtain ⟨key, pattern, isShorthand⟩ := property
    have named : Initializes others context isMutable []
        (fun before name given after => given = [] ∧
          Evaluates others (evaluateKey · context key) before name after)
        (evaluateKey (Interpreter.within bound) context key) :=
      .evaluates spares (evaluateKey · context key) fun sound => evaluateKey_sound sound context key
    have initializes := named.bind fun name =>
      (Initializes.tryHeap fun heap => heap.read context.realm value name).bind fun part =>
        (binds pattern part).bind fun _ => ih.map fun keys => name :: keys
    refine initializes.mono ?_
    rintro before _ _ after ⟨name, keyed, _, _, rfl, ⟨rfl, evaluates⟩, part, _, _, _, rfl,
      ⟨rfl, read, rfl⟩, _, middle, given, more, rfl, takes, keys, rfl, inside⟩
    rw [List.nil_append, List.nil_append]
    exact .cons evaluates read takes inside

/-- The elements of a pattern give their names values in order. -/
theorem bindItems_initializes (patterns : List Pattern) (items : List Value) :
    Initializes others context isMutable (Pattern.boundNamesOf patterns)
      (fun before _ given after =>
        TakesItems others context isMutable patterns items given before after)
      (bindItems (Interpreter.within bound) context isMutable patterns items) := by
  induction patterns generalizing items with
  | nil => exact .pure fun before => TakesItems.nil items before
  | cons pattern patterns ih =>
    have initializes := (binds pattern (items.head?.getD .undefined)).bind fun _ => ih items.tail
    refine initializes.mono ?_
    rintro before _ _ after ⟨_, middle, given, more, rfl, takes, inside⟩
    exact .cons takes inside

omit binds in
/-- The reading of the properties that remain gives no name a value. -/
theorem remainingEntries_initializes (value : Value) (keys : List String) :
    Initializes others context isMutable []
      (fun before entries given after => given = [] ∧ after = before ∧
        entries.map Prod.fst =
          (before.heap.ownKeys value).filter (fun key => !keys.contains key) ∧
        ∀ entry ∈ entries, before.heap.read context.realm value entry.1 = .ok entry.2)
      (remainingEntries context value keys) := by
  have reads {before after : State} {outcome : Except RuntimeError (List (String × Value))}
      (comes : (remainingEntries context value keys before).ComesTo others outcome after) :=
    comesTo_readEntries comes
  apply (Initializes.of_spares fun _ comes => .of_scopes (by rw [(reads comes).1])).mono
  rintro before entries given after ⟨none, comes⟩
  obtain ⟨same, all⟩ := reads comes
  exact ⟨none, same, all entries rfl⟩

include spares

/-- An object pattern gives its names values in order, those of what remains last. -/
theorem bindObject_initializes (properties : List PatternProperty) (rest : Option Pattern)
    (value : Value) :
    Initializes others context isMutable (Pattern.object properties rest).boundNames
      (fun before _ given after =>
        Takes others context isMutable (.object properties rest) value given before after)
      (bindObject (Interpreter.within bound) context isMutable properties rest value) := by
  unfold bindObject
  by_cases nullish : value.isNullish = true
  · rw [if_pos nullish]
    exact .failing fun _ _ => nofun
  · rw [if_neg nullish]
    have shown : value.isNullish = false := Bool.eq_false_iff.mpr nullish
    have inside := bindProperties_initializes binds spares value properties
    cases rest with
    | none =>
      rw [Pattern.boundNames, Pattern.boundNamesOfRest, List.append_nil]
      refine (inside.map fun _ => ()).mono ?_
      rintro before _ given after ⟨keys, -, inside⟩
      exact .object shown inside
    | some rest =>
      have created (entries : List (String × Value)) : Initializes others context isMutable []
          (fun before object given after => given = [] ∧
            object = (before.heap.createObject entries).1 ∧
            after = { before with heap := (before.heap.createObject entries).2 })
          (Code.updateHeap fun heap => heap.createObject entries) := .updateHeap fun _ => rfl
      have initializes := inside.bind fun keys =>
        (remainingEntries_initializes value keys).bind fun entries =>
          (created entries).bind fun object => binds rest object
      refine initializes.mono ?_
      rintro before _ _ after ⟨keys, middle, given, _, rfl, inside, entries, _, _, _, rfl,
        ⟨rfl, rfl, remains, read⟩, object, _, _, remaining, rfl, ⟨rfl, rfl, rfl⟩, takes⟩
      rw [List.nil_append, List.nil_append]
      exact .objectRest shown inside remains read takes

omit spares in
/-- An array pattern gives its names values in order, those of what remains last. -/
theorem bindArray_initializes (elements : List Pattern) (rest : Option Pattern) (value : Value) :
    Initializes others context isMutable (Pattern.array elements rest).boundNames
      (fun before _ given after =>
        Takes others context isMutable (.array elements rest) value given before after)
      (bindArray (Interpreter.within bound) context isMutable elements rest value) := by
  unfold bindArray
  have taken : Initializes others context isMutable []
      (fun before items given after =>
        given = [] ∧ before.heap.itemsOf value = .ok items ∧ after = before)
      (Code.tryHeap fun heap => heap.itemsOf value) := .tryHeap fun heap => heap.itemsOf value
  have inside (items : List Value) := bindItems_initializes binds elements items
  cases rest with
  | none =>
    rw [Pattern.boundNames, Pattern.boundNamesOfRest, List.append_nil]
    refine (taken.bind fun items => (inside items).map fun _ => ()).mono ?_
    rintro before _ _ after ⟨items, _, _, given, rfl, ⟨rfl, iterates, rfl⟩, _, -, inside⟩
    exact .array iterates inside
  | some rest =>
    have created (items : List Value) : Initializes others context isMutable []
        (fun before array given after => given = [] ∧
          array = (before.heap.allocateValue (.array items {})).1 ∧
          after = { before with heap := (before.heap.allocateValue (.array items {})).2 })
        (Code.createArray items) :=
      .updateHeap (f := fun heap => heap.allocateValue (.array items {})) fun _ => rfl
    have initializes := taken.bind fun items => (inside items).bind fun _ =>
      (created (items.drop elements.length)).bind fun array => binds rest array
    refine initializes.mono ?_
    rintro before _ _ after ⟨items, _, _, _, rfl, ⟨rfl, iterates, rfl⟩, _, middle, given, _, rfl,
      inside, array, _, _, remaining, rfl, ⟨rfl, rfl, rfl⟩, takes⟩
    rw [List.nil_append, List.nil_append]
    exact .arrayRest iterates inside takes

/-- A pattern gives all its names values in order if its parts do. -/
theorem bind_initializes (pattern : Pattern) (value : Value) :
    Initializes others context isMutable pattern.boundNames
      (fun before _ given after => Takes others context isMutable pattern value given before after)
      (bind (Interpreter.within bound) context isMutable pattern value) := by
  cases pattern with
  | identifier name =>
    rintro before outcome after present ⟨rfl, rfl⟩
    refine ⟨[(name, value)], Heap.gives_bindName present name value, List.prefix_rfl, ?_⟩
    exact fun _ _ => ⟨rfl, .identifier name value before⟩
  | withDefault target default =>
    unfold bind
    cases undefined : value.isUndefined with
    | true =>
      have evaluated : Initializes others context isMutable []
          (fun before other given after => given = [] ∧
            Evaluates others (·.expression default context) before other after)
          ((Interpreter.within bound).expression default context) :=
        .evaluates spares (·.expression default context) fun sound =>
          sound.expression default context
      refine (evaluated.bind fun other => binds target other).mono ?_
      rintro before _ _ after ⟨other, middle, _, given, rfl, ⟨rfl, evaluates⟩, takes⟩
      exact .missing undefined evaluates takes
    | false =>
      apply (binds target value).mono
      intro before _ given after takes
      exact .defined undefined takes
  | object properties rest => exact bindObject_initializes binds spares properties rest value
  | array elements rest => exact bindArray_initializes binds elements rest value

end Pieces

section Runs

variable {others context} {isMutable : Bool}

/-- A pattern gives all its names values in order, whatever the bound on nesting. -/
theorem bind_within_initializes (spares : SparesScope context.environment.innermost others)
    (bound : Nat) (pattern : Pattern) (value : Value) :
    Initializes others context isMutable pattern.boundNames
      (fun before _ given after => Takes others context isMutable pattern value given before after)
      ((Interpreter.within bound).bind pattern value isMutable context) := by
  induction bound generalizing pattern value with
  | zero => exact fun _ _ _ _ impossible => impossible.elim
  | succ bound ih => exact bind_initializes ih spares pattern value

/-- The declaration of variables gives all its names values in order. -/
theorem runDeclaration_initializes (spares : SparesScope context.environment.innermost others)
    (bound : Nat) (kind : DeclarationKind) (declarators : List Declarator) :
    Initializes others context (isMutableKind kind)
      (VariableDeclaration.mk kind declarators).boundNames
      (fun before _ given after =>
        TakesDeclarators others context (isMutableKind kind) declarators given before after)
      (runDeclaration (Interpreter.within bound) context (.mk kind declarators)) := by
  have binds (target : Pattern) (value : Value) : Initializes others context (isMutableKind kind)
      target.boundNames
      (fun before _ given after =>
        Takes others context (isMutableKind kind) target value given before after)
      ((Interpreter.within bound).bind target value (isMutableKind kind) context) :=
    bind_within_initializes spares bound target value
  unfold runDeclaration
  induction declarators with
  | nil => exact .pure fun before => TakesDeclarators.nil before
  | cons declarator rest ih =>
    obtain ⟨target, initial⟩ := declarator
    cases initial with
    | none =>
      refine ((binds target .undefined).bind fun _ => ih).mono ?_
      rintro before _ _ after ⟨_, between, given, more, rfl, takes, inside⟩
      exact .undefined takes inside
    | some expression =>
      have evaluated : Initializes others context (isMutableKind kind) []
          (fun before value given after => given = [] ∧
            Evaluates others (·.expression expression context) before value after)
          ((Interpreter.within bound).expression expression context) :=
        .evaluates spares (·.expression expression context) fun sound =>
          sound.expression expression context
      refine ((evaluated.bind fun value => binds target value).bind fun _ => ih).mono ?_
      rintro before _ _ after ⟨_, between, _, more, rfl, ⟨value, middle, _, given, rfl,
        ⟨rfl, evaluates⟩, takes⟩, inside⟩
      exact .evaluated evaluates takes inside

/-- Variables are hoisted without values. -/
theorem hoist_variables (declaration : VariableDeclaration) {before : State}
    (present : context.environment.innermost.index < before.heap.scopes.size) :
    ∃ isMutable hoisted, hoist context (.variables declaration) before = .done () hoisted ∧
      context.environment.innermost.index < hoisted.heap.scopes.size ∧
      hoisted.heap.scope context.environment.innermost =
        (before.heap.scope context.environment.innermost).declare isMutable
          declaration.boundNames := by
  obtain ⟨kind, declarators⟩ := declaration
  let names := (VariableDeclaration.mk kind declarators).boundNames
  have alters : before.heap.AltersScopes (fun _ => True) _ :=
    Heap.altersScopes_declareNames context.environment names (isMutableKind kind) trivial
  have still := Nat.lt_of_lt_of_le present alters.spares.grows
  exact ⟨isMutableKind kind, _, rfl, still, Heap.scope_declareNames present names⟩

/-- A function is hoisted with its value. -/
theorem hoist_function {definition : Function} {name : String}
    (named : definition.name = some name) {before : State}
    (present : context.environment.innermost.index < before.heap.scopes.size) :
    ∃ value hoisted, hoist context (.function definition) before = .done () hoisted ∧
      hoisted.heap.scope context.environment.innermost =
        (before.heap.scope context.environment.innermost).set name ⟨some value, true⟩ := by
  have code : hoist context (.function definition) =
      createFunction definition context >>= fun value => bindName context name value true := by
    simp only [hoist, named]
  let created := before.heap.allocateValue (functionObject definition context)
  have still : context.environment.innermost.index < created.2.scopes.size := present
  exact ⟨created.1, _, congrFun code before, Heap.scope_changeScope still _⟩

/-- A statement that declares variables gives values to some first ones of its names, and to all of
them if it does not fail. -/
theorem variables_initialize (spares : SparesScope context.environment.innermost others)
    {bound : Nat} {declaration : VariableDeclaration} {before after : State}
    (present : context.environment.innermost.index < before.heap.scopes.size)
    {outcome : Except RuntimeError Completion}
    (comes : ((Interpreter.within bound).statement (.variables declaration) context
      before).ComesTo others outcome after) :
    ∃ names, names <+: declaration.boundNames ∧
      (∀ completion, outcome = .ok completion → names = declaration.boundNames) ∧
      ∀ name, (after.heap.scope context.environment.innermost).hasValue name = true ↔
        (before.heap.scope context.environment.innermost).hasValue name = true ∨
          name ∈ names := by
  cases bound with
  | zero => exact comes.elim
  | succ bound =>
    obtain ⟨kind, declarators⟩ := declaration
    have initializes := runDeclaration_initializes spares bound kind declarators
    rcases Code.comesTo_bind.mp comes with ⟨_, _, runs, rfl, rfl⟩ | ⟨error, rfl, fails⟩
    · obtain ⟨given, gives, start, all⟩ := initializes before _ _ present runs
      exact ⟨given.map Prod.fst, start, fun _ _ => (all () rfl).1, gives.valued⟩
    · obtain ⟨given, gives, start, -⟩ := initializes before _ _ present fails
      exact ⟨given.map Prod.fst, start, nofun, gives.valued⟩

/-- Variables that are hoisted are bound, and have values once their declaration has run. -/
theorem declares_variables (spares : SparesScope context.environment.innermost others)
    (declaration : VariableDeclaration) {before : State}
    (present : context.environment.innermost.index < before.heap.scopes.size) :
    ∃ hoisted, hoist context (.variables declaration) before = .done () hoisted ∧
      Declares others context (.variables declaration) before hoisted := by
  obtain ⟨isMutable, hoisted, hoists, still, scope⟩ := hoist_variables declaration present
  refine ⟨hoisted, hoists, ?_⟩
  constructor
  case bound =>
    intro name
    rw [Heap.bindsOwn, scope]
    exact Scope.isSome_get?_declare declaration.boundNames name
  case only =>
    intro bound outcome after comes name valued
    obtain ⟨names, start, -, same⟩ := variables_initialize spares still comes
    rw [same, scope, Scope.hasValue_declare] at valued
    rcases valued with ⟨before, -⟩ | member
    · exact .inl before
    · exact .inr (start.subset member)
  case all =>
    intro bound completion after comes name due
    obtain ⟨names, -, all, same⟩ := variables_initialize spares still comes
    rw [same, scope, Scope.hasValue_declare, all completion rfl]
    by_cases member : name ∈ declaration.boundNames
    · exact .inr member
    · exact .inl ⟨due.resolve_right member, member⟩

/-- A function that is hoisted has its value at once. -/
theorem declares_function (definition : Function) {before : State}
    (present : context.environment.innermost.index < before.heap.scopes.size) :
    ∃ hoisted, hoist context (.function definition) before = .done () hoisted ∧
      Declares others context (.function definition) before hoisted := by
  -- The statement itself does nothing.
  have idle {bound : Nat} {hoisted after : State} {outcome : Except RuntimeError Completion}
      (comes : ((Interpreter.within bound).statement (.function definition) context
        hoisted).ComesTo others outcome after) : after = hoisted := by
    cases bound with
    | zero => exact comes.elim
    | succ bound => exact comes.2
  have settled {hoisted : State}
      (bound : ∀ name, hoisted.heap.bindsOwn context.environment.innermost name = true ↔
        before.heap.bindsOwn context.environment.innermost name = true ∨
          name ∈ definition.name.toList)
      (valued : ∀ name,
        (hoisted.heap.scope context.environment.innermost).hasValue name = true ↔
          (before.heap.scope context.environment.innermost).hasValue name = true ∨
            name ∈ definition.name.toList) :
      Declares others context (.function definition) before hoisted := by
    refine ⟨bound, ?_, ?_⟩
    · intro _ _ after comes name
      rw [idle comes]
      exact (valued name).mp
    · intro _ _ after comes name
      rw [idle comes]
      exact (valued name).mpr
  cases named : definition.name with
  | none =>
    have code : hoist context (.function definition) = pure () := by
      simp only [hoist, named]
    refine ⟨before, congrFun code before, settled ?_ ?_⟩
    · simp [named]
    · simp [named]
  | some name =>
    obtain ⟨value, hoisted, hoists, scope⟩ := hoist_function named present
    refine ⟨hoisted, hoists, settled (fun other => ?_) fun other => ?_⟩
    · rw [Heap.bindsOwn, Heap.bindsOwn, scope, Scope.get?_set, named]
      by_cases same : other = name
      · simp [same]
      · simp [same]
    · rw [scope, Scope.hasValue_set, named]
      by_cases same : other = name
      · simp [same]
      · simp [same]

end Runs

/-- The names that a pattern lists are those that it gives values, each the part of the value that
it stands for, and a failure leaves the later ones of them alone. So the names that are bound and
exported for a declaration are those that it gives values. -/
theorem bound_names_initialized {others : State → State → Prop} {context : Context}
    (spares : SparesScope context.environment.innermost others) :
    (∀ bound pattern value isMutable,
      Initializes others context isMutable pattern.boundNames
        (fun before _ given after =>
          Takes others context isMutable pattern value given before after)
        ((Interpreter.within bound).bind pattern value isMutable context)) ∧
    (∀ bound kind declarators,
      Initializes others context (isMutableKind kind)
        (VariableDeclaration.mk kind declarators).boundNames
        (fun before _ given after =>
          TakesDeclarators others context (isMutableKind kind) declarators given before after)
        (runDeclaration (Interpreter.within bound) context (.mk kind declarators))) ∧
    ∀ declaration : Declaration,
      (∀ before : State, context.environment.innermost.index < before.heap.scopes.size →
        ∃ hoisted, hoist context declaration.statement before = .done () hoisted ∧
          Declares others context declaration before hoisted) ∧
      ∀ source state, Plugin.Lowering.item source state (.exportDeclaration declaration) =
        state.push (declaration.statement :: declaration.boundNames.map fun name =>
          Plugin.exportStatement name (.identifier name)) := by
  refine ⟨fun bound pattern value isMutable => bind_within_initializes spares bound pattern value,
    runDeclaration_initializes spares,
    fun declaration => ⟨fun before present => ?_, fun source state => ?_⟩⟩
  · cases declaration with
    | function definition => exact declares_function definition present
    | «variables» declaration => exact declares_variables spares declaration present
  · cases declaration with
    | function definition => rfl
    | «variables» declaration => rfl

/-- The names of nested patterns: what remains of an object, a default for a missing item, and what
remains of an array. -/
theorem bound_names_initialized_nested :
    let context : Context := ⟨⟨0⟩, ⟨⟨0⟩, []⟩, .undefined⟩
    let pattern : Pattern := .array
      [.object [.mk (.fixed "a") (.identifier "a") true] (some (.identifier "b")),
        .withDefault (.identifier "c") (.literal (.boolean true))]
      (some (.identifier "d"))
    let made := ({ scopes := #[{}] } : Heap).createObject [("a", .text "x"), ("e", .text "y")]
    let whole := made.2.allocateValue (.array [made.1] {})
    ∃ after given,
      ((Interpreter.within 5).bind pattern whole.1 false context { heap := whole.2 }).ComesTo Eq
        (.ok ()) after ∧
      whole.2.Gives ⟨0⟩ false given after.heap ∧ given.map Prod.fst = ["a", "b", "c", "d"] := by
  intro context pattern made whole
  have runs : ∃ after, ((Interpreter.within 5).bind pattern whole.1 false context
      { heap := whole.2 }).ComesTo Eq (.ok ()) after := ⟨_, rfl, rfl⟩
  obtain ⟨after, runs⟩ := runs
  have alone : SparesScope context.environment.innermost Eq :=
    fun _ _ same => .of_scopes (by rw [same])
  have binds := (bound_names_initialized alone).1 5 pattern whole.1 false
  obtain ⟨given, gives, -, all⟩ := binds { heap := whole.2 } _ after (by decide) runs
  exact ⟨after, given, runs, gives, (all () rfl).1⟩

end Evaluation

end PluginSandbox.Script
