import PluginSandbox.Proofs.Script.Holding
import PluginSandbox.Proofs.Script.Links
import PluginSandbox.Proofs.Script.Writes

/-!
# The targets of assignments and changes by one

A compound assignment to a property, or a change of it by one, is meant to evaluate the object and
the key once. They are evaluated twice, to read the property and to write it, so an effect in them
happens twice, and another property may be written than was read. Where they have no effect and
come to the same object and the same key again, nobody sees the difference; so it is with
constants, whatever the value of the assignment does. An operator that keeps the value that it finds
evaluates nothing more.
-/
namespace PluginSandbox.Script.Evaluation

open Code
open Syntax

section Once

variable (self : Interpreter) (context : Context)

/-- The value of an assignment, from how its target is read and how a value is stored in it. -/
def assigning (operator : AssignmentOperator) (value : Expr) (read : Eval Value)
    (store : Value → Eval Value) : Eval Value := do
  match guardOperator? operator, compoundOperator? operator with
  | some guardOperator, _ =>
    let current ← read
    if skipsSecond guardOperator current then return current
    else store (← self.expression value context)
  | none, some binary =>
    let current ← read
    let operand ← self.expression value context
    store (← tryHeap fun heap => heap.apply context.realm binary current operand)
  | none, none => store (← self.expression value context)

/-- The value of an assignment to a property whose object and key are evaluated once. -/
def assignOnce (evaluate : Eval (Value × String)) (operator : AssignmentOperator) (value : Expr) :
    Eval Value := do
  let (object, key) ← evaluate
  assigning self context operator value
    (tryHeap fun heap => heap.read context.realm object key) fun stored => do
      writeProperty object key stored
      return stored

/-- The value of a change by one of a property whose object and key are evaluated once. -/
def updateOnce (evaluate : Eval (Value × String)) (operator : UpdateOperator) (isPrefix : Bool) :
    Eval Value := do
  let (object, key) ← evaluate
  let value ← tryHeap fun heap => heap.read context.realm object key
  let old ← readHeap fun heap => heap.numberOf value
  let new :=
    match operator with
    | .increment => old + 1.0
    | .decrement => old - 1.0
  writeProperty object key (.number new)
  return .number (if isPrefix then new else old)

end Once

/-- In a state, a target comes to an object and a key without any effect: to read it is to read that
property, and it is the property that is written. -/
structure Finds (bound : Nat) (context : Context) (target : Expr)
    (evaluate : Eval (Value × String)) (object : Value) (key : String) (state : State) : Prop where
  /-- The property is read. -/
  reads : (Interpreter.within bound).expression target context state =
    (tryHeap fun heap => heap.read context.realm object key : Eval Value) state
  /-- The property is found to be written. -/
  writes : evaluate state = .done (object, key) state

section Assignments

variable {bound : Nat} {context : Context} {target value : Expr}
  {evaluate : Eval (Value × String)} {object : Value} {key : String}
  {others : State → State → Prop} {before after : State} {outcome : Except RuntimeError Value}

/-- A change by one of a property that is found without effects is one that evaluates it once. -/
theorem update_eq_updateOnce
    (property : evaluateTarget? (Interpreter.within bound) context target = some evaluate)
    (finds : Finds bound context target evaluate object key before) (operator : UpdateOperator)
    (isPrefix : Bool) :
    (Interpreter.within (bound + 1)).expression (.update operator isPrefix target) context before =
      updateOnce context evaluate operator isPrefix before := by
  refine (bind_at finds.reads _).trans (.trans ?_ (bind_of_done finds.writes _).symm)
  cases read : before.heap.read context.realm object key with
  | error error =>
    have fails : (tryHeap fun heap => heap.read context.realm object key : Eval Value) before =
        .failed error before := tryHeap_of_error read
    exact (bind_of_failed fails _).trans (bind_of_failed fails _).symm
  | ok current =>
    have reads : (tryHeap fun heap => heap.read context.realm object key : Eval Value) before =
        .done current before := tryHeap_of_ok read
    refine (bind_of_done reads _).trans (.trans ?_ (bind_of_done reads _).symm)
    exact bind_at (assignTo_runs property finds.writes) _

/-- Assignments come to the same if their targets are read alike, without any effect, and if values
are stored alike after the value of the assignment is known. -/
theorem assigning_congr {read : Eval Value} {find : Heap → Except RuntimeError Value}
    {store store' : Value → Eval Value} (operator : AssignmentOperator)
    (reads : read before = tryHeap find before)
    (stores : ∀ operand middle,
      ((Interpreter.within bound).expression value context before).ComesTo others (.ok operand)
        middle → ∀ stored, store stored middle = store' stored middle) :
    (assigning (Interpreter.within bound) context operator value read store before).ComesTo others
        outcome after ↔
      (assigning (Interpreter.within bound) context operator value (tryHeap find) store'
        before).ComesTo others outcome after := by
  -- After the target is read, nothing has changed yet.
  have reading (next next' : Value → Eval Value)
      (alike : ∀ current, (next current before).ComesTo others outcome after ↔
        (next' current before).ComesTo others outcome after) :
      ((read >>= next) before).ComesTo others outcome after ↔
        ((tryHeap find >>= next') before).ComesTo others outcome after := by
    rw [bind_at reads]
    cases found : find before.heap with
    | error error =>
      have fails : (tryHeap find : Eval Value) before = .failed error before :=
        tryHeap_of_error found
      rw [bind_of_failed fails, bind_of_failed fails]
    | ok current =>
      have done : (tryHeap find : Eval Value) before = .done current before := tryHeap_of_ok found
      rw [bind_of_done done, bind_of_done done]
      exact alike current
  have stored : (((Interpreter.within bound).expression value context >>= store)
        before).ComesTo others outcome after ↔
      (((Interpreter.within bound).expression value context >>= store') before).ComesTo others
        outcome after :=
    comesTo_bind_congr fun operand middle comes => stores operand middle comes operand
  unfold assigning
  cases guardOperator? operator with
  | some guardOperator =>
    refine reading _ _ fun current => ?_
    cases skipsSecond guardOperator current with
    | true => exact Iff.rfl
    | false => exact stored
  | none =>
    cases compoundOperator? operator with
    | none => exact stored
    | some binary =>
      refine reading _ _ fun current => comesTo_bind_congr fun operand middle comes => ?_
      cases result : middle.heap.apply context.realm binary current operand with
      | error error =>
        have fails : (tryHeap fun heap => heap.apply context.realm binary current operand :
            Eval Value) middle = .failed error middle := tryHeap_of_error result
        rw [bind_of_failed fails, bind_of_failed fails]
      | ok value =>
        have done : (tryHeap fun heap => heap.apply context.realm binary current operand :
            Eval Value) middle = .done value middle := tryHeap_of_ok result
        rw [bind_of_done done, bind_of_done done]
        exact stores operand middle comes value

/-- An assignment to a property that is found without effects, before its value is evaluated and
after, comes to the same as one that evaluates the property once. -/
theorem assign_comesTo_assignOnce
    (property : evaluateTarget? (Interpreter.within bound) context target = some evaluate)
    (now : Finds bound context target evaluate object key before)
    (later : ∀ operand middle,
      ((Interpreter.within bound).expression value context before).ComesTo others (.ok operand)
        middle → Finds bound context target evaluate object key middle)
    (operator : AssignmentOperator) :
    ((Interpreter.within (bound + 1)).expression (.assign operator target value) context
        before).ComesTo others outcome after ↔
      (assignOnce (Interpreter.within bound) context evaluate operator value before).ComesTo others
        outcome after := by
  rw [assignOnce, bind_of_done now.writes]
  exact assigning_congr operator now.reads fun operand middle comes stored =>
    bind_at (assignTo_runs property (later operand middle comes).writes) _

end Assignments

/-- The text of a key that does not depend on objects. -/
def keyText? : Value → Option String
  | .object _ => none
  | value => some (Heap.keyOf {} value)

theorem keyOf_of_keyText? {value : Value} {key : String} (text : keyText? value = some key)
    (heap : Heap) : heap.keyOf value = key := by
  cases value with
  | object ref => cases text
  | _ =>
    obtain rfl := Option.some.inj text
    unfold Heap.keyOf Heap.textOf
    cases heap.objects.size <;> rfl

section Constants

variable (context : Context) (constants : List (String × Value))

/-- The value of a literal, of the receiver or of a constant. -/
def fixedValue? : Expr → Option Value
  | .literal value => some (literalValue value)
  | .this => some context.this
  | .identifier name => constants.lookup name
  | _ => none

/-- The object and the key of a property whose object and key are constants. -/
def fixedTarget? : Expr → Option (Value × String)
  | .member e name optional => do
    let object ← fixedValue? context constants e
    if optional && object.isNullish then none else some (object, name)
  | .index e index optional => do
    let object ← fixedValue? context constants e
    let key ← keyText? (← fixedValue? context constants index)
    if optional && object.isNullish then none else some (object, key)
  | _ => none

variable {context constants} {state : State} {e target : Expr} {value object : Value} {key : String}

/-- A constant has its value, and nothing changes. -/
theorem fixed_runs (bound : Nat) (holds : Holds context.environment.innermost constants state)
    (fixed : fixedValue? context constants e = some value) :
    (Interpreter.within (bound + 1)).expression e context state = .done value state := by
  cases e with
  | literal literal =>
    obtain rfl := Option.some.inj fixed
    rfl
  | this =>
    obtain rfl := Option.some.inj fixed
    rfl
  | identifier name =>
    obtain ⟨earlier, later, rfl, -⟩ := List.lookup_eq_some_iff.mp fixed
    have member : (name, value) ∈ earlier ++ (name, value) :: later :=
      List.mem_append_right _ List.mem_cons_self
    exact identifier_runs bound (holds.reads member)
  | _ => cases fixed

/-- The object of a property that is a constant is reached without any effect. -/
theorem fixed_reached (bound : Nat) (holds : Holds context.environment.innermost constants state)
    (fixed : fixedValue? context constants e = some value) :
    (Interpreter.within (bound + 2)).chain e context state =
      .done (.reached .undefined value) state := by
  have alone : (Interpreter.within (bound + 2)).chain e context =
      (Interpreter.within (bound + 1)).expression e context >>= fun value =>
        pure (.reached .undefined value) := by
    cases e with
    | member | index | call => cases fixed
    | _ => rfl
  rw [alone]
  exact bind_of_done (fixed_runs bound holds fixed) _

/-- To read a property of an object that is reached without any effect is to follow its link. -/
theorem property_reads (bound : Nat) (suffix : Suffix) {receiver : Value}
    (reached : (Interpreter.within bound).chain e context state =
      .done (.reached receiver object) state)
    (goesOn : stopsAt suffix object = false) :
    (Interpreter.within (bound + 2)).expression (suffix.apply e) context state =
      followSuffix (Interpreter.within bound) context e receiver object suffix state := by
  have links : (suffix.apply e).suffixes ≠ [] := by
    rw [Expr.suffixes_apply]
    exact List.append_ne_nil_of_right_ne_nil _ nofun
  rw [expression_of_chain context _ links]
  change ((evaluateChain (Interpreter.within bound) context (suffix.apply e) >>= _ : Eval Value)
    state) = _
  rw [evaluateChain_apply, bind_assoc, bind_of_done reached, followLink, goesOn,
    if_neg Bool.false_ne_true, bind_assoc]
  exact congrFun (bind_pure (followSuffix (Interpreter.within bound) context e receiver object
    suffix)) state

/-- A property whose object and key are constants is found without any effect. -/
theorem finds_of_fixed (bound : Nat)
    (fixed : fixedTarget? context constants target = some (object, key)) :
    ∃ evaluate, evaluateTarget? (Interpreter.within (bound + 4)) context target = some evaluate ∧
      ∀ state, Holds context.environment.innermost constants state →
        Finds (bound + 4) context target evaluate object key state := by
  cases target with
  | member e name optional =>
    simp only [fixedTarget?, Option.bind_eq_bind, Option.bind_eq_some_iff] at fixed
    obtain ⟨value, first, fixed⟩ := fixed
    split at fixed
    case isTrue => cases fixed
    case isFalse goesOn =>
      cases fixed
      refine ⟨_, rfl, fun state holds => ⟨?_, ?_⟩⟩
      · exact property_reads (bound + 2) (.member _ optional) (fixed_reached bound holds first)
          (Bool.eq_false_iff.mpr goesOn)
      · exact bind_of_done (fixed_runs (bound + 3) holds first) _
  | index e index optional =>
    simp only [fixedTarget?, Option.bind_eq_bind, Option.bind_eq_some_iff] at fixed
    obtain ⟨value, first, keyValue, second, text, known, fixed⟩ := fixed
    split at fixed
    case isTrue => cases fixed
    case isFalse goesOn =>
      cases fixed
      have keyed {state : State} : (readHeap fun heap => heap.keyOf keyValue : Eval String) state =
          .done key state :=
        congrArg (Run.done · state) (keyOf_of_keyText? known state.heap)
      refine ⟨_, rfl, fun state holds => ⟨?_, ?_⟩⟩
      · refine (property_reads (bound + 2) (.index index optional) (fixed_reached bound holds first)
          (Bool.eq_false_iff.mpr goesOn)).trans ?_
        exact (bind_of_done (fixed_runs (bound + 1) holds second) _).trans (bind_of_done keyed _)
      · refine (bind_of_done (fixed_runs (bound + 3) holds first) _).trans ?_
        refine (bind_of_done (fixed_runs (bound + 3) holds second) _).trans ?_
        exact bind_of_done keyed _
  | _ => cases fixed

/-- Where object and key are constants, compound assignments and changes by one are like those that
evaluate them once, whatever the value of the assignment does and others do meanwhile. -/
theorem fixed_targets_once (bound : Nat) {others : State → State → Prop}
    (spares : SparesConstants others)
    (fixed : fixedTarget? context constants target = some (object, key)) :
    ∃ evaluate, evaluateTarget? (Interpreter.within (bound + 4)) context target = some evaluate ∧
      ∀ state, Holds context.environment.innermost constants state →
        (∀ operator isPrefix,
          (Interpreter.within (bound + 5)).expression (.update operator isPrefix target) context
              state =
            updateOnce context evaluate operator isPrefix state) ∧
        ∀ operator value outcome after,
          ((Interpreter.within (bound + 5)).expression (.assign operator target value) context
              state).ComesTo others outcome after ↔
            (assignOnce (Interpreter.within (bound + 4)) context evaluate operator value
              state).ComesTo others outcome after := by
  obtain ⟨evaluate, property, finds⟩ := finds_of_fixed bound fixed
  refine ⟨evaluate, property, fun state holds => ⟨?_, fun operator value outcome after => ?_⟩⟩
  · exact update_eq_updateOnce property (finds state holds)
  · refine assign_comesTo_assignOnce property (finds state holds)
      (fun operand middle comes => finds middle ?_) operator
    have sound : (Interpreter.within (bound + 4)).Sound
        (holding context.environment.innermost constants) :=
      Plugin.scripts_sound holding_admits (bound + 4)
    exact holds.comesTo spares (sound.expression value context) (fun _ _ => trivial) comes

end Constants

/-- An operator that keeps the value that it finds evaluates nothing more than its target, and that
once. Any compound assignment to a property and any change of it by one is like one that evaluates
object and key once and then reads and writes that property, if the target comes to the property
without any effect, and to the same one again after the value of the assignment. -/
theorem compound_targets (bound : Nat) (context : Context) :
    (∀ operator guardOperator target value, guardOperator? operator = some guardOperator →
      ∃ next : Value → Eval Value,
        (Interpreter.within (bound + 1)).expression (.assign operator target value) context =
          (Interpreter.within bound).expression target context >>= fun current =>
            if skipsSecond guardOperator current then pure current else next current) ∧
    ∀ target evaluate object key before,
      evaluateTarget? (Interpreter.within bound) context target = some evaluate →
      Finds bound context target evaluate object key before →
        (∀ operator isPrefix,
          (Interpreter.within (bound + 1)).expression (.update operator isPrefix target) context
              before =
            updateOnce context evaluate operator isPrefix before) ∧
        ∀ (others : State → State → Prop) value,
          (∀ operand middle,
            ((Interpreter.within bound).expression value context before).ComesTo others
              (.ok operand) middle → Finds bound context target evaluate object key middle) →
          ∀ operator outcome after,
            ((Interpreter.within (bound + 1)).expression (.assign operator target value) context
                before).ComesTo others outcome after ↔
              (assignOnce (Interpreter.within bound) context evaluate operator value
                before).ComesTo others outcome after := by
  constructor
  · intro operator guardOperator target value guards
    refine ⟨fun _ => (Interpreter.within bound).expression value context >>=
      evaluateAssignment.store (Interpreter.within bound) context target, ?_⟩
    change evaluateAssignment (Interpreter.within bound) context operator target value = _
    rw [evaluateAssignment, guards]
  · intro target evaluate object key before property finds
    exact ⟨update_eq_updateOnce property finds, fun others value later operator outcome after =>
      assign_comesTo_assignOnce property finds later operator⟩

/-- A state with an object that has one property, and with a text that is empty at first. -/
def growingState : State :=
  { heap :=
    { objects := #[.ordinary ⟨[("x", .text "a")]⟩]
      scopes := #[⟨[("s", ⟨some (.text ""), true⟩), ("o", ⟨some (.object ⟨0⟩), false⟩)]⟩] } }

/-- The property of `o.x += "b"` is found without any effect, and it is the one that is written. -/
theorem compound_targets_member :
    ∃ after, ((Interpreter.within 5).expression
        (.assign .add (.member (.identifier "o") "x" false) (.literal (.text "b"))) default
        growingState).ComesTo (fun _ _ => False) (.ok (.text "ab")) after ∧
      after.heap.getOwn? (.object ⟨0⟩) "x" = some (.text "ab") := by
  obtain ⟨-, assigns⟩ := (compound_targets 4 default).2 (.member (.identifier "o") "x" false) _
    (.object ⟨0⟩) "x" growingState rfl ⟨rfl, rfl⟩
  have once := assigns (fun _ _ => False) (.literal (.text "b")) fun operand middle comes => by
    obtain ⟨-, rfl⟩ := comes
    exact ⟨rfl, rfl⟩
  exact ⟨_, (once .add (.ok (.text "ab")) _).mpr ⟨rfl, rfl⟩, rfl⟩

/-- The key of `o[s += "x"] += "b"` is evaluated to read the property `x` and again to write, and so
the property `xx` is written. -/
theorem target_evaluated_twice :
    ∃ after, (Interpreter.within 6).expression
        (.assign .add (.index (.identifier "o")
          (.assign .add (.identifier "s") (.literal (.text "x"))) false) (.literal (.text "b")))
        default growingState = .done (.text "ab") after ∧
      after.heap.readName (default : Context).environment "s" = .ok (.text "xx") ∧
      after.heap.getOwn? (.object ⟨0⟩) "x" = some (.text "a") ∧
      after.heap.getOwn? (.object ⟨0⟩) "xx" = some (.text "ab") :=
  ⟨_, rfl, rfl, rfl, rfl⟩

end PluginSandbox.Script.Evaluation
