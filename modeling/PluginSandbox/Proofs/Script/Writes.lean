import PluginSandbox.Proofs.Script.Constants

/-!
# Writes to ordinary objects

An ordinary object keeps its properties in a table, so a write replaces the value of one key and
nothing else. What names stand for does not depend on objects.
-/
namespace PluginSandbox.Script

theorem Properties.get?_set (properties : Properties) (key other : String) (value : Value) :
    (properties.set key value).get? other =
      if other = key then some value else properties.get? other := by
  obtain ⟨entries⟩ := properties
  change (insertEntry key value entries).lookup other =
    if other = key then some value else entries.lookup other
  induction entries with
  | nil =>
    by_cases same : other = key
    · simp [insertEntry, same]
    · simp [insertEntry, List.lookup_cons, beq_false_of_ne same, same]
  | cons entry rest ih =>
    obtain ⟨first, old⟩ := entry
    unfold insertEntry
    by_cases found : first = key
    · subst found
      by_cases same : other = first
      · simp [same]
      · simp [List.lookup_cons, beq_false_of_ne same, same]
    · by_cases same : other = first
      · subst same
        simp [found]
      · simp only [found, if_false, List.lookup_cons, beq_false_of_ne same, ih]

namespace Heap

variable {heap : Heap} {ref : Ref} {properties : Properties}

/-- An ordinary object is no view of another one. -/
theorem unwrap_of_ordinary (ordinary : heap.object? ref = some (.ordinary properties)) :
    heap.unwrap (.object ref) = .object ref := by
  unfold unwrap layers
  cases heap.objects.size with
  | zero => rfl
  | succ bound => simp [layersWithin, ordinary]

/-- A property of an ordinary object is written to its table. -/
theorem written_of_ordinary (ordinary : heap.object? ref = some (.ordinary properties))
    (key : String) (value : Value) :
    heap.written (.object ref) key value = .ok (ref, .ordinary (properties.set key value)) := by
  unfold written
  rw [unwrap_of_ordinary ordinary]
  dsimp only
  rw [ordinary]
  rfl

theorem object?_replace (present : (heap.object? ref).isSome) (object : Object) :
    (heap.replace ref object).object? ref = some object := by
  have bound : ref.index < heap.objects.size := by
    simpa [object?] using present
  simp [object?, replace, bound]

/-- A name that the innermost scope does not bind is read in the scopes around it. -/
theorem readName_of_outer {inner : ScopeRef} {environment : Environment} {name : String}
    (other : heap.ownBinding? ⟨inner, environment.scopes⟩ name = none) :
    heap.readName ⟨inner, environment.scopes⟩ name = heap.readName environment name := by
  have found : heap.findBinding name (Environment.scopes ⟨inner, environment.scopes⟩) =
      heap.findBinding name environment.scopes := by
    change heap.findBinding name (inner :: environment.scopes) = _
    rw [findBinding, show (heap.scope inner).get? name = none from other]
  rw [readName, readName, found]

theorem keyOf_text (heap : Heap) (text : String) : heap.keyOf (.text text) = text := by
  unfold keyOf textOf
  cases heap.objects.size <;> rfl

end Heap

/-- The state after a property of an ordinary object was written. -/
def writing (ref : Ref) (properties : Properties) (state : State) : State :=
  { state with heap := state.heap.replace ref (.ordinary properties) }

theorem writeProperty_ordinary {ref : Ref} {properties : Properties} {state : State}
    (ordinary : state.heap.object? ref = some (.ordinary properties)) (key : String)
    (value : Value) :
    writeProperty (.object ref) key value state =
      .done () (writing ref (properties.set key value) state) := by
  have write : (Code.tryHeap fun heap => heap.written (.object ref) key value :
      Eval (Ref × Object)) state = .done (ref, .ordinary (properties.set key value)) state :=
    Code.tryHeap_of_ok (Heap.written_of_ordinary ordinary key value)
  exact Code.bind_of_done write _

namespace Evaluation

open Syntax

variable {context : Context} {ref : Ref} {properties : Properties} {state : State}

/-- What a name stands for does not depend on objects. -/
theorem readName_writing (others : Properties) (environment : Environment) (name : String) :
    (writing ref others state).heap.readName environment name =
      state.heap.readName environment name := by
  have same (scopes : List ScopeRef) : (writing ref others state).heap.findBinding name scopes =
      state.heap.findBinding name scopes := by
    induction scopes with
    | nil => rfl
    | cons first outer ih =>
      rw [Heap.findBinding, Heap.findBinding, ih]
      rfl
  rw [Heap.readName, Heap.readName, same]

/-- A name that is read has its value. -/
theorem identifier_runs (bound : Nat) {name : String} {value : Value}
    (reads : state.heap.readName context.environment name = .ok value) :
    (Interpreter.within (bound + 1)).expression (.identifier name) context state =
      .done value state := by
  have read : (Code.tryHeap fun heap => heap.readName context.environment name : Eval Value)
      state = .done value state :=
    Code.tryHeap_of_ok reads
  exact read

/-- A name that cannot be read fails. -/
theorem identifier_fails (bound : Nat) {name : String} {error : RuntimeError}
    (unread : state.heap.readName context.environment name = .error error) :
    (Interpreter.within (bound + 1)).expression (.identifier name) context state =
      .failed error state := by
  have fails : (Code.tryHeap fun heap => heap.readName context.environment name : Eval Value)
      state = .failed error state :=
    Code.tryHeap_of_error unread
  exact fails

/-- A property that was found is written. -/
theorem assignTo_runs {self : Interpreter} {target : Expr} {evaluate : Eval (Value × String)}
    {object value : Value} {key : String} {middle : State}
    (property : evaluateTarget? self context target = some evaluate)
    (found : evaluate state = .done (object, key) middle) :
    assignTo self context target value state = writeProperty object key value middle := by
  unfold assignTo
  split
  · cases property
  · rw [property]
    exact Code.bind_of_done found _

/-- A place in brackets is found by the value of its object and the text of its key. -/
theorem index_found {self : Interpreter} {base index : Expr} {object : Value} {key : String}
    (first : self.expression base context state = .done object state)
    (second : self.expression index context state = .done (.text key) state) :
    (do
      let object ← self.expression base context
      let key ← self.expression index context
      return (object, ← Code.readHeap fun heap => heap.keyOf key) : Eval (Value × String)) state =
      .done (object, key) state := by
  have text : (Code.readHeap fun heap => heap.keyOf (.text key) : Eval String) state =
      .done key state :=
    congrArg (Run.done · state) (state.heap.keyOf_text key)
  refine (Code.bind_of_done first _).trans ?_
  refine (Code.bind_of_done second _).trans ?_
  exact Code.bind_of_done text _

/-- An assignment to a property of an ordinary object writes it after its value is known. -/
theorem assignment_runs (bound : Nat) {target expression : Expr} {value : Value} {key : String}
    {evaluate : Eval (Value × String)} {middle : State}
    (evaluates : (Interpreter.within (bound + 1)).expression expression context state =
      .done value middle)
    (property : evaluateTarget? (Interpreter.within (bound + 1)) context target = some evaluate)
    (found : evaluate middle = .done (.object ref, key) middle)
    (ordinary : middle.heap.object? ref = some (.ordinary properties)) :
    (Interpreter.within (bound + 3)).statement
        (.expression (.assign .assign target expression)) context state =
      .done .normal (writing ref (properties.set key value) middle) := by
  have writes := (assignTo_runs property found).trans
    (writeProperty_ordinary ordinary key value)
  have stores : evaluateAssignment.store (Interpreter.within (bound + 1)) context target value
      middle = .done value (writing ref (properties.set key value) middle) :=
    Code.bind_of_done writes _
  have assigns : (Interpreter.within (bound + 2)).expression
      (.assign .assign target expression) context state =
        .done value (writing ref (properties.set key value) middle) :=
    (Code.bind_of_done evaluates _).trans stores
  exact Code.bind_of_done assigns _

/-- A property in brackets is read, or the read fails; nothing changes. -/
theorem index_runs (bound : Nat) (module : String) {index : Expr} {key : String}
    (second : (Interpreter.within (bound + 2)).expression index context state =
      .done (.text key) state) :
    ∃ read, (Interpreter.within (bound + 4)).expression (.index (.identifier module) index false)
      context state = .ended read state := by
  cases found : state.heap.readName context.environment module with
  | error error =>
    have link : (Interpreter.within (bound + 2)).chain (.identifier module) context state =
        .failed error state :=
      Code.bind_of_failed (identifier_fails bound found) _
    exact ⟨.error error, Code.bind_of_failed (Code.bind_of_failed link _) _⟩
  | ok object =>
    have link : (Interpreter.within (bound + 2)).chain (.identifier module) context state =
        .done (.reached .undefined object) state :=
      Code.bind_of_done (identifier_runs bound found) _
    have text : (do
        let value ← (Interpreter.within (bound + 2)).expression index context
        Code.readHeap fun heap => heap.keyOf value : Eval String) state = .done key state :=
      (Code.bind_of_done second _).trans
        (congrArg (Run.done · state) (state.heap.keyOf_text key))
    have reads (read : Except RuntimeError Value)
        (same : state.heap.read context.realm object key = read) :
        (Code.tryHeap fun heap => heap.read context.realm object key : Eval Value) state =
          .ended read state := by
      rw [Code.tryHeap_apply, same]
    cases same : state.heap.read context.realm object key with
    | error error =>
      have follows : (Interpreter.within (bound + 3)).chain
          (.index (.identifier module) index false) context state = .failed error state :=
        (Code.bind_of_done link _).trans
          ((Code.bind_of_done text _).trans (Code.bind_of_failed (reads _ same) _))
      exact ⟨.error error, Code.bind_of_failed follows _⟩
    | ok value =>
      have follows : (Interpreter.within (bound + 3)).chain
          (.index (.identifier module) index false) context state =
            .done (.reached object value) state :=
        (Code.bind_of_done link _).trans
          ((Code.bind_of_done text _).trans (Code.bind_of_done (reads _ same) _))
      exact ⟨.ok value, Code.bind_of_done follows _⟩

end Evaluation

end PluginSandbox.Script
