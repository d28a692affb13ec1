import PluginSandbox.Script.Run

/-!
# Laws of runs

Running one piece of code after another obeys the laws of a monad, so code may be regrouped.
While a run waits, others change the state; what a run comes to is stated for all that they may
do.
-/
namespace PluginSandbox.Script

variable {ε α β γ : Type}

namespace Run

/-- The run that has come to an end. -/
def ended : Except ε α → State → Run ε α
  | .ok value, state => .done value state
  | .error error, state => .failed error state

theorem bind_pure (run : Run ε α) : run.bind .done = run := by
  induction run with
  | waiting request state resume ih =>
    simp only [bind, Run.waiting.injEq, heq_eq_eq, true_and]
    funext reply state
    exact ih reply state
  | _ => rfl

theorem bind_assoc (run : Run ε α) (next : α → State → Run ε β) (last : β → State → Run ε γ) :
    (run.bind next).bind last = run.bind fun value state => (next value state).bind last := by
  induction run with
  | waiting request state resume ih =>
    simp only [bind, Run.waiting.injEq, heq_eq_eq, true_and]
    funext reply state
    exact ih reply state
  | _ => rfl

theorem bind_eq_andThen (run : Run ε α) (next : α → State → Run ε β) :
    run.bind next = run.andThen fun outcome state =>
      match outcome with
      | .ok value => next value state
      | .error error => .failed error state := by
  induction run with
  | waiting request state resume ih =>
    simp only [bind, andThen, Run.waiting.injEq, heq_eq_eq, true_and]
    funext reply state
    exact ih reply state
  | _ => rfl

theorem andThen_assoc {ε' ε'' : Type} (run : Run ε α) (next : Except ε α → State → Run ε' β)
    (last : Except ε' β → State → Run ε'' γ) :
    (run.andThen next).andThen last =
      run.andThen fun outcome state => (next outcome state).andThen last := by
  induction run with
  | waiting request state resume ih =>
    simp only [andThen, Run.waiting.injEq, heq_eq_eq, true_and]
    funext reply state
    exact ih reply state
  | _ => rfl

/-- Whether a run may come to an outcome in a state, when every request is answered and others may
change the state while it waits. -/
def ComesTo (others : State → State → Prop) (outcome : Except ε α) (after : State) :
    Run ε α → Prop
  | .done value state => outcome = .ok value ∧ after = state
  | .failed error state => outcome = .error error ∧ after = state
  | .exhausted => False
  | .waiting _ state resume =>
    ∃ reply next, others state next ∧ (resume reply next).ComesTo others outcome after

/-- Whether a run may ask for something in a state, when every request before is answered and
others may change the state while it waits. -/
def Asks (others : State → State → Prop) (request : Request) (asking : State) : Run ε α → Prop
  | .waiting earlier state resume => (earlier = request ∧ state = asking) ∨
    ∃ reply next, others state next ∧ (resume reply next).Asks others request asking
  | _ => False

variable {others : State → State → Prop}

theorem ended_eq_done {outcome : Except ε α} {state after : State} {value : α} :
    ended outcome state = .done value after ↔ outcome = .ok value ∧ state = after := by
  cases outcome <;> simp [ended]

theorem comesTo_ended {outcome last : Except ε α} {state after : State} :
    (ended outcome state).ComesTo others last after ↔ last = outcome ∧ after = state := by
  cases outcome <;> rfl

theorem asks_ended {outcome : Except ε α} {request : Request} {state asking : State} :
    ¬(ended outcome state).Asks others request asking := by
  cases outcome <;> exact id

/-- More may be asked for when others do more. -/
theorem Asks.mono {others' : State → State → Prop} {run : Run ε α} {request : Request}
    {asking : State} (asks : run.Asks others request asking)
    (more : ∀ {before after}, others before after → others' before after) :
    run.Asks others' request asking := by
  induction run with
  | waiting earlier state resume ih =>
    rcases asks with now | ⟨reply, next, changed, later⟩
    · exact .inl now
    · exact .inr ⟨reply, next, more changed, ih reply next later⟩
  | _ => exact asks.elim

/-- What a run comes to that goes on after its first part. -/
theorem comesTo_andThen {ε' : Type} {run : Run ε α} {next : Except ε α → State → Run ε' β}
    {last : Except ε' β} {after : State} :
    (run.andThen next).ComesTo others last after ↔ ∃ outcome state,
      run.ComesTo others outcome state ∧ (next outcome state).ComesTo others last after := by
  induction run with
  | done value state =>
    refine ⟨fun comes => ⟨_, _, ⟨rfl, rfl⟩, comes⟩, ?_⟩
    rintro ⟨_, _, ⟨rfl, rfl⟩, comes⟩
    exact comes
  | failed error state =>
    refine ⟨fun comes => ⟨_, _, ⟨rfl, rfl⟩, comes⟩, ?_⟩
    rintro ⟨_, _, ⟨rfl, rfl⟩, comes⟩
    exact comes
  | exhausted =>
    refine ⟨fun comes => comes.elim, ?_⟩
    rintro ⟨_, _, comes, _⟩
    exact comes.elim
  | waiting request state resume ih =>
    simp only [andThen, ComesTo, ih]
    constructor
    · rintro ⟨reply, next, changed, outcome, middle, comes, goesOn⟩
      exact ⟨outcome, middle, ⟨reply, next, changed, comes⟩, goesOn⟩
    · rintro ⟨outcome, middle, ⟨reply, next, changed, comes⟩, goesOn⟩
      exact ⟨reply, next, changed, outcome, middle, comes, goesOn⟩

end Run

namespace Code

/-- Code that goes on with a result runs after the code that has it. -/
theorem bind_apply (code : Code ε α) (next : α → Code ε β) (state : State) :
    (code >>= next) state = (code state).andThen fun outcome state =>
      match outcome with
      | .ok value => next value state
      | .error error => .failed error state :=
  Run.bind_eq_andThen (code state) fun value => next value

/-- Code that goes on with the outcome of other code runs after it. -/
theorem attempt_apply {ε' : Type} (code : Code ε α) (next : Except ε α → State → Run ε' β)
    (state : State) :
    ((attempt code : Code ε' (Except ε α)) state).bind next = (code state).andThen next := by
  rw [attempt, Run.bind_eq_andThen, Run.andThen_assoc]
  rfl

theorem tryHeap_apply (read : Heap → Except ε α) (state : State) :
    tryHeap read state = .ended (read state.heap) state := by
  unfold tryHeap
  cases read state.heap <;> rfl

theorem tryHeap_of_ok {read : Heap → Except ε α} {value : α} {state : State}
    (reads : read state.heap = .ok value) : tryHeap read state = .done value state := by
  rw [tryHeap_apply, reads]
  rfl

theorem tryHeap_of_error {read : Heap → Except ε α} {error : ε} {state : State}
    (fails : read state.heap = .error error) : tryHeap read state = .failed error state := by
  rw [tryHeap_apply, fails]
  rfl

theorem comesTo_tryHeap {others : State → State → Prop} {read : Heap → Except ε α}
    {before after : State} {outcome : Except ε α} :
    (tryHeap read before).ComesTo others outcome after ↔
      outcome = read before.heap ∧ after = before := by
  rw [tryHeap_apply, Run.comesTo_ended]

/-- What code comes to that goes on with a result: what follows the result, or the failure. -/
theorem comesTo_bind {others : State → State → Prop} {code : Code ε α} {next : α → Code ε β}
    {before after : State} {last : Except ε β} :
    ((code >>= next) before).ComesTo others last after ↔
      (∃ value middle, (code before).ComesTo others (.ok value) middle ∧
        (next value middle).ComesTo others last after) ∨
      ∃ error, last = .error error ∧ (code before).ComesTo others (.error error) after := by
  rw [bind_apply, Run.comesTo_andThen]
  constructor
  · rintro ⟨outcome, middle, comes, goesOn⟩
    cases outcome with
    | ok value => exact .inl ⟨value, middle, comes, goesOn⟩
    | error error =>
      obtain ⟨same, rfl⟩ := goesOn
      exact .inr ⟨error, same, comes⟩
  · rintro (⟨value, middle, comes, goesOn⟩ | ⟨error, same, comes⟩)
    · exact ⟨.ok value, middle, comes, goesOn⟩
    · exact ⟨.error error, after, comes, same, rfl⟩

/-- A result of code that goes on comes after a result of its first part. -/
theorem comesTo_bind_ok {others : State → State → Prop} {code : Code ε α} {next : α → Code ε β}
    {before after : State} {last : β} :
    ((code >>= next) before).ComesTo others (.ok last) after ↔
      ∃ value middle, (code before).ComesTo others (.ok value) middle ∧
        (next value middle).ComesTo others (.ok last) after := by
  rw [comesTo_bind]
  exact or_iff_left fun ⟨_, impossible, _⟩ => nomatch impossible

/-- Code does not go on after a failure. -/
theorem bind_of_failed {code : Code ε α} {error : ε} {state after : State}
    (fails : code state = .failed error after) (next : α → Code ε β) :
    (code >>= next) state = .failed error after := by
  rw [bind_apply, fails]
  rfl

/-- Code goes on with the result of the code before it. -/
theorem bind_of_done {code : Code ε α} {value : α} {state after : State}
    (ends : code state = .done value after) (next : α → Code ε β) :
    (code >>= next) state = next value after := by
  rw [bind_apply, ends]
  rfl

/-- Code goes on alike after codes that run alike. -/
theorem bind_at {code other : Code ε α} {state : State} (same : code state = other state)
    (next : α → Code ε β) : (code >>= next) state = (other >>= next) state := by
  rw [bind_apply, bind_apply, same]

/-- Code comes to the same if it goes on alike after everything that its first part comes to. -/
theorem comesTo_bind_congr {others : State → State → Prop} {code : Code ε α}
    {next next' : α → Code ε β} {before after : State} {last : Except ε β}
    (alike : ∀ value middle, (code before).ComesTo others (.ok value) middle →
      next value middle = next' value middle) :
    ((code >>= next) before).ComesTo others last after ↔
      ((code >>= next') before).ComesTo others last after := by
  rw [comesTo_bind, comesTo_bind]
  refine or_congr_left (exists_congr fun value => exists_congr fun middle => ?_)
  refine and_congr_right fun comes => ?_
  rw [alike value middle comes]

end Code

instance : LawfulMonad (Code ε) :=
  LawfulMonad.mk' (Code ε)
    (fun code => funext fun state => Run.bind_pure (code state))
    (fun _ _ => rfl)
    (fun code next last => funext fun state =>
      Run.bind_assoc (code state) (fun value => next value) fun value => last value)

end PluginSandbox.Script
