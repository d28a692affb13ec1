import PluginSandbox.Proofs.Script.Copies
import PluginSandbox.Proofs.Script.Presence

/-!
# Rounds of counting loops

A counting loop runs its rounds one after the other, each with a copy of the variables of the one
before. Functions that a round creates see the variables of that round, or of earlier ones. As the
copy that the next round gets is new, they do not see it, and what the update and the later rounds
write in their copies is not read by them.
-/
namespace PluginSandbox.Script

open Evaluation Syntax

namespace Evaluation

/-- What a counting loop begins with: the names that every round copies, and what the first round
sees. -/
def beginLoop (self : Interpreter) (start : Option LoopStart) (context : Context) :
    Eval (List String × Context) := do
  let inner ← openScope context
  let names ← startLoop self inner start
  return (names, ← copyScope inner names)

theorem runStatement_for (self : Interpreter) (start : Option LoopStart)
    (test update : Option Expr) (body : Statement) (context : Context) :
    runStatement self (.for start test update body) context = (do
      let (names, first) ← beginLoop self start context
      self.rounds test update body names first) := by
  simp [runStatement, beginLoop]

section Opening

variable {context next : Context} {before after : State} (closed : before.heap.Closed)
  (present : closing.Knows context.environment.scopes before)
include closed present

/-- Code that opens a scope sees scopes that are there. -/
theorem openScope_closed
    (opens : (openScope context before).ComesTo closing.Interferes (.ok next) after) :
    after.heap.Closed ∧ closing.acts before after ∧
      closing.Knows next.environment.scopes after := by
  obtain ⟨same, rfl⟩ := opens
  obtain rfl := Except.ok.inj same
  exact closed.opens {} present

/-- Code that copies its innermost scope sees scopes that are there. -/
theorem copyScope_closed {names : List String}
    (copies : (copyScope context names before).ComesTo closing.Interferes (.ok next) after) :
    after.heap.Closed ∧ closing.acts before after ∧
      closing.Knows next.environment.scopes after := by
  obtain ⟨same, rfl⟩ := copies
  obtain rfl := Except.ok.inj same
  have outer : closing.Knows context.environment.outer before :=
    fun ref member => present ref (List.mem_cons_of_mem _ member)
  exact closed.opens _ outer

end Opening

end Evaluation

/-- The head and the body of a counting loop. -/
structure CountingLoop where
  /-- What comes before the rounds. -/
  start : Option LoopStart
  /-- What is to hold so that a round runs. -/
  test : Option Expr
  /-- What comes between two rounds. -/
  update : Option Expr
  /-- What a round runs. -/
  body : Statement

namespace CountingLoop

/-- The loop as a statement. -/
def statement (loop : CountingLoop) : Statement :=
  .for loop.start loop.test loop.update loop.body

/-- A round of a loop. -/
structure Round where
  /-- The bound of what it runs. -/
  bound : Nat
  /-- The names that are copied for every round. -/
  names : List String
  /-- What its test and its body see. -/
  context : Context
  /-- The state that it begins in. -/
  begun : State
  /-- The state that it ends in. -/
  ended : State

variable (loop : CountingLoop) (others : State → State → Prop)

/-- Whether a round runs, and how the loop ends with it unless another round follows. -/
def Runs (round : Round) (completion? : Option Completion) : Prop :=
  (runRound (Interpreter.within round.bound) loop.test loop.body round.context
    round.begun).ComesTo others (.ok completion?) round.ended

/-- Whether a round is the first one of the loop when that runs in a context. -/
def Begins (context : Context) (before : State) (round : Round) : Prop :=
  (beginLoop (Interpreter.within (round.bound + 1)) loop.start context before).ComesTo others
    (.ok (round.names, round.context)) round.begun

/-- Whether a round runs and another one comes next. -/
structure Follows (round next : Round) : Prop where
  /-- The round does not end the loop. -/
  runs : loop.Runs others round none
  /-- What comes next runs within a smaller bound. -/
  bound : round.bound = next.bound + 1
  /-- It copies the same names. -/
  names : next.names = round.names
  /-- It begins with a copy, in which the update has run. -/
  begins : (beginRound (Interpreter.within round.bound) loop.update round.names round.context
    round.ended).ComesTo others (.ok next.context) next.begun

/-- Whether a round comes after another one, or is that round. -/
def Reaches : Round → Round → Prop :=
  Relation.ReflTransGen (loop.Follows others)

/-- What is left of the loop when a round begins. -/
def rest (round : Round) : Eval Completion :=
  (Interpreter.within (round.bound + 1)).rounds loop.test loop.update loop.body round.names
    round.context

variable {loop others} {round : Round} {before after : State} {completion : Completion}

/-- What is left of a loop ends with the round, or with what is left when the next one begins. -/
theorem comesTo_rest :
    (loop.rest round round.begun).ComesTo others (.ok completion) after ↔
      loop.Runs others { round with ended := after } (some completion) ∨
      ∃ ended next, loop.Follows others { round with ended } next ∧
        (loop.rest next next.begun).ComesTo others (.ok completion) after := by
  change (runRounds (Interpreter.within round.bound) loop.test loop.update loop.body round.names
    round.context round.begun).ComesTo others (.ok completion) after ↔ _
  rw [runRounds_eq, Code.comesTo_bind_ok]
  constructor
  · rintro ⟨completion?, ended, runs, comes⟩
    cases completion? with
    | some last =>
      obtain ⟨same, rfl⟩ := comes
      cases same
      exact .inl runs
    | none =>
      obtain ⟨next, begun, begins, comes⟩ := Code.comesTo_bind_ok.mp comes
      obtain ⟨bound, names, context, start, _⟩ := round
      cases bound with
      | zero => exact comes.elim
      | succ bound =>
        have follows : loop.Follows others ⟨bound + 1, names, context, start, ended⟩
            ⟨bound, names, next, begun, begun⟩ := ⟨runs, rfl, rfl, begins⟩
        exact .inr ⟨ended, _, follows, comes⟩
  · rintro (runs | ⟨ended, next, follows, comes⟩)
    · exact ⟨some completion, after, runs, rfl, rfl⟩
    · obtain ⟨runs, bound, names, begins⟩ := follows
      refine ⟨none, ended, runs, Code.comesTo_bind_ok.mpr ⟨next.context, next.begun, begins, ?_⟩⟩
      rw [rest, names, ← bound] at comes
      exact comes

/-- When a round follows does not depend on how it ends. -/
theorem Follows.withEnd {next : Round} (follows : loop.Follows others round next) (ended : State) :
    loop.Follows others round { next with ended } :=
  ⟨follows.runs, follows.bound, follows.names, follows.begins⟩

/-- What is left of a loop comes to what the last round ends it with. -/
theorem Reaches.comesTo {last : Round} (reaches : loop.Reaches others round last)
    (ends : loop.Runs others last (some completion)) :
    (loop.rest round round.begun).ComesTo others (.ok completion) last.ended := by
  induction reaches using Relation.ReflTransGen.head_induction_on with
  | refl => exact comesTo_rest.mpr (.inl ends)
  | head follows _ ih => exact comesTo_rest.mpr (.inr ⟨_, _, follows, ih⟩)

/-- What is left of a loop ends with the last one of the rounds that follow each other. -/
theorem comesTo_rest_iff :
    (loop.rest round round.begun).ComesTo others (.ok completion) after ↔
      ∃ ended last, loop.Reaches others { round with ended } last ∧
        loop.Runs others last (some completion) ∧ last.ended = after := by
  constructor
  · intro comes
    obtain ⟨bound, size⟩ : ∃ bound, round.bound = bound := ⟨_, rfl⟩
    induction bound generalizing round with
    | zero =>
      rcases comesTo_rest.mp comes with runs | ⟨ended, next, follows, comes⟩
      · exact ⟨after, _, .refl, runs, rfl⟩
      · have bound : round.bound = next.bound + 1 := follows.bound
        omega
    | succ bound ih =>
      rcases comesTo_rest.mp comes with runs | ⟨ended, next, follows, comes⟩
      · exact ⟨after, _, .refl, runs, rfl⟩
      · have smaller : round.bound = next.bound + 1 := follows.bound
        obtain ⟨stopped, last, reaches, ends⟩ := ih comes (by omega)
        exact ⟨ended, last, .head (follows.withEnd stopped) reaches, ends⟩
  · rintro ⟨ended, last, reaches, ends, rfl⟩
    exact reaches.comesTo ends

/-- A loop ends with the last one of the rounds that follow each other. -/
theorem comesTo_statement {bound : Nat} {context : Context} :
    ((Interpreter.within (bound + 2)).statement loop.statement context before).ComesTo others
        (.ok completion) after ↔
      ∃ first last, first.bound = bound ∧ loop.Begins others context before first ∧
        loop.Reaches others first last ∧ loop.Runs others last (some completion) ∧
          last.ended = after := by
  change (runStatement (Interpreter.within (bound + 1)) (.for loop.start loop.test loop.update
    loop.body) context before).ComesTo others (.ok completion) after ↔ _
  rw [runStatement_for, Code.comesTo_bind_ok]
  constructor
  · rintro ⟨⟨names, first⟩, begun, begins, comes⟩
    let round : Round := ⟨bound, names, first, begun, begun⟩
    have rest : (loop.rest round round.begun).ComesTo others (.ok completion) after := comes
    obtain ⟨ended, last, reaches, ends⟩ := comesTo_rest_iff.mp rest
    exact ⟨{ round with ended }, last, rfl, begins, reaches, ends⟩
  · rintro ⟨first, last, rfl, begins, reaches, ends, rfl⟩
    exact ⟨_, _, begins, reaches.comesTo ends⟩

/-- Whether all scopes are there that functions and a round see when it begins. -/
structure Round.Sighted (round : Round) : Prop where
  /-- Functions see scopes that are there. -/
  closed : round.begun.heap.Closed
  /-- The round sees scopes that are there. -/
  present : closing.Knows round.context.environment.scopes round.begun

/-- A round leaves the heap closed. -/
theorem Round.Sighted.runs (sighted : round.Sighted) {completion? : Option Completion}
    (runs : loop.Runs closing.Interferes round completion?) :
    round.ended.heap.Closed ∧ closing.acts round.begun round.ended := by
  have sound := Plugin.scripts_sound closing_admits round.bound
  have keeps := runRound_sound sound round.context trivial loop.test loop.body
  exact sighted.closed.comesTo keeps sighted.present runs

/-- The next round sees scopes that are there if the round before it does. -/
theorem Round.Sighted.follows (sighted : round.Sighted) {next : Round}
    (follows : loop.Follows closing.Interferes round next) :
    next.Sighted ∧ closing.acts round.ended next.begun := by
  have sound := Plugin.scripts_sound closing_admits round.bound
  obtain ⟨closed, grows⟩ := sighted.runs follows.runs
  obtain ⟨inner, copied, copies, goesOn⟩ := Code.comesTo_bind_ok.mp follows.begins
  obtain ⟨closed, more, present⟩ := copyScope_closed closed (sighted.present.acts grows) copies
  obtain ⟨_, updated, updates, same, rfl⟩ := Code.comesTo_bind_ok.mp goesOn
  obtain ⟨closed, further⟩ :=
    closed.comesTo (runUpdate_sound sound inner loop.update) present updates
  have sees : closing.Knows next.context.environment.scopes next.begun := by
    rw [Except.ok.inj same]
    exact present.acts further
  exact ⟨⟨closed, sees⟩, closing.acts_trans more further⟩

/-- The first round sees scopes that are there if the loop does. -/
theorem Begins.sighted {context : Context} (closed : before.heap.Closed)
    (present : closing.Knows context.environment.scopes before)
    (begins : loop.Begins closing.Interferes context before round) : round.Sighted := by
  have sound := Plugin.scripts_sound closing_admits (round.bound + 1)
  obtain ⟨inner, opened, opens, goesOn⟩ := Code.comesTo_bind_ok.mp begins
  obtain ⟨closed, _, present⟩ := openScope_closed closed present opens
  obtain ⟨names, started, starts, goesOn⟩ := Code.comesTo_bind_ok.mp goesOn
  obtain ⟨closed, grows⟩ :=
    closed.comesTo (startLoop_sound inner trivial sound loop.start) present starts
  obtain ⟨first, copied, copies, same, begun⟩ := Code.comesTo_bind_ok.mp goesOn
  obtain ⟨closed, _, present⟩ := copyScope_closed closed (present.acts grows) copies
  have context : round.context = first := congrArg Prod.snd (Except.ok.inj same)
  exact ⟨begun ▸ closed, begun ▸ context ▸ present⟩

/-- All rounds of a loop see scopes that are there, and scopes stay. -/
theorem Round.Sighted.reaches (sighted : round.Sighted) {last : Round}
    (reaches : loop.Reaches closing.Interferes round last) :
    last.Sighted ∧ closing.acts round.begun last.begun := by
  induction reaches with
  | refl => exact ⟨sighted, closing.acts_refl round.begun⟩
  | tail _ follows ih =>
    obtain ⟨sighted, grows⟩ := ih
    obtain ⟨_, more⟩ := sighted.runs follows.runs
    obtain ⟨next, further⟩ := sighted.follows follows
    exact ⟨next, closing.acts_trans grows (closing.acts_trans more further)⟩

/-- From the end of a round on, scopes stay as well. -/
theorem Round.Sighted.ended_reaches (sighted : round.Sighted) {last : Round}
    (reaches : loop.Reaches closing.Interferes round last)
    (runs : loop.Runs closing.Interferes last none) :
    round.ended.heap.Closed ∧ closing.acts round.ended last.ended := by
  rcases reaches.cases_head with rfl | ⟨next, follows, reaches⟩
  · exact ⟨(sighted.runs runs).1, closing.acts_refl _⟩
  · obtain ⟨closed, _⟩ := sighted.runs follows.runs
    obtain ⟨next, grows⟩ := sighted.follows follows
    obtain ⟨last, more⟩ := next.reaches reaches
    obtain ⟨_, further⟩ := last.runs runs
    exact ⟨closed, closing.acts_trans grows (closing.acts_trans more further)⟩

/-- The next round sees the copy of what the round before it has seen. -/
theorem Follows.environment_eq {next : Round} (follows : loop.Follows others round next) :
    next.context.environment =
      (round.ended.heap.copyScope round.context.environment round.names).1 := by
  obtain ⟨inner, copied, ⟨copies, rfl⟩, goesOn⟩ := Code.comesTo_bind_ok.mp follows.begins
  obtain ⟨_, updated, _, same, _⟩ := Code.comesTo_bind_ok.mp goesOn
  rw [Except.ok.inj same, Except.ok.inj copies]
  rfl

end CountingLoop

/-- The two sides of a copy of a scope are independent of each other. Whatever they have done since
the copy was made, what one of them goes on to do without assignments to other than copied names
changes nothing that the other one reads, while both read what either assigns to a name that they
look for in the outer scopes. A counting loop consists of rounds that follow each other, each with a
copy of the variables of the one before, and a function that is there when a round ends reads the
same after any assignment to a variable of a copy that is made then or later, whatever scopes are
opened around its code. -/
theorem copies_independent :
    (∀ (heap : Heap) (environment : Environment) (names : List String),
      environment.Formed heap → ∀ later, (Sides.ofCopy heap environment names).Leads later →
        (∀ side after, later.GoesOn (heap.Copies environment names) side after →
          ∀ seen, later.sees side.other seen → ∀ name,
            after.heap.readName seen name = later.heap.readName seen name) ∧
        ∀ side inside name value after, later.sees side inside →
          later.heap.LooksOut environment.outer inside name →
          later.heap.writeName inside name value = .ok after →
          ∀ other seen, later.sees other seen → later.heap.LooksOut environment.outer seen name →
            after.readName seen name = .ok value) ∧
    ∀ (loop : CountingLoop) (context : Context) (before : State),
      (∀ others bound completion after,
        ((Interpreter.within (bound + 2)).statement loop.statement context before).ComesTo others
            (.ok completion) after ↔
          ∃ first last, first.bound = bound ∧ loop.Begins others context before first ∧
            loop.Reaches others first last ∧ loop.Runs others last (some completion) ∧
              last.ended = after) ∧
      (before.heap.Closed → closing.Knows context.environment.scopes before →
        ∀ first round later, loop.Begins closing.Interferes context before first →
          loop.Reaches closing.Interferes first round →
          loop.Reaches closing.Interferes round later →
          loop.Runs closing.Interferes later none →
          let copy := (later.ended.heap.copyScope later.context.environment later.names).1
          (∀ next, loop.Follows closing.Interferes later next →
            next.context.environment = copy) ∧
          ∀ function definition environment this properties,
            .function function (.script definition environment this) properties ∈
              round.ended.heap.objects →
            ∀ (seen : Environment) (own : List ScopeRef),
              seen.scopes = own ++ environment.scopes → copy.innermost ∉ own →
              ∀ (heap after : Heap) (inside : Environment) (name : String) (value : Value),
                heap.writableScope inside name = .ok copy.innermost →
                heap.writeName inside name value = .ok after →
                ∀ read, after.readName seen read = heap.readName seen read) := by
  refine ⟨fun heap environment names formed later leads => ?_, fun loop context before => ⟨?_, ?_⟩⟩
  · have parted := (Sides.parted_ofCopy formed).leads leads
    constructor
    · intro side after goesOn seen there name
      exact parted.readName_goesOn goesOn there name
    · intro side inside name value after _ writes written other seen _ reads
      exact Heap.readName_of_looksOut written writes reads
  · exact fun others bound completion after => CountingLoop.comesTo_statement
  · intro closed present first round later begins reaches onwards runs copy
    refine ⟨fun next follows => follows.environment_eq, ?_⟩
    intro function definition environment this properties created seen own scopes apart heap
      after inside name value found written read
    have sighted := (begins.sighted closed present).reaches reaches
    obtain ⟨closed, grows⟩ := sighted.1.ended_reaches onwards runs
    -- The copy is newer than all that the function sees.
    have unseen : copy.innermost ∉ environment.scopes := by
      intro member
      have old := closed.scopes created _ member
      exact Nat.lt_irrefl _ (Nat.lt_of_lt_of_le old grows)
    have apart : copy.innermost ∉ seen.scopes := by
      rw [scopes, List.mem_append, not_or]
      exact ⟨apart, unseen⟩
    rw [Heap.writeName, found] at written
    cases written
    refine Heap.readName_congr (fun ref member => ?_) read
    have different : ref ≠ copy.innermost := by
      rintro rfl
      exact apart member
    exact Heap.scope_changeScope_of_ne different _

/-- The code of a function that reads a variable. -/
def readingFunction : Function :=
  .mk none [] none (.expression (.identifier "i")) false true

/-- A loop whose rounds create a function that reads the variable of the loop, which every update
changes. -/
def watchedLoop : CountingLoop where
  start := some (.declaration (.mk .let [.mk (.identifier "i") (some (.literal (.text "a")))]))
  test := none
  update := some (.assign .assign (.identifier "i") (.literal (.text "b")))
  body := .expression (.arrow readingFunction)

/-- What the loop sees: a scope with a variable of its own. -/
def watchedContext : Context := ⟨⟨0⟩, ⟨⟨0⟩, []⟩, .undefined⟩

/-- The state that the loop starts in. -/
def watchedState : State := { heap := { scopes := #[⟨[("n", ⟨some (.text "x"), true⟩)]⟩] } }

/-- The scopes in the first round of the loop: an outer one, the one in which the loop starts, and
its copy. -/
def watchedScopes : Array Scope :=
  #[⟨[("n", ⟨some (.text "x"), true⟩)]⟩, ⟨[("i", ⟨some (.text "a"), true⟩)]⟩,
    ⟨[("i", ⟨some (.text "a"), true⟩)]⟩]

/-- What the first round of the loop sees. -/
def watchedEnvironment : Environment := ⟨⟨2⟩, [⟨0⟩]⟩

/-- The first round of the loop. -/
def watchedRound : CountingLoop.Round where
  bound := 2
  names := ["i"]
  context := ⟨⟨0⟩, watchedEnvironment, .undefined⟩
  begun := { heap := { scopes := watchedScopes } }
  ended :=
    { heap :=
      { scopes := watchedScopes
        objects := #[.function "" (.script readingFunction watchedEnvironment (some .undefined))
          {}] } }

/-- What is written in the copy for the second round of the loop is not read in the scopes of the
first one, unless it is written in the outer scope, and a call of the function that the first round
has created does not read it either. -/
theorem copies_independent_watched :
    let heap := watchedRound.ended.heap
    let copied := heap.copyScope watchedEnvironment ["i"]
    watchedEnvironment.Formed heap ∧
    (∃ after, copied.2.writeName copied.1 "i" (.text "b") = .ok after ∧
      after.readName watchedEnvironment "i" = copied.2.readName watchedEnvironment "i") ∧
    (∃ after, copied.2.writeName copied.1 "n" (.text "y") = .ok after ∧
      after.readName watchedEnvironment "n" = .ok (.text "y")) ∧
    watchedState.heap.Closed ∧ closing.Knows watchedContext.environment.scopes watchedState ∧
    watchedLoop.Begins closing.Interferes watchedContext watchedState watchedRound ∧
    watchedLoop.Runs closing.Interferes watchedRound none ∧
    ∃ after, copied.2.writeName copied.1 "i" (.text "b") = .ok after ∧
      after.readName ⟨⟨4⟩, watchedEnvironment.scopes⟩ "i" =
        copied.2.readName ⟨⟨4⟩, watchedEnvironment.scopes⟩ "i" := by
  intro heap copied
  have formed : watchedEnvironment.Formed heap := ⟨by decide, by decide⟩
  obtain ⟨apart, shared⟩ := copies_independent.1 heap watchedEnvironment ["i"] formed _ .refl
  let sides := Sides.ofCopy heap watchedEnvironment ["i"]
  have inside : sides.sees .copy copied.1 := rfl
  have there : sides.sees .original watchedEnvironment := ⟨List.suffix_rfl, formed⟩
  have copies : heap.Copies watchedEnvironment ["i"] "i" := ⟨.head _, rfl⟩
  have closed : watchedState.heap.Closed := Heap.closed_empty.newScope _ []
  have present : closing.Knows watchedContext.environment.scopes watchedState :=
    List.forall_mem_singleton.mpr Nat.zero_lt_one
  have begins : watchedLoop.Begins closing.Interferes watchedContext watchedState watchedRound :=
    ⟨rfl, rfl⟩
  have runs : watchedLoop.Runs closing.Interferes watchedRound none := ⟨rfl, rfl⟩
  refine ⟨formed, ⟨_, rfl, ?_⟩, ⟨_, rfl, ?_⟩, closed, present, begins, runs, _, rfl, ?_⟩
  · have step : sides.Step (heap.Copies watchedEnvironment ["i"]) .copy _ :=
      .assign inside copies (rfl : copied.2.writeName copied.1 "i" (.text "b") = .ok _)
    exact apart .copy _ (.single step) watchedEnvironment there "i"
  · have writes : sides.heap.LooksOut watchedEnvironment.outer copied.1 "n" :=
      ⟨[⟨3⟩], rfl, fun ref member => by cases List.mem_singleton.mp member; rfl⟩
    have reads : sides.heap.LooksOut watchedEnvironment.outer watchedEnvironment "n" :=
      ⟨[⟨2⟩], rfl, fun ref member => by cases List.mem_singleton.mp member; rfl⟩
    exact shared .copy copied.1 "n" (.text "y") _ inside writes rfl .original _ there reads
  · have unread := ((copies_independent.2 watchedLoop watchedContext watchedState).2 closed present
      watchedRound watchedRound watchedRound begins .refl .refl runs).2
    exact unread _ _ _ _ _ (Array.mem_singleton.mpr rfl) _ [⟨4⟩] rfl (by decide) _ _ copied.1
      "i" (.text "b") rfl rfl "i"

end PluginSandbox.Script
