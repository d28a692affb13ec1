import PluginSandbox.Proofs.Script.Runs
import PluginSandbox.Proofs.Syntax.Suffixes
import PluginSandbox.Script.Evaluation

/-!
# Chains of property reads and calls

A chain is evaluated by recursion from its last link down to the object that it starts with. What
happens is said from left to right: the object is evaluated, and then one link after the other is
followed, until an optional one has nothing to follow. This ends the whole chain, and nothing after
it is evaluated. A call takes the object of a property read right before it as its receiver.
-/
namespace PluginSandbox.Script.Evaluation

open Code
open Syntax

section Links

variable (self : Interpreter) (context : Context)

/-- Follows a link from a value. A call takes the receiver; the expression before it names it in a
message. -/
def followSuffix (before : Expr) (receiver value : Value) : Suffix → Eval Value
  | .member name _ => tryHeap fun heap => heap.read context.realm value name
  | .index key _ => do
    let key ← self.expression key context
    let key ← readHeap fun heap => heap.keyOf key
    tryHeap fun heap => heap.read context.realm value key
  | .call arguments _ => do
    let arguments ← evaluateItems self context arguments
    if ← readHeap fun heap => heap.isCallable value then
      self.call context.realm value receiver arguments
    else fail (.type (describeCallee before ++ " is not a function"))

/-- The receiver of a call right after a link that was followed from a value. -/
def receiverAfter (value : Value) : Suffix → Value
  | .member _ _ | .index _ _ => value
  | .call _ _ => .undefined

/-- Whether a link ends its chain at a value. -/
def stopsAt (suffix : Suffix) (value : Value) : Bool := suffix.isOptional && value.isNullish

/-- Follows a link from where a chain has got. -/
def followLink (before : Expr) (suffix : Suffix) : Link → Eval Link
  | .skipped => return .skipped
  | .reached receiver value =>
    if stopsAt suffix value then return .skipped
    else do
      let next ← followSuffix self context before receiver value suffix
      return .reached (receiverAfter value suffix) next

/-- The last link of a chain is followed from where the chain without it has got. -/
theorem evaluateChain_apply (suffix : Suffix) (e : Expr) :
    evaluateChain self context (suffix.apply e) =
      self.chain e context >>= followLink self context e suffix := by
  cases suffix with
  | member name optional =>
    refine congrArg (self.chain e context >>= ·) (funext fun link => ?_)
    cases link <;> rfl
  | index key optional =>
    refine congrArg (self.chain e context >>= ·) (funext fun link => ?_)
    cases link with
    | skipped => rfl
    | reached receiver value =>
      simp only [followLink, followSuffix, receiverAfter, bind_assoc]
      rfl
  | call arguments optional =>
    refine congrArg (self.chain e context >>= ·) (funext fun link => ?_)
    cases link with
    | skipped => rfl
    | reached receiver value =>
      simp only [followLink, followSuffix, receiverAfter, bind_assoc]
      refine ite_congr rfl (fun _ => rfl) fun _ => ?_
      refine congrArg (_ >>= ·) (funext fun arguments => ?_)
      refine congrArg (_ >>= ·) (funext fun callable => ?_)
      cases callable <;> rfl

/-- A chain that has ended stays where it is. -/
@[simp] theorem followLink_skipped (before : Expr) (suffix : Suffix) :
    followLink self context before suffix .skipped = pure .skipped := rfl

end Links

section Levels

variable (context : Context)

/-- Follows the links of a chain one after the other. Every link is followed within a bound that is
greater by one, because the evaluation of a chain nests to the left. -/
def followLinks : Nat → Expr → List Suffix → Link → Eval Link
  | _, _, [], link => return link
  | bound, before, suffix :: rest, link => do
    let next ← followLink (Interpreter.within bound) context before suffix link
    followLinks (bound + 1) (suffix.apply before) rest next

/-- A chain that has ended stays where it is, whatever links are left. -/
theorem followLinks_skipped (bound : Nat) (before : Expr) (suffixes : List Suffix) :
    followLinks context bound before suffixes .skipped = pure .skipped := by
  induction suffixes generalizing bound before with
  | nil => rfl
  | cons suffix rest ih =>
    rw [followLinks, followLink_skipped, pure_bind, ih]

/-- Some links are followed after others. -/
theorem followLinks_append (bound : Nat) (before : Expr) (first second : List Suffix)
    (link : Link) :
    followLinks context bound before (first ++ second) link =
      followLinks context bound before first link >>=
        followLinks context (bound + first.length) (Suffix.applyAll first before) second := by
  induction first generalizing bound before link with
  | nil => exact (pure_bind link _).symm
  | cons suffix rest ih =>
    rw [List.cons_append, followLinks, followLinks, bind_assoc]
    refine congrArg (_ >>= ·) (funext fun next => ?_)
    rw [ih, List.length_cons, Nat.add_assoc, Nat.add_comm 1]
    rfl

/-- Where a chain gets within a bound: its object is evaluated, and its links are followed. -/
theorem chain_eq_followLinks (bound : Nat) (e : Expr) :
    (Interpreter.within (bound + e.suffixes.length + 1)).chain e context =
      (Interpreter.within bound).expression e.base context >>= fun value =>
        followLinks context (bound + 1) e.base e.suffixes (.reached .undefined value) := by
  induction e using Expr.chainInduction with
  | alone e suffixes base =>
    rw [suffixes, base]
    cases e with
    | member | index | call => exact absurd suffixes (List.append_ne_nil_of_right_ne_nil _ nofun)
    | _ => rfl
  | last suffix e ih =>
    -- The last link is the outermost one, so it is followed after all others.
    change evaluateChain (Interpreter.within (bound + (suffix.apply e).suffixes.length)) context
      (suffix.apply e) = _
    rw [evaluateChain_apply, Expr.suffixes_apply, Expr.base_apply, List.length_append,
      List.length_singleton, ← Nat.add_assoc, ih, bind_assoc]
    refine congrArg (_ >>= ·) (funext fun value => ?_)
    rw [followLinks_append, Expr.applyAll_suffixes, Nat.add_right_comm]
    refine congrArg (_ >>= ·) (funext fun link => ?_)
    exact (bind_pure _).symm

/-- The value of a chain is what it gets to. -/
theorem expression_of_chain {e : Expr} (bound : Nat) (links : e.suffixes ≠ []) :
    (Interpreter.within (bound + 1)).expression e context =
      (Interpreter.within bound).chain e context >>= fun link => pure link.result := by
  cases e with
  | member | index | call => rfl
  | _ => exact absurd rfl links

end Levels

/-- What the links of a chain come to after the expression before them has a value, read from a
receiver. A link is followed if it does not stop the chain; nothing is evaluated after it stops. -/
inductive Follows (others : State → State → Prop) (context : Context) :
    Nat → Expr → Value → Value → State → List Suffix → Except RuntimeError Value → State →
      Prop where
  /-- All links were followed. -/
  | finished {bound before receiver value state} :
    Follows others context bound before receiver value state [] (.ok value) state
  /-- An optional link finds null or undefined, and the chain comes to undefined right there. -/
  | stopped {bound before receiver value state suffix rest} (stops : stopsAt suffix value = true) :
    Follows others context bound before receiver value state (suffix :: rest) (.ok .undefined) state
  /-- A link fails, and so does the chain. -/
  | failed {bound before receiver value state suffix rest error after}
      (goesOn : stopsAt suffix value = false)
      (fails : (followSuffix (Interpreter.within bound) context before receiver value suffix
        state).ComesTo others (.error error) after) :
    Follows others context bound before receiver value state (suffix :: rest) (.error error) after
  /-- A link is followed, and then the others are. -/
  | followed {bound before receiver value state suffix rest next middle outcome after}
      (goesOn : stopsAt suffix value = false)
      (follows : (followSuffix (Interpreter.within bound) context before receiver value suffix
        state).ComesTo others (.ok next) middle)
      (more : Follows others context (bound + 1) (suffix.apply before)
        (receiverAfter value suffix) next middle rest outcome after) :
    Follows others context bound before receiver value state (suffix :: rest) outcome after

section Outcomes

variable {others : State → State → Prop} {context : Context}

/-- Following links one after the other comes to what they come to. -/
theorem followLinks_comesTo {bound : Nat} {before : Expr} {receiver value : Value}
    {suffixes : List Suffix} {state after : State} {outcome : Except RuntimeError Value} :
    ((followLinks context bound before suffixes (.reached receiver value) >>= fun link =>
        pure link.result) state).ComesTo others outcome after ↔
      Follows others context bound before receiver value state suffixes outcome after := by
  induction suffixes generalizing bound before receiver value state with
  | nil =>
    constructor
    · rintro ⟨rfl, rfl⟩
      exact .finished
    · rintro ⟨⟩
      exact ⟨rfl, rfl⟩
  | cons suffix rest ih =>
    rw [followLinks, followLink]
    cases stops : stopsAt suffix value with
    | true =>
      rw [if_pos rfl, pure_bind, followLinks_skipped]
      constructor
      · rintro ⟨rfl, rfl⟩
        exact .stopped stops
      · intro follows
        cases follows with
        | stopped _ => exact ⟨rfl, rfl⟩
        | failed goesOn _ => rw [stops] at goesOn; cases goesOn
        | followed goesOn _ _ => rw [stops] at goesOn; cases goesOn
    | false =>
      rw [if_neg Bool.false_ne_true, bind_assoc, bind_assoc, Code.comesTo_bind]
      constructor
      · rintro (⟨next, middle, one, more⟩ | ⟨error, rfl, fails⟩)
        · exact .followed stops one (ih.mp more)
        · exact .failed stops fails
      · intro follows
        cases follows with
        | stopped other => rw [stops] at other; cases other
        | failed _ fails => exact .inr ⟨_, rfl, fails⟩
        | followed _ one more => exact .inl ⟨_, _, one, ih.mpr more⟩

end Outcomes

/-- Where an optional link stops a chain, nothing after it is evaluated: the chain is the chain
before the link, and goes on only with a value that is neither null nor undefined. -/
theorem chain_stops (context : Context) (bound : Nat) {e : Expr} {first later : List Suffix}
    {suffix : Suffix} (split : e.suffixes = first ++ suffix :: later)
    (optional : suffix.isOptional = true) :
    ∃ others : Link → Eval Value,
      (Interpreter.within (bound + e.suffixes.length + 2)).expression e context =
        (Interpreter.within (bound + first.length + 1)).chain (Suffix.applyAll first e.base)
          context >>= fun link =>
            if link.result.isNullish then pure .undefined else others link := by
  have links : e.suffixes ≠ [] := by
    rw [split]
    exact List.append_ne_nil_of_right_ne_nil _ nofun
  have object : (Suffix.applyAll first e.base).base = e.base ∧
      (Suffix.applyAll first e.base).suffixes = first := by
    obtain ⟨base, all⟩ := Expr.suffixes_applyAll first e.base
    rw [e.base_base.1] at base
    rw [e.base_base.2] at all
    exact ⟨base, all⟩
  have start := chain_eq_followLinks context bound (Suffix.applyAll first e.base)
  rw [object.1, object.2] at start
  rw [expression_of_chain context _ links, chain_eq_followLinks, split, start, bind_assoc]
  let others : Link → Eval Value := fun link =>
    followLinks context (bound + 1 + first.length) (Suffix.applyAll first e.base)
      (suffix :: later) link >>= fun link => pure link.result
  refine ⟨others, ?_⟩
  rw [bind_assoc]
  refine congrArg (_ >>= ·) (funext fun value => ?_)
  rw [followLinks_append, bind_assoc]
  refine congrArg (_ >>= ·) (funext fun link => ?_)
  change others link = _
  cases stops : link.result.isNullish with
  | false => rw [if_neg Bool.false_ne_true]
  | true =>
    rw [if_pos rfl]
    cases link with
    | skipped =>
      change followLinks _ _ _ _ _ >>= _ = _
      rw [followLinks_skipped]
      rfl
    | reached receiver value =>
      have ends : stopsAt suffix value = true := by
        rw [stopsAt, optional]
        exact stops
      change followLinks _ _ _ _ _ >>= _ = _
      rw [followLinks, followLink, ends, if_pos rfl, pure_bind, followLinks_skipped]
      rfl

/-- A chain of links evaluates its object and then follows its links from left to right. Where an
optional link finds null or undefined, the whole chain is undefined at once, and nothing more is
evaluated. -/
theorem chain_follows_links (context : Context) (bound : Nat) (e : Expr) (links : e.suffixes ≠ []) :
    (∀ others before outcome after,
      ((Interpreter.within (bound + e.suffixes.length + 2)).expression e context before).ComesTo
          others outcome after ↔
        (∃ error, outcome = .error error ∧
          ((Interpreter.within bound).expression e.base context before).ComesTo others
            (.error error) after) ∨
        ∃ value start,
          ((Interpreter.within bound).expression e.base context before).ComesTo others
            (.ok value) start ∧
          Follows others context (bound + 1) e.base .undefined value start e.suffixes outcome
            after) ∧
    ∀ first suffix later, e.suffixes = first ++ suffix :: later → suffix.isOptional = true →
      ∃ others : Link → Eval Value,
        (Interpreter.within (bound + e.suffixes.length + 2)).expression e context =
          (Interpreter.within (bound + first.length + 1)).chain (Suffix.applyAll first e.base)
            context >>= fun link =>
              if link.result.isNullish then pure .undefined else others link := by
  refine ⟨fun others before outcome after => ?_, fun _ _ _ split optional =>
    chain_stops context bound split optional⟩
  rw [expression_of_chain context _ links, chain_eq_followLinks, bind_assoc, Code.comesTo_bind,
    or_comm]
  simp only [followLinks_comesTo]

/-- A read of `"ab".length.x?.y` goes on to the number and its missing property, and stops there. -/
theorem chain_follows_links_text :
    ((Interpreter.within 6).expression
      (.member (.member (.member (.literal (.text "ab")) "length" false) "x" false) "y" true)
      default {}).ComesTo (fun _ _ => False) (.ok .undefined) {} := by
  have follows := (chain_follows_links default 1
    (.member (.member (.member (.literal (.text "ab")) "length" false) "x" false) "y" true)
    (by simp [Expr.suffixes])).1 (fun _ _ => False) {} (.ok .undefined) {}
  refine follows.mpr (.inr ⟨.text "ab", {}, ⟨rfl, rfl⟩, ?_⟩)
  exact .followed rfl ⟨rfl, rfl⟩ (.followed rfl ⟨rfl, rfl⟩ (.stopped rfl))

end PluginSandbox.Script.Evaluation
