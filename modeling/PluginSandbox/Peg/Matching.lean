import PluginSandbox.Peg.Tree

/-!
# Matching

Matching follows a parsing expression through a text and collects the nodes of the parse tree.
An observer may watch how rules end, which is all that a search for the place of an error
needs; it sees the match and has no influence on it. Fuel bounds the depth of the search, and
running out of it is an outcome of its own, so it is never taken for a mismatch.
-/
namespace PluginSandbox.Peg

/-- Whether blanks are passed over and nodes are made. -/
inductive Mode where
  /-- Blanks are passed over and nodes are made. -/
  | spaced
  /-- Nodes are made. -/
  | compact
  /-- Neither. -/
  | atomic
  deriving DecidableEq, Repr

/-- Whether a match is only a test. -/
inductive Lookahead where
  /-- It is no test. -/
  | none
  /-- It is a test that is to succeed. -/
  | positive
  /-- It is a test that is to fail. -/
  | negative
  deriving DecidableEq, Repr

/-- What surrounds an expression. -/
structure Surroundings where
  /-- How blanks and nodes are treated. -/
  mode : Mode
  /-- Whether the match is only a test. -/
  lookahead : Lookahead
  deriving DecidableEq, Repr

/-- Whether rules show as nodes. -/
def Surroundings.makesNodes (around : Surroundings) : Bool :=
  around.lookahead = .none && around.mode ≠ .atomic

/-- The surroundings inside a test. -/
def Surroundings.testing (around : Surroundings) : Surroundings :=
  match around.lookahead with
  | .negative => around
  | _ => { around with lookahead := .positive }

/-- The surroundings inside a test that is to fail. -/
def Surroundings.refuting (around : Surroundings) : Surroundings :=
  match around.lookahead with
  | .negative => { around with lookahead := .positive }
  | _ => { around with lookahead := .negative }

/-- How a rule ended: the rule, where it started, what surrounded it and whether it matched. -/
structure Ending (ρ : Type) where
  /-- The rule. -/
  rule : ρ
  /-- The offset of its start. -/
  start : Nat
  /-- What surrounded it. -/
  around : Surroundings
  /-- Whether it matched. -/
  isMatch : Bool

/-- An observer with states `σ` learns how a rule ended, with its states before and after. -/
abbrev Observer (ρ σ : Type) := Ending ρ → σ → σ → σ

/-- The outcome of matching an expression. -/
inductive Outcome (ρ σ : Type) where
  /-- It matched up to a place; the nodes are listed last first. -/
  | matched (place : Place) (nodes : List (Tree ρ)) (state : σ)
  /-- It did not match. -/
  | failed (state : σ)
  /-- The fuel ran out. -/
  | exhausted

namespace Grammar

variable {ρ σ : Type}

/-- The surroundings of the body of a rule. -/
def inside (kind : RuleKind) (around : Surroundings) : Surroundings :=
  match kind with
  | .plain | .hidden => around
  | .atomic => { around with mode := .atomic }
  | .compact => { around with mode := .compact }
  | .spaced => { around with mode := .spaced }

/-- The surroundings in which a rule shows. -/
def shownIn (kind : RuleKind) (around : Surroundings) : Surroundings :=
  match kind with
  | .plain | .hidden | .atomic => around
  | .compact => { around with mode := .compact }
  | .spaced => { around with mode := .spaced }

/-- The place from which the next part of a sequence is matched. -/
def padded (g : Grammar ρ) (around : Surroundings) (place : Place) : Place :=
  if around.mode = .spaced then g.skipBlanks place else place

/-- The outcome of a rule from the outcome of its body. -/
def conclude (observer : Observer ρ σ) (rule : ρ) (around : Surroundings) (place : Place)
    (nodes : List (Tree ρ)) (before : σ) : Outcome ρ σ → Outcome ρ σ
  | .matched stop children after =>
    let after := observer ⟨rule, place.offset, around, true⟩ before after
    if around.makesNodes then
      .matched stop (.node rule place stop.offset children.reverse :: nodes) after
    else .matched stop nodes after
  | .failed after => .failed (observer ⟨rule, place.offset, around, false⟩ before after)
  | .exhausted => .exhausted

mutual

/-- Matches an expression at a place. -/
def recognize (g : Grammar ρ) (observer : Observer ρ σ) :
    Nat → Surroundings → Expression ρ → Place → List (Tree ρ) → σ → Outcome ρ σ
  | 0, _, _, _, _, _ => .exhausted
  | fuel + 1, around, e, place, nodes, state =>
    match e with
    | .literal characters =>
      match place.after? characters with
      | some place => .matched place nodes state
      | none => .failed state
    | .oneOf holds =>
      match place.next with
      | some (c, next) => if holds c then .matched next nodes state else .failed state
      | none => .failed state
    | .atStart => if place.offset = 0 then .matched place nodes state else .failed state
    | .atEnd => if place.rest.isEmpty then .matched place nodes state else .failed state
    | .call rule =>
      let kind := g.kind rule
      if kind = .hidden then g.recognize observer fuel around (g.body rule) place nodes state
      else
        conclude observer rule (shownIn kind around) place nodes state
          (g.recognize observer fuel (inside kind around) (g.body rule) place [] state)
    | .seq first second =>
      match g.recognize observer fuel around first place nodes state with
      | .matched place nodes state =>
        g.recognize observer fuel around second (g.padded around place) nodes state
      | other => other
    | .choice first second =>
      match g.recognize observer fuel around first place nodes state with
      | .failed state => g.recognize observer fuel around second place nodes state
      | other => other
    | .many body =>
      match g.recognize observer fuel around body place nodes state with
      | .matched place nodes state => g.recognizeMore observer fuel around body place nodes state
      | .failed state => .matched place nodes state
      | .exhausted => .exhausted
    | .maybe body =>
      match g.recognize observer fuel around body place nodes state with
      | .failed state => .matched place nodes state
      | other => other
    | .ahead body =>
      match g.recognize observer fuel around.testing body place nodes state with
      | .matched _ _ state => .matched place nodes state
      | other => other
    | .notAhead body =>
      match g.recognize observer fuel around.refuting body place nodes state with
      | .matched _ _ state => .failed state
      | .failed state => .matched place nodes state
      | .exhausted => .exhausted

/-- Matches an expression again, as often as it matches. -/
def recognizeMore (g : Grammar ρ) (observer : Observer ρ σ) :
    Nat → Surroundings → Expression ρ → Place → List (Tree ρ) → σ → Outcome ρ σ
  | 0, _, _, _, _, _ => .exhausted
  | fuel + 1, around, body, place, nodes, state =>
    match g.recognize observer fuel around body (g.padded around place) nodes state with
    | .matched place nodes state => g.recognizeMore observer fuel around body place nodes state
    | .failed state => .matched place nodes state
    | .exhausted => .exhausted

end

/-- The surroundings of the first rule. -/
def outermost : Surroundings := ⟨.spaced, .none⟩

/-- Matches a rule at the start of a text. -/
def recognizeRule (g : Grammar ρ) (observer : Observer ρ σ) (fuel : Nat) (rule : ρ)
    (text : String) (state : σ) : Outcome ρ σ :=
  g.recognize observer fuel outermost (.call rule) (Place.start text) [] state

-- A rule that repeats a character makes one node of all of them.
example : Grammar.recognizeRule ⟨fun _ => .plain, fun _ => .many "a", id⟩
    (fun _ _ endings => endings + 1) 9 () "aab" 0 =
      .matched ⟨['b'], 2⟩ [.node () ⟨['a', 'a', 'b'], 0⟩ 2 []] 1 := by
  cbv

end Grammar

end PluginSandbox.Peg
