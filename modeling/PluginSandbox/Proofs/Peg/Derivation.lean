import PluginSandbox.Peg.Matching

/-!
# Derivations

What a parsing expression does at a place, without fuel and without observers: it matches up to
another place and makes nodes, or it does not match. A derivation is the proof of such a fact.
The recognizer finds derivations only, and a phrase has at most one result.
-/
namespace PluginSandbox.Peg

open Grammar

/-- What is matched: an expression, or further repetitions of one that has matched before. -/
inductive Phrase (ρ : Type) where
  /-- An expression. -/
  | once (e : Expression ρ)
  /-- An expression as often as it still matches. -/
  | again (e : Expression ρ)

/-- What a match comes to: the place after it with the nodes in order, or nothing. -/
abbrev Match (ρ : Type) := Option (Place × List (Tree ρ))

variable {ρ σ : Type}

/-- The nodes that a rule makes of the nodes below it. -/
def nodesOf (rule : ρ) (around : Surroundings) (start stop : Place) (children : List (Tree ρ)) :
    List (Tree ρ) :=
  if around.makesNodes then [.node rule start stop.offset children] else []

/-- The result of a phrase at a place. -/
inductive Derives (g : Grammar ρ) : Surroundings → Phrase ρ → Place → Match ρ → Prop where
  | literal {around characters place stop} (next : place.after? characters = some stop) :
    Derives g around (.once (.literal characters)) place (some (stop, []))
  | literalFails {around characters place} (next : place.after? characters = none) :
    Derives g around (.once (.literal characters)) place none
  | oneOf {around holds place c stop} (next : place.next = some (c, stop))
      (held : holds c = true) :
    Derives g around (.once (.oneOf holds)) place (some (stop, []))
  | oneOfFails {around holds place}
      (next : ∀ c stop, place.next = some (c, stop) → holds c = false) :
    Derives g around (.once (.oneOf holds)) place none
  | atStart {around place} (start : place.offset = 0) :
    Derives g around (.once .atStart) place (some (place, []))
  | atStartFails {around place} (later : place.offset ≠ 0) :
    Derives g around (.once .atStart) place none
  | atEnd {around place} (done : place.rest = []) :
    Derives g around (.once .atEnd) place (some (place, []))
  | atEndFails {around place} (more : place.rest ≠ []) :
    Derives g around (.once .atEnd) place none
  | callHidden {around rule place result} (hidden : g.kind rule = .hidden)
      (body : Derives g around (.once (g.body rule)) place result) :
    Derives g around (.once (.call rule)) place result
  | callShown {around rule place stop children} (shown : g.kind rule ≠ .hidden)
      (body : Derives g (inside (g.kind rule) around) (.once (g.body rule)) place
        (some (stop, children))) :
    Derives g around (.once (.call rule)) place
      (some (stop, nodesOf rule (shownIn (g.kind rule) around) place stop children))
  | callFails {around rule place} (shown : g.kind rule ≠ .hidden)
      (body : Derives g (inside (g.kind rule) around) (.once (g.body rule)) place none) :
    Derives g around (.once (.call rule)) place none
  | seq {around first second place middle stop trees others}
      (left : Derives g around (.once first) place (some (middle, trees)))
      (right : Derives g around (.once second) (g.padded around middle) (some (stop, others))) :
    Derives g around (.once (.seq first second)) place (some (stop, trees ++ others))
  | seqFails {around first second place} (left : Derives g around (.once first) place none) :
    Derives g around (.once (.seq first second)) place none
  | seqFailsLate {around first second place middle trees}
      (left : Derives g around (.once first) place (some (middle, trees)))
      (right : Derives g around (.once second) (g.padded around middle) none) :
    Derives g around (.once (.seq first second)) place none
  | choiceFirst {around first second place found}
      (left : Derives g around (.once first) place (some found)) :
    Derives g around (.once (.choice first second)) place (some found)
  | choiceSecond {around first second place result}
      (left : Derives g around (.once first) place none)
      (right : Derives g around (.once second) place result) :
    Derives g around (.once (.choice first second)) place result
  | manyNone {around body place} (none : Derives g around (.once body) place none) :
    Derives g around (.once (.many body)) place (some (place, []))
  | manySome {around body place middle stop trees others}
      (one : Derives g around (.once body) place (some (middle, trees)))
      (more : Derives g around (.again body) middle (some (stop, others))) :
    Derives g around (.once (.many body)) place (some (stop, trees ++ others))
  | againNone {around body place}
      (none : Derives g around (.once body) (g.padded around place) none) :
    Derives g around (.again body) place (some (place, []))
  | againSome {around body place middle stop trees others}
      (one : Derives g around (.once body) (g.padded around place) (some (middle, trees)))
      (more : Derives g around (.again body) middle (some (stop, others))) :
    Derives g around (.again body) place (some (stop, trees ++ others))
  | maybeSome {around body place found}
      (one : Derives g around (.once body) place (some found)) :
    Derives g around (.once (.maybe body)) place (some found)
  | maybeNone {around body place} (none : Derives g around (.once body) place none) :
    Derives g around (.once (.maybe body)) place (some (place, []))
  | ahead {around body place found}
      (test : Derives g around.testing (.once body) place (some found)) :
    Derives g around (.once (.ahead body)) place (some (place, []))
  | aheadFails {around body place}
      (test : Derives g around.testing (.once body) place none) :
    Derives g around (.once (.ahead body)) place none
  | notAhead {around body place}
      (test : Derives g around.refuting (.once body) place none) :
    Derives g around (.once (.notAhead body)) place (some (place, []))
  | notAheadFails {around body place found}
      (test : Derives g around.refuting (.once body) place (some found)) :
    Derives g around (.once (.notAhead body)) place none

/-- What an outcome says about a phrase, given the nodes that were there before. -/
def Outcome.Tells (g : Grammar ρ) (around : Surroundings) (phrase : Phrase ρ) (place : Place)
    (nodes : List (Tree ρ)) : Outcome ρ σ → Prop
  | .matched stop after _ =>
    ∃ trees, after = trees.reverse ++ nodes ∧ Derives g around phrase place (some (stop, trees))
  | .failed _ => Derives g around phrase place none
  | .exhausted => True

section

variable {g : Grammar ρ} {observer : Observer ρ σ}

/-- The end of a rule that shows is told by the end of its body. -/
theorem conclude_tells {around : Surroundings} {rule : ρ} {place : Place}
    {nodes : List (Tree ρ)} {before : σ} {outcome : Outcome ρ σ} (shown : g.kind rule ≠ .hidden)
    (body : outcome.Tells g (inside (g.kind rule) around) (.once (g.body rule)) place []) :
    (conclude observer rule (shownIn (g.kind rule) around) place nodes before outcome).Tells g
      around (.once (.call rule)) place nodes := by
  cases outcome with
  | exhausted => exact trivial
  | failed after => exact .callFails shown body
  | matched stop children after =>
    obtain ⟨trees, same, derived⟩ := body
    rw [List.append_nil] at same
    subst same
    have call := Derives.callShown shown derived
    rw [nodesOf] at call
    simp only [conclude]
    split
    case isTrue makes =>
      rw [if_pos makes] at call
      exact ⟨_, by rw [List.reverse_reverse]; rfl, call⟩
    case isFalse makes =>
      rw [if_neg makes] at call
      exact ⟨[], rfl, call⟩

/-- One step of a repetition is told by the match of its body and by what follows. -/
theorem tells_append {around : Surroundings} {phrase rest : Phrase ρ} {place middle : Place}
    {nodes : List (Tree ρ)} (trees : List (Tree ρ)) {outcome : Outcome ρ σ}
    (more : outcome.Tells g around rest middle (trees.reverse ++ nodes))
    (join : ∀ stop others, Derives g around rest middle (some (stop, others)) →
      Derives g around phrase place (some (stop, trees ++ others)))
    (fails : Derives g around rest middle none → Derives g around phrase place none) :
    outcome.Tells g around phrase place nodes := by
  cases outcome with
  | exhausted => exact trivial
  | failed after => exact fails more
  | matched stop after state =>
    obtain ⟨others, same, derived⟩ := more
    exact ⟨trees ++ others, by rw [same, List.reverse_append, List.append_assoc],
      join stop others derived⟩

/-- No repetition fails. -/
theorem Derives.again_matches {around : Surroundings} {body : Expression ρ} {place : Place}
    {result : Match ρ} (derived : Derives g around (.again body) place result) :
    ∃ found, result = some found := by
  cases derived with
  | againNone none => exact ⟨_, rfl⟩
  | againSome one more => exact ⟨_, rfl⟩

/-- The recognizer, and the part of it that repeats, tell the truth with some fuel. -/
structure Truthful (g : Grammar ρ) (observer : Observer ρ σ) (fuel : Nat) : Prop where
  /-- About an expression. -/
  once : ∀ around e place nodes state,
    (g.recognize observer fuel around e place nodes state).Tells g around (.once e) place nodes
  /-- About further repetitions. -/
  again : ∀ around body place nodes state,
    (g.recognizeMore observer fuel around body place nodes state).Tells g around (.again body)
      place nodes

/-- One more unit of fuel keeps repetitions truthful. -/
theorem Truthful.more {fuel : Nat} (ih : Truthful g observer fuel) (around : Surroundings)
    (body : Expression ρ) (place : Place) (nodes : List (Tree ρ)) (state : σ) :
    (g.recognizeMore observer (fuel + 1) around body place nodes state).Tells g around
      (.again body) place nodes := by
  have one := ih.once around body (g.padded around place) nodes state
  rw [recognizeMore]
  cases outcome : g.recognize observer fuel around body (g.padded around place) nodes state with
  | exhausted => exact trivial
  | failed after =>
    rw [outcome] at one
    exact ⟨[], rfl, .againNone one⟩
  | matched middle after state =>
    rw [outcome] at one
    obtain ⟨trees, rfl, derived⟩ := one
    refine tells_append trees (ih.again around body middle _ state) ?_ ?_
    · exact fun stop others rest => .againSome derived rest
    · intro rest
      obtain ⟨found, impossible⟩ := rest.again_matches
      cases impossible

/-- One more unit of fuel keeps rules truthful. -/
theorem Truthful.call {fuel : Nat} (ih : Truthful g observer fuel) (around : Surroundings)
    (rule : ρ) (place : Place) (nodes : List (Tree ρ)) (state : σ) :
    (g.recognize observer (fuel + 1) around (.call rule) place nodes state).Tells g around
      (.once (.call rule)) place nodes := by
  rw [recognize]
  by_cases hidden : g.kind rule = .hidden
  · rw [if_pos hidden]
    exact tells_append [] (ih.once around (g.body rule) place nodes state)
      (fun stop others derived => .callHidden hidden derived)
      (fun fails => .callHidden hidden fails)
  · rw [if_neg hidden]
    exact conclude_tells hidden (ih.once (inside (g.kind rule) around) (g.body rule) place [] state)

/-- One more unit of fuel keeps sequences truthful. -/
theorem Truthful.seq {fuel : Nat} (ih : Truthful g observer fuel) (around : Surroundings)
    (first second : Expression ρ) (place : Place) (nodes : List (Tree ρ)) (state : σ) :
    (g.recognize observer (fuel + 1) around (.seq first second) place nodes state).Tells g around
      (.once (.seq first second)) place nodes := by
  have left := ih.once around first place nodes state
  rw [recognize]
  cases outcome : g.recognize observer fuel around first place nodes state with
  | exhausted => exact trivial
  | failed after =>
    rw [outcome] at left
    exact Derives.seqFails left
  | matched middle after state =>
    rw [outcome] at left
    obtain ⟨trees, rfl, derived⟩ := left
    exact tells_append trees (ih.once around second (g.padded around middle) _ state)
      (fun stop others right => .seq derived right) (fun fails => .seqFailsLate derived fails)

/-- One more unit of fuel keeps choices truthful. -/
theorem Truthful.choice {fuel : Nat} (ih : Truthful g observer fuel) (around : Surroundings)
    (first second : Expression ρ) (place : Place) (nodes : List (Tree ρ)) (state : σ) :
    (g.recognize observer (fuel + 1) around (.choice first second) place nodes state).Tells g
      around (.once (.choice first second)) place nodes := by
  have left := ih.once around first place nodes state
  rw [recognize]
  cases outcome : g.recognize observer fuel around first place nodes state with
  | exhausted => exact trivial
  | failed after =>
    rw [outcome] at left
    exact tells_append [] (ih.once around second place nodes after)
      (fun stop others right => .choiceSecond left right)
      (fun fails => .choiceSecond left fails)
  | matched stop after state =>
    rw [outcome] at left
    obtain ⟨trees, same, derived⟩ := left
    exact ⟨trees, same, .choiceFirst derived⟩

/-- One more unit of fuel keeps the first repetition truthful. -/
theorem Truthful.many {fuel : Nat} (ih : Truthful g observer fuel) (around : Surroundings)
    (body : Expression ρ) (place : Place) (nodes : List (Tree ρ)) (state : σ) :
    (g.recognize observer (fuel + 1) around (.many body) place nodes state).Tells g around
      (.once (.many body)) place nodes := by
  have one := ih.once around body place nodes state
  rw [recognize]
  cases outcome : g.recognize observer fuel around body place nodes state with
  | exhausted => exact trivial
  | failed after =>
    rw [outcome] at one
    exact ⟨[], rfl, .manyNone one⟩
  | matched middle after state =>
    rw [outcome] at one
    obtain ⟨trees, rfl, derived⟩ := one
    refine tells_append trees (ih.again around body middle _ state) ?_ ?_
    · exact fun stop others rest => .manySome derived rest
    · intro rest
      obtain ⟨found, impossible⟩ := rest.again_matches
      cases impossible

/-- One more unit of fuel keeps options and tests truthful. -/
theorem Truthful.test {fuel : Nat} (ih : Truthful g observer fuel) (around : Surroundings)
    (body : Expression ρ) (place : Place) (nodes : List (Tree ρ)) (state : σ) :
    (g.recognize observer (fuel + 1) around (.maybe body) place nodes state).Tells g around
        (.once (.maybe body)) place nodes ∧
    (g.recognize observer (fuel + 1) around (.ahead body) place nodes state).Tells g around
        (.once (.ahead body)) place nodes ∧
    (g.recognize observer (fuel + 1) around (.notAhead body) place nodes state).Tells g around
        (.once (.notAhead body)) place nodes := by
  have one := ih.once around body place nodes state
  have positive := ih.once around.testing body place nodes state
  have negative := ih.once around.refuting body place nodes state
  simp only [recognize]
  refine ⟨?_, ?_, ?_⟩
  · cases outcome : g.recognize observer fuel around body place nodes state with
    | exhausted => exact trivial
    | failed after =>
      rw [outcome] at one
      exact ⟨[], rfl, .maybeNone one⟩
    | matched stop after state =>
      rw [outcome] at one
      obtain ⟨trees, same, derived⟩ := one
      exact ⟨trees, same, .maybeSome derived⟩
  · cases outcome : g.recognize observer fuel around.testing body place nodes state with
    | exhausted => exact trivial
    | failed after =>
      rw [outcome] at positive
      exact Derives.aheadFails positive
    | matched stop after state =>
      rw [outcome] at positive
      obtain ⟨trees, _, derived⟩ := positive
      exact ⟨[], rfl, .ahead derived⟩
  · cases outcome : g.recognize observer fuel around.refuting body place nodes state with
    | exhausted => exact trivial
    | failed after =>
      rw [outcome] at negative
      exact ⟨[], rfl, .notAhead negative⟩
    | matched stop after state =>
      rw [outcome] at negative
      obtain ⟨trees, _, derived⟩ := negative
      exact Derives.notAheadFails derived

/-- Expressions without parts are matched truthfully. -/
theorem recognize_leaf (fuel : Nat) (around : Surroundings) (place : Place)
    (nodes : List (Tree ρ)) (state : σ) (e : Expression ρ)
    (leaf : e matches .literal _ | .oneOf _ | .atStart | .atEnd) :
    (g.recognize observer (fuel + 1) around e place nodes state).Tells g around (.once e) place
      nodes := by
  cases e with
  | literal characters =>
    rw [recognize]
    cases next : place.after? characters with
    | none => exact Derives.literalFails next
    | some stop => exact ⟨[], rfl, .literal next⟩
  | oneOf holds =>
    rw [recognize]
    cases next : place.next with
    | none => exact Derives.oneOfFails (by rw [next]; nofun)
    | some found =>
      obtain ⟨c, stop⟩ := found
      dsimp only
      split
      case isTrue held => exact ⟨[], rfl, .oneOf next held⟩
      case isFalse lacks =>
        refine Derives.oneOfFails fun d other same => ?_
        rw [next, Option.some.injEq, Prod.mk.injEq] at same
        rw [← same.1]
        exact Bool.not_eq_true _ ▸ lacks
  | atStart =>
    rw [recognize]
    split
    case isTrue start => exact ⟨[], rfl, .atStart start⟩
    case isFalse later => exact Derives.atStartFails later
  | atEnd =>
    rw [recognize]
    split
    case isTrue done => exact ⟨[], rfl, .atEnd (List.isEmpty_iff.mp done)⟩
    case isFalse more => exact Derives.atEndFails fun done => more (List.isEmpty_iff.mpr done)
  | _ => cases leaf

/-- The recognizer finds derivations only. -/
theorem truthful (g : Grammar ρ) (observer : Observer ρ σ) (fuel : Nat) :
    Truthful g observer fuel := by
  induction fuel with
  | zero =>
    exact ⟨fun _ _ _ _ _ => trivial, fun _ _ _ _ _ => trivial⟩
  | succ fuel ih =>
    refine ⟨?_, ih.more⟩
    intro around e place nodes state
    cases e with
    | call rule => exact ih.call around rule place nodes state
    | seq first second => exact ih.seq around first second place nodes state
    | choice first second => exact ih.choice around first second place nodes state
    | many body => exact ih.many around body place nodes state
    | maybe body => exact (ih.test around body place nodes state).1
    | ahead body => exact (ih.test around body place nodes state).2.1
    | notAhead body => exact (ih.test around body place nodes state).2.2
    | _ => exact recognize_leaf fuel around place nodes state _ rfl

/-- A phrase has at most one result at a place: two rules that conclude about the same phrase
differ in the result of one of its parts, and parts have one result. -/
theorem Derives.unique {around : Surroundings} {phrase : Phrase ρ} {place : Place}
    {result other : Match ρ} (left : Derives g around phrase place result)
    (right : Derives g around phrase place other) : result = other := by
  induction left generalizing other <;> cases right <;> grind

end

end PluginSandbox.Peg
