import PluginSandbox.Proofs.Peg.Derivation

/-!
# The nodes of a parse tree

Every node that a derivation makes has a derivation of its own: its children are what the body of
its rule makes. How many nodes of one rule an expression makes at most can be read off the grammar.
-/
namespace PluginSandbox.Peg

open Grammar

variable {ρ : Type} {g : Grammar ρ}

/-- The children of a tree are what the body of its rule makes where the rule shows. -/
def Tree.Grows (g : Grammar ρ) : Tree ρ → Prop
  | .node rule start stop children => ∃ around last,
    (shownIn (g.kind rule) around).makesNodes = true ∧ last.offset = stop ∧
      Derives g (inside (g.kind rule) around) (.once (g.body rule)) start (some (last, children))

/-- The nodes that a derivation makes have derivations of their own. -/
theorem Derives.grows {around : Surroundings} {phrase : Phrase ρ} {place stop : Place}
    {trees : List (Tree ρ)} (derived : Derives g around phrase place (some (stop, trees))) :
    ∀ tree ∈ trees, tree.Grows g := by
  generalize result : some (stop, trees) = found at derived
  induction derived generalizing stop trees with
  | literal | oneOf | atStart | atEnd | manyNone | maybeNone | againNone | ahead | notAhead =>
    cases result
    nofun
  | literalFails | oneOfFails | atStartFails | atEndFails | callFails | seqFails | seqFailsLate
    | aheadFails | notAheadFails => cases result
  | callHidden hidden body ih => exact ih result
  | @callShown around rule place stop children shown body ih =>
    cases result
    intro tree member
    unfold nodesOf at member
    split at member
    case isTrue makes =>
      obtain rfl := List.mem_singleton.mp member
      exact ⟨around, stop, makes, rfl, body⟩
    case isFalse => cases member
  | seq left right leftIH rightIH =>
    cases result
    intro tree member
    exact (List.mem_append.mp member).elim (leftIH rfl tree) (rightIH rfl tree)
  | manySome one more oneIH moreIH | againSome one more oneIH moreIH =>
    cases result
    intro tree member
    exact (List.mem_append.mp member).elim (oneIH rfl tree) (moreIH rfl tree)
  | choiceFirst left ih => exact ih result
  | choiceSecond left right leftIH rightIH => exact rightIH result
  | maybeSome one ih => exact ih result

/-- A rule that shows makes one node of what its body makes. -/
theorem Derives.node_of_call {around : Surroundings} {rule : ρ} {place stop : Place}
    {trees : List (Tree ρ)} (shown : g.kind rule ≠ .hidden)
    (makes : (shownIn (g.kind rule) around).makesNodes = true)
    (derived : Derives g around (.once (.call rule)) place (some (stop, trees))) :
    ∃ children, trees = [.node rule place stop.offset children] ∧
      Derives g (inside (g.kind rule) around) (.once (g.body rule)) place
        (some (stop, children)) := by
  cases derived with
  | callHidden hidden body => exact absurd hidden shown
  | callShown _ body => exact ⟨_, if_pos makes, body⟩

/-- A rule that does not show makes what its body makes. -/
theorem Derives.body_of_call {around : Surroundings} {rule : ρ} {place : Place}
    {result : Match ρ} (hidden : g.kind rule = .hidden)
    (derived : Derives g around (.once (.call rule)) place result) :
    Derives g around (.once (g.body rule)) place result := by
  cases derived with
  | callHidden _ body => exact body
  | callShown shown body => exact absurd hidden shown
  | callFails shown body => exact absurd hidden shown

/-- One of several rules that are tried matches where they do. -/
theorem Derives.of_firstOf {around : Surroundings} {rules : List ρ} {place stop : Place}
    {trees : List (Tree ρ)}
    (derived : Derives g around (.once (Expression.firstOf (rules.map .call))) place
      (some (stop, trees))) :
    ∃ rule ∈ rules, Derives g around (.once (.call rule)) place (some (stop, trees)) := by
  induction rules with
  | nil =>
    cases derived with
    | notAhead test =>
      cases test with
      | literalFails next => cases next
  | cons rule others ih =>
    cases others with
    | nil => exact ⟨rule, List.mem_singleton_self rule, derived⟩
    | cons other others =>
      cases derived with
      | choiceFirst left => exact ⟨rule, List.mem_cons_self, left⟩
      | choiceSecond _ right =>
        obtain ⟨found, member, matched⟩ := ih right
        exact ⟨found, .tail _ member, matched⟩

/-- Where none of several expressions matches, each of them fails. -/
theorem Derives.firstOf_fails {around : Surroundings} {place : Place} {list : List (Expression ρ)}
    (derived : Derives g around (.once (Expression.firstOf list)) place none) :
    ∀ e ∈ list, Derives g around (.once e) place none := by
  induction list with
  | nil => nofun
  | cons first others ih =>
    intro e member
    cases others with
    | nil =>
      rw [List.mem_singleton.mp member]
      exact derived
    | cons second others =>
      cases derived with
      | choiceSecond left right =>
        rcases List.mem_cons.mp member with rfl | later
        · exact left
        · exact ih right e later

/-- The last of several expressions decides where each before it fails. -/
theorem Derives.firstOf_last {around : Surroundings} {place : Place} {before : List (Expression ρ)}
    {e : Expression ρ} {result : Match ρ}
    (earlier : ∀ other ∈ before, Derives g around (.once other) place none)
    (last : Derives g around (.once e) place result) :
    Derives g around (.once (Expression.firstOf (before ++ [e]))) place result := by
  induction before with
  | nil => exact last
  | cons other before ih =>
    have first := earlier other List.mem_cons_self
    have later := ih fun another member => earlier another (.tail _ member)
    cases before with
    | nil => exact .choiceSecond first later
    | cons another before => exact .choiceSecond first later

/-- What holds of nothing, and of a match of an expression, perhaps after blanks, if it holds of
what follows, holds of all repetitions. -/
theorem Derives.repeats {around : Surroundings} {body : Expression ρ}
    {P : Place → List (Tree ρ) → Place → Prop} (done : ∀ place, P place [] place)
    (step : ∀ {place start middle stop trees others},
      start = place ∨ start = g.padded around place →
      Derives g around (.once body) start (some (middle, trees)) → P middle others stop →
      P place (trees ++ others) stop)
    {place stop : Place} {trees : List (Tree ρ)}
    (derived : Derives g around (.once (.many body)) place (some (stop, trees))) :
    P place trees stop := by
  have again {place stop : Place} {trees : List (Tree ρ)}
      (more : Derives g around (.again body) place (some (stop, trees))) :
      P place trees stop := by
    clear derived
    generalize result : some (stop, trees) = found at more
    generalize what : Phrase.again body = phrase at more
    induction more generalizing stop trees with
    | againNone fails =>
      cases result
      exact done _
    | againSome one more oneIH moreIH =>
      cases what
      cases result
      exact step (.inr rfl) one (moreIH step rfl rfl)
    | _ => cases what
  cases derived with
  | manyNone fails => exact done place
  | manySome one more => exact step (.inl rfl) one (again more)

mutual

/-- A tree and all trees below it. -/
def Tree.subtrees : Tree ρ → List (Tree ρ)
  | .node rule start stop children => .node rule start stop children :: Tree.subtreesOfAll children

/-- Some trees and all trees below them. -/
def Tree.subtreesOfAll : List (Tree ρ) → List (Tree ρ)
  | [] => []
  | tree :: others => tree.subtrees ++ Tree.subtreesOfAll others

end

/-- The trees right below the root of a tree. -/
def Tree.children : Tree ρ → List (Tree ρ)
  | .node _ _ _ children => children

theorem Tree.subtreesOfAll_eq_flatMap (trees : List (Tree ρ)) :
    Tree.subtreesOfAll trees = trees.flatMap Tree.subtrees := by
  induction trees with
  | nil => rfl
  | cons tree others ih =>
    rw [Tree.subtreesOfAll, ih]
    rfl

/-- A tree below another one is the other one or lies below a child of it. -/
theorem Tree.mem_subtrees {tree below : Tree ρ} :
    below ∈ tree.subtrees ↔ below = tree ∨ ∃ child ∈ tree.children, below ∈ child.subtrees := by
  obtain ⟨rule, start, stop, children⟩ := tree
  rw [Tree.subtrees, List.mem_cons, Tree.subtreesOfAll_eq_flatMap, List.mem_flatMap, Tree.children]

mutual

/-- What the children of every tree inherit from it, all trees below a tree inherit. -/
theorem Tree.inherits {P : Tree ρ → Prop}
    (step : ∀ tree : Tree ρ, P tree → ∀ child ∈ tree.children, P child) {below : Tree ρ} :
    ∀ tree : Tree ρ, P tree → below ∈ tree.subtrees → P below
  | .node rule start stop children, holds, member => by
    rcases List.mem_cons.mp member with rfl | later
    · exact holds
    · exact Tree.inheritsAll step children (step _ holds) later

/-- What holds of some trees and is inherited holds of all trees below them. -/
theorem Tree.inheritsAll {P : Tree ρ → Prop}
    (step : ∀ tree : Tree ρ, P tree → ∀ child ∈ tree.children, P child) {below : Tree ρ} :
    ∀ trees : List (Tree ρ), (∀ tree ∈ trees, P tree) → below ∈ Tree.subtreesOfAll trees →
      P below
  | [], _, member => nomatch member
  | tree :: others, all, member => by
    rcases List.mem_append.mp member with first | later
    · exact Tree.inherits step tree (all tree List.mem_cons_self) first
    · exact Tree.inheritsAll step others (fun other inside => all other (.tail _ inside)) later

end

/-- How many nodes an expression makes at most if it is known how many its rules make; nothing if
there is no bound. -/
def Expression.most (given : ρ → Option Nat) : Expression ρ → Option Nat
  | .call rule => given rule
  | .seq first second => do return (← first.most given) + (← second.most given)
  | .choice first second => do return max (← first.most given) (← second.most given)
  | .many body => if body.most given = some 0 then some 0 else none
  | .maybe body => body.most given
  | .literal _ | .oneOf _ | .atStart | .atEnd | .ahead _ | .notAhead _ => some 0

section

variable [DecidableEq ρ]

/-- How many nodes of one rule another rule makes at most, if hidden rules are looked into so
often. -/
def Grammar.most (g : Grammar ρ) (wanted : ρ) : Nat → ρ → Option Nat
  | 0, rule =>
    if g.kind rule = .hidden then none else some (if rule = wanted then 1 else 0)
  | depth + 1, rule =>
    if g.kind rule = .hidden then (g.body rule).most (g.most wanted depth)
    else some (if rule = wanted then 1 else 0)

/-- How many trees have a rule at their root. -/
def countRoots (wanted : ρ) (trees : List (Tree ρ)) : Nat :=
  trees.countP fun tree => tree.root.rule = wanted

theorem Grammar.most_shown {wanted rule : ρ} (shown : g.kind rule ≠ .hidden) (depth : Nat) :
    g.most wanted depth rule = some (if rule = wanted then 1 else 0) := by
  cases depth <;> exact if_neg shown

theorem countRoots_append (wanted : ρ) (trees others : List (Tree ρ)) :
    countRoots wanted (trees ++ others) = countRoots wanted trees + countRoots wanted others :=
  List.countP_append

/-- How many nodes a phrase makes at most: repetitions make none or any number. -/
def Phrase.most (given : ρ → Option Nat) : Phrase ρ → Option Nat
  | .once e => e.most given
  | .again body => if body.most given = some 0 then some 0 else none

/-- No derivation makes more nodes of a rule than the grammar lets it. -/
theorem Derives.countRoots_le {wanted : ρ} {around : Surroundings} {phrase : Phrase ρ}
    {place stop : Place} {trees : List (Tree ρ)}
    (derived : Derives g around phrase place (some (stop, trees))) (depth : Nat) {bound : Nat}
    (most : phrase.most (g.most wanted depth) = some bound) : countRoots wanted trees ≤ bound := by
  generalize result : some (stop, trees) = found at derived
  induction derived generalizing stop trees depth bound with
  | literal | oneOf | atStart | atEnd | manyNone | maybeNone | againNone | ahead | notAhead =>
    cases result
    exact Nat.zero_le _
  | literalFails | oneOfFails | atStartFails | atEndFails | callFails | seqFails | seqFailsLate
    | aheadFails | notAheadFails => cases result
  | callHidden hidden body ih =>
    cases depth with
    | zero =>
      rw [Phrase.most, Expression.most, Grammar.most, if_pos hidden] at most
      cases most
    | succ depth =>
      rw [Phrase.most, Expression.most, Grammar.most, if_pos hidden] at most
      exact ih depth most result
  | callShown shown body ih =>
    cases result
    rw [Phrase.most, Expression.most, g.most_shown shown, Option.some.injEq] at most
    rw [← most, nodesOf]
    split
    · refine Nat.le_of_eq ?_
      rw [countRoots, List.countP_singleton, Tree.root]
      simp only [decide_eq_true_eq]
    · exact Nat.zero_le _
  | seq left right leftIH rightIH =>
    cases result
    simp only [Phrase.most, Expression.most, Option.bind_eq_bind, Option.bind_eq_some_iff,
      Option.pure_def, Option.some.injEq] at most
    obtain ⟨front, first, back, second, rfl⟩ := most
    rw [countRoots_append]
    exact Nat.add_le_add (leftIH depth first rfl) (rightIH depth second rfl)
  | choiceFirst left ih =>
    simp only [Phrase.most, Expression.most, Option.bind_eq_bind, Option.bind_eq_some_iff,
      Option.pure_def, Option.some.injEq] at most
    obtain ⟨front, first, back, second, rfl⟩ := most
    exact Nat.le_trans (ih depth first result) (Nat.le_max_left _ _)
  | choiceSecond left right leftIH rightIH =>
    simp only [Phrase.most, Expression.most, Option.bind_eq_bind, Option.bind_eq_some_iff,
      Option.pure_def, Option.some.injEq] at most
    obtain ⟨front, first, back, second, rfl⟩ := most
    exact Nat.le_trans (rightIH depth second result) (Nat.le_max_right _ _)
  | manySome one more oneIH moreIH | againSome one more oneIH moreIH =>
    cases result
    have again := most
    simp only [Phrase.most, Expression.most] at most
    split at most
    case isTrue none =>
      rw [countRoots_append, Nat.le_zero.mp (oneIH depth none rfl), Nat.zero_add]
      exact moreIH depth again rfl
    case isFalse => cases most
  | maybeSome one ih => exact ih depth most result

end

end PluginSandbox.Peg
