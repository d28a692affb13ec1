import PluginSandbox.Proofs.Peg.Nodes

/-!
# Where nodes start

A node starts where no blanks are left to pass over, if the whole match does. So a test at the start
of a part of a sequence looks at the same characters as the part itself.
-/
namespace PluginSandbox.Peg

open Grammar

variable {ρ : Type} {g : Grammar ρ}

/-- Nothing is left to pass over at a place. -/
def Grammar.Settled (g : Grammar ρ) (around : Surroundings) (place : Place) : Prop :=
  g.padded around place = place

/-- All blanks are passed over at once. -/
def Grammar.SkipsOnce (g : Grammar ρ) : Prop :=
  ∀ place : Place, g.skipBlanks (g.skipBlanks place) = g.skipBlanks place

/-- A rule that passes over blanks whatever surrounds it starts with characters that are none. -/
def Grammar.OpensFirmly (g : Grammar ρ) : Prop :=
  ∀ rule, g.kind rule = .spaced → ∃ opening others,
    g.body rule = .seq (.literal opening) others ∧
      ∀ place, place.after? opening ≠ none → g.skipBlanks place = place

theorem Grammar.settled_of_mode {around : Surroundings} (tight : around.mode ≠ .spaced)
    (place : Place) : g.Settled around place := if_neg tight

theorem Grammar.SkipsOnce.settled (once : g.SkipsOnce) (around : Surroundings) (place : Place) :
    g.Settled around (g.padded around place) := by
  by_cases spaced : around.mode = .spaced
  · have skip (other : Place) : g.padded around other = g.skipBlanks other := if_pos spaced
    rw [Settled, skip place, skip]
    exact once place
  · exact settled_of_mode spaced _

/-- The children of a tree are what the body of its rule makes at a place where nothing is left to
pass over. -/
def Tree.Stands (g : Grammar ρ) : Tree ρ → Prop
  | .node rule start stop children => ∃ around last,
    (shownIn (g.kind rule) around).makesNodes = true ∧ last.offset = stop ∧
      g.Settled (inside (g.kind rule) around) start ∧
      Derives g (inside (g.kind rule) around) (.once (g.body rule)) start (some (last, children))

/-- Where nothing is left to pass over around a rule, nothing is inside it. -/
theorem settled_inside (firm : g.OpensFirmly) {around : Surroundings} {rule : ρ}
    {place stop : Place} {trees : List (Tree ρ)} (settled : g.Settled around place)
    (body : Derives g (inside (g.kind rule) around) (.once (g.body rule)) place
      (some (stop, trees))) : g.Settled (inside (g.kind rule) around) place := by
  cases kind : g.kind rule with
  | plain | hidden => exact settled
  | atomic =>
    have tight : Mode.atomic ≠ .spaced := nofun
    exact settled_of_mode tight place
  | compact =>
    have tight : Mode.compact ≠ .spaced := nofun
    exact settled_of_mode tight place
  | spaced =>
    obtain ⟨opening, others, opens, tight⟩ := firm rule kind
    rw [opens] at body
    have skips : g.skipBlanks place = place := by
      cases body with
      | seq left right =>
        cases left with
        | literal next =>
          apply tight
          rw [next]
          exact Option.some_ne_none _
    exact (if_pos rfl).trans skips

/-- The nodes of a match start where nothing is left to pass over, if the match itself does. Further
repetitions pass over blanks first, so they may start anywhere. -/
theorem Derives.stands (once : g.SkipsOnce) (firm : g.OpensFirmly) {around : Surroundings}
    {phrase : Phrase ρ} {place stop : Place} {trees : List (Tree ρ)}
    (derived : Derives g around phrase place (some (stop, trees)))
    (settled : ∀ e, phrase = .once e → g.Settled around place) :
    ∀ tree ∈ trees, tree.Stands g := by
  generalize result : some (stop, trees) = found at derived
  induction derived generalizing stop trees with
  | literal | oneOf | atStart | atEnd | manyNone | maybeNone | againNone | ahead | notAhead =>
    cases result
    nofun
  | literalFails | oneOfFails | atStartFails | atEndFails | callFails | seqFails | seqFailsLate
    | aheadFails | notAheadFails => cases result
  | callHidden _ _ ih | choiceFirst _ ih | maybeSome _ ih | choiceSecond _ _ _ ih =>
    have here := settled _ rfl
    exact ih (fun _ _ => here) result
  | @callShown around rule place stop children _ body _ =>
    cases result
    intro tree member
    unfold nodesOf at member
    split at member
    case isTrue makes =>
      rw [List.mem_singleton.mp member]
      exact ⟨around, stop, makes, rfl, settled_inside firm (settled _ rfl) body, body⟩
    case isFalse => cases member
  | seq left right leftIH rightIH =>
    cases result
    intro tree member
    have here := settled _ rfl
    have later := once.settled
    rcases List.mem_append.mp member with first | second
    · exact leftIH (fun _ _ => here) rfl tree first
    · exact rightIH (fun _ _ => later _ _) rfl tree second
  | manySome one more oneIH moreIH =>
    cases result
    intro tree member
    have here := settled _ rfl
    rcases List.mem_append.mp member with first | later
    · exact oneIH (fun _ _ => here) rfl tree first
    · exact moreIH nofun rfl tree later
  | againSome one more oneIH moreIH =>
    cases result
    intro tree member
    have later := once.settled
    rcases List.mem_append.mp member with first | second
    · exact oneIH (fun _ _ => later _ _) rfl tree first
    · exact moreIH nofun rfl tree second

/-- Repetitions of one expression are repetitions of another one that matches wherever the first
does, as long as the nodes are of some kind, and that does not match after the last of them. -/
theorem Derives.many_replaced {around : Surroundings} {place stop : Place}
    {trees : List (Tree ρ)} {first second : Expression ρ} {kind : Tree ρ → Prop}
    (replaces : ∀ {place middle trees}, (∀ tree ∈ trees, kind tree) →
      Derives g around (.once first) place (some (middle, trees)) →
        Derives g around (.once second) place (some (middle, trees)))
    (settled : g.Settled around place) (all : ∀ tree ∈ trees, kind tree)
    (ends : Derives g around (.once second) (g.padded around stop) none)
    (derived : Derives g around (.once (.many first)) place (some (stop, trees))) :
    Derives g around (.once (.many second)) place (some (stop, trees)) := by
  have further {place stop : Place} {trees : List (Tree ρ)} (members : ∀ tree ∈ trees, kind tree)
      (last : Derives g around (.once second) (g.padded around stop) none)
      (more : Derives g around (.again first) place (some (stop, trees))) :
      Derives g around (.again second) place (some (stop, trees)) := by
    clear derived settled all ends
    generalize result : some (stop, trees) = found at more
    generalize what : Phrase.again first = phrase at more
    induction more generalizing stop trees with
    | againNone fails =>
      cases result
      exact .againNone last
    | againSome one more oneIH moreIH =>
      cases what
      cases result
      obtain ⟨front, back⟩ := List.forall_mem_append.mp members
      exact .againSome (replaces front one) (moreIH replaces back last rfl rfl)
    | _ => cases what
  cases derived with
  | manyNone fails =>
    rw [settled] at ends
    exact .manyNone ends
  | manySome one more =>
    obtain ⟨front, back⟩ := List.forall_mem_append.mp all
    exact .manySome (replaces front one) (further back ends more)

/-- Trees below a tree whose nodes start so start so too. -/
theorem Tree.Stands.below (once : g.SkipsOnce) (firm : g.OpensFirmly) {tree below : Tree ρ}
    (stands : tree.Stands g) (member : below ∈ tree.subtrees) : below.Stands g := by
  refine Tree.inherits (fun tree stands child inside => ?_) tree stands member
  obtain ⟨rule, start, stop, children⟩ := tree
  obtain ⟨around, last, _, _, settled, derived⟩ := stands
  exact derived.stands once firm (fun _ _ => settled) child inside

end PluginSandbox.Peg
