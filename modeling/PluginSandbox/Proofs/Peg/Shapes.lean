import PluginSandbox.Proofs.Peg.Nodes
import PluginSandbox.Proofs.Peg.Progress

/-!
# The shapes of nodes and texts

What an expression makes of nodes has the shape of the expression: a sequence makes what its parts
make, one after the other, a repetition any number of what its body makes. A shape is read from the
front of a list, with a condition on what is left. What rules make is given, for rules that show as
well as for those that are looked through. The characters that an expression takes have its shape
too, where no blanks are passed over.
-/
namespace PluginSandbox.Peg

open Grammar

variable {ρ α : Type}

/-- A list that consists of any number of lists of one kind. -/
inductive Repeated (one : List α → Prop) : List α → Prop where
  /-- None of them. -/
  | none : Repeated one []
  /-- One more before some. -/
  | more {front back : List α} (first : one front) (rest : Repeated one back) :
    Repeated one (front ++ back)

/-- What rules make at the front of a list, with a condition on the rest. -/
abbrev Given (ρ α : Type) := ρ → (List α → Prop) → List α → Prop

/-- Whether an expression makes the front of a list and something holds of the rest. -/
def Expression.Makes (given : Given ρ α) : Expression ρ → (List α → Prop) → List α → Prop
  | .call rule, next, list => given rule next list
  | .seq first second, next, list => first.Makes given (second.Makes given next) list
  | .choice first second, next, list => first.Makes given next list ∨ second.Makes given next list
  | .many body, next, list => ∃ front back,
    list = front ++ back ∧ Repeated (body.Makes given (· = [])) front ∧ next back
  | .maybe body, next, list => next list ∨ body.Makes given next list
  | .literal _, next, list | .oneOf _, next, list | .atStart, next, list | .atEnd, next, list
  | .ahead _, next, list | .notAhead _, next, list => next list

/-- Whether an expression can take some characters, with no blanks between its parts. Nothing is
said about rules. -/
def Expression.Spells : Expression ρ → List Char → Prop
  | .literal characters, taken => taken = characters
  | .oneOf holds, taken => ∃ c, taken = [c] ∧ holds c = true
  | .seq first second, taken =>
    ∃ front back, taken = front ++ back ∧ first.Spells front ∧ second.Spells back
  | .choice first second, taken => first.Spells taken ∨ second.Spells taken
  | .many body, taken => Repeated body.Spells taken
  | .maybe body, taken => taken = [] ∨ body.Spells taken
  | .call _, _ => True
  | .atStart, taken | .atEnd, taken | .ahead _, taken | .notAhead _, taken => taken = []

/-- Every repetition of one character of a class takes characters of the class. -/
theorem Repeated.all_oneOf {holds : Char → Bool} {taken : List Char}
    (repeated : Repeated (Expression.oneOf (ρ := ρ) holds).Spells taken) :
    ∀ c ∈ taken, holds c = true := by
  induction repeated with
  | none => nofun
  | more first _ ih =>
    obtain ⟨d, rfl, held⟩ := first
    intro c member
    rcases List.mem_cons.mp member with rfl | later
    · exact held
    · exact ih c later

/-- At least one character of a class is a run of characters of the class that is not empty. -/
theorem Expression.Spells.atLeastOnce_oneOf {holds : Char → Bool} {taken : List Char}
    (spells : (Expression.atLeastOnce (ρ := ρ) (.oneOf holds)).Spells taken) :
    taken ≠ [] ∧ ∀ c ∈ taken, holds c = true := by
  obtain ⟨front, back, rfl, ⟨d, rfl, held⟩, more⟩ := spells
  refine ⟨List.cons_ne_nil _ _, fun c member => ?_⟩
  rcases List.mem_cons.mp member with rfl | later
  · exact held
  · exact more.all_oneOf c later

/-- Whether a phrase can take some characters, with no blanks between its parts. -/
def Phrase.Spells : Phrase ρ → List Char → Prop
  | .once e, taken => e.Spells taken
  | .again body, taken => Repeated body.Spells taken

/-- Whether a phrase makes the front of a list and something holds of the rest. -/
def Phrase.Makes (given : Given ρ α) : Phrase ρ → (List α → Prop) → List α → Prop
  | .once e, next, list => e.Makes given next list
  | .again body, next, list => (Expression.many body).Makes given next list

/-- The rules that an expression calls to make nodes. -/
def Expression.calls : Expression ρ → List ρ
  | .call rule => [rule]
  | .seq first second | .choice first second => first.calls ++ second.calls
  | .many body | .maybe body => body.calls
  | .literal _ | .oneOf _ | .atStart | .atEnd | .ahead _ | .notAhead _ => []

/-- A list starts with members that have a property, and something holds of the rest. -/
def StartsWith (P : α → Prop) (next : List α → Prop) (list : List α) : Prop :=
  ∃ front back, list = front ++ back ∧ (∀ item ∈ front, P item) ∧ next back

theorem StartsWith.none {P : α → Prop} {next : List α → Prop} {list : List α} (rest : next list) :
    StartsWith P next list := ⟨[], list, rfl, nofun, rest⟩

theorem StartsWith.trans {P : α → Prop} {next : List α → Prop} {list : List α}
    (starts : StartsWith P (StartsWith P next) list) : StartsWith P next list := by
  obtain ⟨front, _, rfl, first, middle, back, rfl, second, rest⟩ := starts
  refine ⟨front ++ middle, back, (List.append_assoc _ _ _).symm, fun item member => ?_, rest⟩
  rcases List.mem_append.mp member with early | late
  · exact first item early
  · exact second item late

theorem StartsWith.all {P : α → Prop} {list : List α} (starts : StartsWith P (· = []) list) :
    ∀ item ∈ list, P item := by
  obtain ⟨front, _, rfl, all, rfl⟩ := starts
  rw [List.append_nil]
  exact all

/-- What holds of all that the rules of an expression make holds of all that it makes. -/
theorem Expression.Makes.startsWith {given : Given ρ α} {P : α → Prop} {e : Expression ρ}
    {next : List α → Prop} {list : List α} (makes : e.Makes given next list)
    (each : ∀ rule ∈ e.calls, ∀ next list, given rule next list → StartsWith P next list) :
    StartsWith P next list := by
  induction e generalizing next list with
  | literal | oneOf | atStart | atEnd | ahead | notAhead => exact .none makes
  | call rule => exact each rule (List.mem_singleton_self rule) next list makes
  | seq first second firstIH secondIH =>
    obtain ⟨front, rest, rfl, all, later⟩ :=
      firstIH makes fun rule inside => each rule (List.mem_append_left _ inside)
    have more := secondIH later fun rule inside => each rule (List.mem_append_right _ inside)
    exact .trans ⟨front, rest, rfl, all, more⟩
  | choice first second firstIH secondIH =>
    rcases makes with left | right
    · exact firstIH left fun rule inside => each rule (List.mem_append_left _ inside)
    · exact secondIH right fun rule inside => each rule (List.mem_append_right _ inside)
  | maybe body ih =>
    rcases makes with none | some
    · exact .none none
    · exact ih some each
  | many body ih =>
    obtain ⟨front, back, rfl, all, rest⟩ := makes
    refine ⟨front, back, rfl, ?_, rest⟩
    induction all with
    | none => nofun
    | more first _ later =>
      intro item member
      rcases List.mem_append.mp member with early | late
      · exact (ih first each).all item early
      · exact later item late

section

variable {g : Grammar ρ} {given : Given ρ α}

/-- Where nodes are made, rules that show make them. -/
theorem makesNodes_shownIn {around : Surroundings} (kind : RuleKind)
    (makes : around.makesNodes = true) : (shownIn kind around).makesNodes = true := by
  simp only [Surroundings.makesNodes, Bool.and_eq_true, decide_eq_true_eq] at makes ⊢
  cases kind with
  | plain | hidden | atomic => exact makes
  | compact | spaced => exact ⟨makes.1, nofun⟩

/-- The nodes of a match, read one by one, have the shape of what is matched, if hidden rules make
whatever their bodies make. -/
theorem Derives.makes (read : Tree ρ → List α)
    (hidden : ∀ rule, g.kind rule = .hidden → ∀ next list, (g.body rule).Makes given next list →
      given rule next list)
    {around : Surroundings} {phrase : Phrase ρ} {place stop : Place} {trees : List (Tree ρ)}
    (makesNodes : around.makesNodes = true)
    (derived : Derives g around phrase place (some (stop, trees)))
    (shown : ∀ tree ∈ trees, g.kind tree.root.rule ≠ .hidden → ∀ (next : List α → Prop) rest,
      next rest → given tree.root.rule next (read tree ++ rest))
    (next : List α → Prop) (rest : List α) (holds : next rest) :
    phrase.Makes given next (trees.flatMap read ++ rest) := by
  generalize result : some (stop, trees) = found at derived
  induction derived generalizing stop trees next rest with
  | literal | oneOf | atStart | atEnd | ahead | notAhead =>
    cases result
    exact holds
  | maybeNone =>
    cases result
    exact .inl holds
  | manyNone | againNone =>
    cases result
    exact ⟨[], rest, rfl, .none, holds⟩
  | literalFails | oneOfFails | atStartFails | atEndFails | callFails | seqFails | seqFailsLate
    | aheadFails | notAheadFails => cases result
  | callHidden kind _ ih => exact hidden _ kind _ _ (ih makesNodes shown next rest holds result)
  | callShown kind _ _ =>
    cases result
    rw [nodesOf, if_pos (makesNodes_shownIn _ makesNodes)] at shown ⊢
    rw [List.flatMap_singleton]
    exact shown _ (List.mem_singleton_self _) kind next rest holds
  | seq _ _ leftIH rightIH =>
    cases result
    rw [List.flatMap_append, List.append_assoc]
    refine leftIH makesNodes (fun tree member => shown tree (List.mem_append_left _ member)) _ _ ?_
      rfl
    exact rightIH makesNodes (fun tree member => shown tree (List.mem_append_right _ member)) next
      rest holds rfl
  | choiceFirst _ ih => exact .inl (ih makesNodes shown next rest holds result)
  | choiceSecond _ _ _ ih => exact .inr (ih makesNodes shown next rest holds result)
  | maybeSome _ ih => exact .inr (ih makesNodes shown next rest holds result)
  | manySome _ _ oneIH moreIH | againSome _ _ oneIH moreIH =>
    cases result
    have one := oneIH makesNodes (fun tree member => shown tree (List.mem_append_left _ member))
      (· = []) [] rfl rfl
    obtain ⟨front, back, split, all, later⟩ := moreIH makesNodes
      (fun tree member => shown tree (List.mem_append_right _ member)) next rest holds rfl
    rw [List.append_nil] at one
    refine ⟨_, back, ?_, .more one all, later⟩
    rw [List.flatMap_append, List.append_assoc, List.append_assoc, split]

/-- The characters of a match are spelled as what is matched says. -/
theorem Derives.spells (forward : g.SkipsForward) {around : Surroundings}
    (compact : around.mode ≠ .spaced) {phrase : Phrase ρ} {place stop : Place}
    {trees : List (Tree ρ)} (derived : Derives g around phrase place (some (stop, trees))) :
    ∃ taken, place.Takes taken stop ∧ phrase.Spells taken := by
  have solid (middle : Place) : g.padded around middle = middle := if_neg compact
  generalize result : some (stop, trees) = found at derived
  induction derived generalizing stop trees with
  | literal next =>
    cases result
    exact ⟨_, .after next, rfl⟩
  | oneOf next held =>
    cases result
    exact ⟨_, .next next, _, rfl, held⟩
  | atStart | atEnd | ahead | notAhead =>
    cases result
    exact ⟨[], .refl _, rfl⟩
  | maybeNone =>
    cases result
    exact ⟨[], .refl _, .inl rfl⟩
  | manyNone | againNone =>
    cases result
    exact ⟨[], .refl _, .none⟩
  | literalFails | oneOfFails | atStartFails | atEndFails | callFails | seqFails | seqFailsLate
    | aheadFails | notAheadFails => cases result
  | callHidden _ body _ =>
    cases result
    obtain ⟨taken, takes⟩ := body.takes forward
    exact ⟨taken, takes, trivial⟩
  | callShown _ body _ =>
    cases result
    obtain ⟨taken, takes⟩ := body.takes forward
    exact ⟨taken, takes, trivial⟩
  | seq _ _ leftIH rightIH =>
    cases result
    obtain ⟨front, first, spelled⟩ := leftIH compact solid rfl
    obtain ⟨back, second, later⟩ := rightIH compact solid rfl
    rw [solid] at second
    exact ⟨_, first.trans second, front, back, rfl, spelled, later⟩
  | choiceFirst _ ih =>
    obtain ⟨taken, takes, spelled⟩ := ih compact solid result
    exact ⟨taken, takes, .inl spelled⟩
  | choiceSecond _ _ _ ih =>
    obtain ⟨taken, takes, spelled⟩ := ih compact solid result
    exact ⟨taken, takes, .inr spelled⟩
  | maybeSome _ ih =>
    obtain ⟨taken, takes, spelled⟩ := ih compact solid result
    exact ⟨taken, takes, .inr spelled⟩
  | manySome _ _ oneIH moreIH =>
    cases result
    obtain ⟨front, first, spelled⟩ := oneIH compact solid rfl
    obtain ⟨back, second, later⟩ := moreIH compact solid rfl
    exact ⟨_, first.trans second, .more spelled later⟩
  | againSome _ _ oneIH moreIH =>
    cases result
    obtain ⟨front, first, spelled⟩ := oneIH compact solid rfl
    obtain ⟨back, second, later⟩ := moreIH compact solid rfl
    rw [solid] at first
    exact ⟨_, first.trans second, .more spelled later⟩

end

end PluginSandbox.Peg
