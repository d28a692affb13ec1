import Mathlib.Logic.Relation
import PluginSandbox.Proofs.Peg.Progress

/-!
# Trials

To match a phrase at a place means to try its parts, each at a place that depends on how the parts
before it went. A search without end would be a sequence of trials without end. In a ranked grammar
there is none: from each trial to the next, characters are taken or the height of the phrase
decreases. So a rule is tried again within itself only after characters have been taken.
-/
namespace PluginSandbox.Peg

open Grammar

variable {ρ : Type}

/-- A phrase that is tried at a place. -/
structure Trial (ρ : Type) where
  /-- What surrounds the phrase. -/
  around : Surroundings
  /-- The phrase. -/
  phrase : Phrase ρ
  /-- The place. -/
  place : Place

/-- One trial of a search makes another one: a part is tried once the parts before it have gone as
they have to. Tests try their part as well, and the part after blanks is tried where they end. -/
inductive Grammar.Tries (g : Grammar ρ) : Trial ρ → Trial ρ → Prop where
  | call {around rule place} :
    g.Tries ⟨around, .once (.call rule), place⟩
      ⟨inside (g.kind rule) around, .once (g.body rule), place⟩
  | seqFirst {around first second place} :
    g.Tries ⟨around, .once (.seq first second), place⟩ ⟨around, .once first, place⟩
  | seqSecond {around first second place middle trees}
      (left : Derives g around (.once first) place (some (middle, trees))) :
    g.Tries ⟨around, .once (.seq first second), place⟩
      ⟨around, .once second, g.padded around middle⟩
  | choiceFirst {around first second place} :
    g.Tries ⟨around, .once (.choice first second), place⟩ ⟨around, .once first, place⟩
  | choiceSecond {around first second place}
      (left : Derives g around (.once first) place none) :
    g.Tries ⟨around, .once (.choice first second), place⟩ ⟨around, .once second, place⟩
  | many {around body place} :
    g.Tries ⟨around, .once (.many body), place⟩ ⟨around, .once body, place⟩
  | manyMore {around body place middle trees}
      (one : Derives g around (.once body) place (some (middle, trees))) :
    g.Tries ⟨around, .once (.many body), place⟩ ⟨around, .again body, middle⟩
  | again {around body place} :
    g.Tries ⟨around, .again body, place⟩ ⟨around, .once body, g.padded around place⟩
  | againMore {around body place middle trees}
      (one : Derives g around (.once body) (g.padded around place) (some (middle, trees))) :
    g.Tries ⟨around, .again body, place⟩ ⟨around, .again body, middle⟩
  | maybe {around body place} :
    g.Tries ⟨around, .once (.maybe body), place⟩ ⟨around, .once body, place⟩
  | ahead {around body place} :
    g.Tries ⟨around, .once (.ahead body), place⟩ ⟨around.testing, .once body, place⟩
  | notAhead {around body place} :
    g.Tries ⟨around, .once (.notAhead body), place⟩ ⟨around.refuting, .once body, place⟩

/-- What an expression repeats, its parts included. -/
def Expression.repeated : Expression ρ → List (Expression ρ)
  | .literal _ | .oneOf _ | .atStart | .atEnd | .call _ => []
  | .seq first second | .choice first second => first.repeated ++ second.repeated
  | .many body => body :: body.repeated
  | .maybe body | .ahead body | .notAhead body => body.repeated

/-- How deep the search for a phrase goes before it takes a character. -/
def Phrase.height (r : Ranking ρ) : Phrase ρ → Nat
  | .once e => e.height r
  | .again body => body.height r + 1

/-- Whether the expression of a phrase is ranked. -/
def Phrase.isRanked (r : Ranking ρ) : Phrase ρ → Bool
  | .once e => e.isRanked r
  | .again body => (Expression.many body).isRanked r

/-- What a trial costs at most: the characters that are left count more than the height. -/
def Trial.cost (r : Ranking ρ) (trial : Trial ρ) : Nat :=
  r.limit * trial.place.rest.length + trial.phrase.height r

section

variable {g : Grammar ρ} {r : Ranking ρ}

/-- What an expression repeats is ranked and takes characters. -/
theorem Expression.isRanked_repeated {e body : Expression ρ} (ranked : e.isRanked r = true)
    (member : body ∈ e.repeated) : body.isRanked r = true ∧ body.isNullable r = false := by
  induction e with
  | literal | oneOf | atStart | atEnd | call => cases member
  | seq first second leftIH rightIH | choice first second leftIH rightIH =>
    simp only [isRanked, Bool.and_eq_true] at ranked
    rcases List.mem_append.mp member with inFirst | inSecond
    · exact leftIH ranked.1.1 inFirst
    · exact rightIH ranked.1.2 inSecond
  | many other ih =>
    simp only [isRanked, Bool.and_eq_true, Bool.not_eq_true'] at ranked
    rcases List.mem_cons.mp member with rfl | inside
    · exact ranked.1
    · exact ih ranked.1.1 inside
  | maybe other ih | ahead other ih | notAhead other ih => exact ih ranked member

variable {earlier later : Trial ρ}

/-- The trials that a ranked one makes are ranked. -/
theorem Grammar.Tries.isRanked (fits : r.Fits g) (tries : g.Tries earlier later)
    (ranked : earlier.phrase.isRanked r = true) : later.phrase.isRanked r = true := by
  cases tries with
  | call => exact fits.ranked _
  | seqFirst | choiceFirst | many | again =>
    simp only [Phrase.isRanked, Expression.isRanked, Bool.and_eq_true] at ranked
    exact ranked.1.1
  | seqSecond | choiceSecond =>
    simp only [Phrase.isRanked, Expression.isRanked, Bool.and_eq_true] at ranked
    exact ranked.1.2
  | manyMore | againMore | maybe | ahead | notAhead => exact ranked

/-- Characters that are taken outweigh the height of what comes after them. -/
theorem Ranking.cost_later (r : Ranking ρ) {left rest height higher : Nat} (fewer : rest < left)
    (low : height ≤ r.limit) (positive : 0 < higher) :
    r.limit * rest + height < r.limit * left + higher := by
  have scaled : r.limit * (rest + 1) ≤ r.limit * left := Nat.mul_le_mul_left _ fewer
  rw [Nat.mul_add, Nat.mul_one] at scaled
  omega

/-- A trial costs more than the trials that it makes. -/
theorem Grammar.Tries.cost_lt (fits : r.Fits g) (tries : g.Tries earlier later)
    (ranked : earlier.phrase.isRanked r = true) : later.cost r < earlier.cost r := by
  have lower {place : Place} {height higher : Nat} (less : height < higher) :
      r.limit * place.rest.length + height < r.limit * place.rest.length + higher :=
    Nat.add_lt_add_left less _
  cases tries with
  | call => exact lower (Nat.lt_succ_of_le (fits.rank _))
  | seqFirst | choiceFirst => exact lower (Nat.lt_succ_of_le (Nat.le_max_left _ _))
  | choiceSecond => exact lower (Nat.lt_succ_of_le (Nat.le_max_right _ _))
  | many | maybe | ahead | notAhead => exact lower (Nat.lt_succ_self _)
  | @seqSecond around first second place middle trees left =>
    simp only [Phrase.isRanked, Expression.isRanked, Bool.and_eq_true, decide_eq_true_eq] at ranked
    have padded := fits.padded_length_le around middle
    -- After a part that may be empty the height decreases, after any other one the text.
    cases nullable : first.isNullable r with
    | true =>
      have forward := Nat.le_trans padded (left.length_le fits)
      have scaled := Nat.mul_le_mul_left r.limit forward
      simp only [Trial.cost, Phrase.height, Expression.height, nullable, if_true]
      omega
    | false =>
      have fewer := Nat.lt_of_le_of_lt padded (left.length_lt fits nullable)
      exact r.cost_later fewer (Nat.le_of_lt ranked.2) (Nat.succ_pos _)
  | @manyMore around body place middle trees one =>
    simp only [Phrase.isRanked, Expression.isRanked, Bool.and_eq_true, Bool.not_eq_true',
      decide_eq_true_eq] at ranked
    exact r.cost_later (one.length_lt fits ranked.1.2) ranked.2 (Nat.succ_pos _)
  | @again around body place =>
    have padded := Nat.mul_le_mul_left r.limit (fits.padded_length_le around place)
    simp only [Trial.cost, Phrase.height]
    omega
  | @againMore around body place middle trees one =>
    simp only [Phrase.isRanked, Expression.isRanked, Bool.and_eq_true, Bool.not_eq_true',
      decide_eq_true_eq] at ranked
    have fewer := Nat.lt_of_lt_of_le (one.length_lt fits ranked.1.2)
      (fits.padded_length_le around place)
    exact r.cost_later fewer ranked.2 (Nat.succ_pos _)

/-- A search in a ranked grammar comes to an end, whatever is searched for. -/
theorem Grammar.Tries.acc (fits : r.Fits g) (trial : Trial ρ)
    (ranked : trial.phrase.isRanked r = true) :
    Acc (fun later earlier => g.Tries earlier later) trial := by
  induction cost : trial.cost r using Nat.strongRecOn generalizing trial with
  | ind _ ih =>
    subst cost
    exact ⟨_, fun later tries =>
      ih _ (tries.cost_lt fits ranked) later (tries.isRanked fits ranked) rfl⟩

/-- A search costs less and less. -/
theorem cost_lt_of_search (fits : r.Fits g)
    (search : Relation.TransGen g.Tries earlier later)
    (ranked : earlier.phrase.isRanked r = true) :
    later.phrase.isRanked r = true ∧ later.cost r < earlier.cost r := by
  induction search with
  | single tries => exact ⟨tries.isRanked fits ranked, tries.cost_lt fits ranked⟩
  | tail _ tries ih => exact ⟨tries.isRanked fits ih.1, Nat.lt_trans (tries.cost_lt fits ih.1) ih.2⟩

/-- A phrase that is tried again in the course of its own search is tried where fewer characters
are left. -/
theorem length_lt_of_cycle (fits : r.Fits g)
    (search : Relation.TransGen g.Tries earlier later) (cycle : later.phrase = earlier.phrase)
    (ranked : earlier.phrase.isRanked r = true) :
    later.place.rest.length < earlier.place.rest.length := by
  have cheaper := (cost_lt_of_search fits search ranked).2
  rw [Trial.cost, Trial.cost, cycle] at cheaper
  exact Nat.lt_of_mul_lt_mul_left (Nat.lt_of_add_lt_add_right cheaper)

/-- A search that comes to an end has a result: what a phrase comes to is settled by what the trials
that it makes come to. -/
theorem Trial.result_of_acc {trial : Trial ρ}
    (ends : Acc (fun later earlier => g.Tries earlier later) trial) :
    ∃ result, Derives g trial.around trial.phrase trial.place result := by
  induction ends with
  | intro trial _ ih =>
  obtain ⟨around, phrase, place⟩ := trial
  cases phrase with
  | again body =>
    obtain ⟨_ | ⟨middle, trees⟩, one⟩ := ih _ .again
    · exact ⟨_, .againNone one⟩
    · obtain ⟨result, more⟩ := ih _ (.againMore one)
      obtain ⟨⟨stop, others⟩, rfl⟩ := more.again_matches
      exact ⟨_, .againSome one more⟩
  | once e =>
    cases e with
    | literal characters =>
      cases next : place.after? characters with
      | none => exact ⟨_, .literalFails next⟩
      | some stop => exact ⟨_, .literal next⟩
    | oneOf holds =>
      cases next : place.next with
      | none => exact ⟨_, .oneOfFails fun c stop found => nomatch next.symm.trans found⟩
      | some found =>
        cases held : holds found.1 with
        | true => exact ⟨_, .oneOf next held⟩
        | false =>
          refine ⟨_, .oneOfFails fun c stop other => ?_⟩
          cases next.symm.trans other
          exact held
    | atStart =>
      by_cases start : place.offset = 0
      · exact ⟨_, .atStart start⟩
      · exact ⟨_, .atStartFails start⟩
    | atEnd =>
      by_cases done : place.rest = []
      · exact ⟨_, .atEnd done⟩
      · exact ⟨_, .atEndFails done⟩
    | call rule =>
      obtain ⟨result, body⟩ := ih _ .call
      by_cases hidden : g.kind rule = .hidden
      · rw [hidden] at body
        exact ⟨_, .callHidden hidden body⟩
      · cases result with
        | none => exact ⟨_, .callFails hidden body⟩
        | some found => exact ⟨_, .callShown hidden body⟩
    | seq first second =>
      obtain ⟨_ | ⟨middle, trees⟩, left⟩ := ih _ .seqFirst
      · exact ⟨_, .seqFails left⟩
      · obtain ⟨_ | ⟨stop, others⟩, right⟩ := ih _ (.seqSecond left)
        · exact ⟨_, .seqFailsLate left right⟩
        · exact ⟨_, .seq left right⟩
    | choice first second =>
      obtain ⟨_ | found, left⟩ := ih _ .choiceFirst
      · obtain ⟨result, right⟩ := ih _ (.choiceSecond left)
        exact ⟨_, .choiceSecond left right⟩
      · exact ⟨_, .choiceFirst left⟩
    | many body =>
      obtain ⟨_ | ⟨middle, trees⟩, one⟩ := ih _ .many
      · exact ⟨_, .manyNone one⟩
      · obtain ⟨result, more⟩ := ih _ (.manyMore one)
        obtain ⟨⟨stop, others⟩, rfl⟩ := more.again_matches
        exact ⟨_, .manySome one more⟩
    | maybe body =>
      obtain ⟨_ | found, one⟩ := ih _ .maybe
      · exact ⟨_, .maybeNone one⟩
      · exact ⟨_, .maybeSome one⟩
    | ahead body =>
      obtain ⟨_ | found, test⟩ := ih _ .ahead
      · exact ⟨_, .aheadFails test⟩
      · exact ⟨_, .ahead test⟩
    | notAhead body =>
      obtain ⟨_ | found, test⟩ := ih _ .notAhead
      · exact ⟨_, .notAhead test⟩
      · exact ⟨_, .notAheadFails test⟩

end

end PluginSandbox.Peg
