import PluginSandbox.Proofs.Peg.Derivation

/-!
# Progress

Every match takes a run of characters off the front of the text. In a grammar whose rules are
ranked, so that a rule starts only with rules of lower rank and repeats only what takes
characters, the recognizer therefore ends: every expression has a result at every place, and the
fuel that finds it is known beforehand.
-/
namespace PluginSandbox.Peg

open Grammar

variable {ρ σ : Type}

/-- A run of characters leads from one place to another. -/
structure Place.Takes (start : Place) (text : List Char) (stop : Place) : Prop where
  /-- The characters stand before the rest. -/
  rest : start.rest = text ++ stop.rest
  /-- Their bytes are counted. -/
  offset : stop.offset = start.offset + Text.byteSize text

/-- The bytes of characters do not depend on where counting starts. -/
theorem byteSize_foldl (chars : List Char) (bytes : Nat) :
    chars.foldl (fun bytes c => bytes + c.utf8Size) bytes = bytes + Text.byteSize chars := by
  induction chars generalizing bytes with
  | nil => rfl
  | cons c chars ih =>
    simp only [Text.byteSize, List.foldl_cons, Nat.zero_add]
    rw [ih, ih c.utf8Size, Nat.add_assoc]

/-- The bytes of a first character are counted. -/
@[simp] theorem byteSize_cons (c : Char) (chars : List Char) :
    Text.byteSize (c :: chars) = c.utf8Size + Text.byteSize chars := by
  simp only [Text.byteSize, List.foldl_cons, Nat.zero_add]
  exact byteSize_foldl chars c.utf8Size

/-- The bytes of two runs of characters add up. -/
@[simp] theorem byteSize_append (chars others : List Char) :
    Text.byteSize (chars ++ others) = Text.byteSize chars + Text.byteSize others := by
  induction chars with
  | nil => simp [Text.byteSize]
  | cons c chars ih => rw [List.cons_append, byteSize_cons, byteSize_cons, ih, Nat.add_assoc]

namespace Place.Takes

/-- No characters lead from a place to itself. -/
theorem refl (place : Place) : place.Takes [] place := ⟨rfl, rfl⟩

/-- Runs of characters follow each other. -/
theorem trans {start middle stop : Place} {text others : List Char}
    (left : start.Takes text middle) (right : middle.Takes others stop) :
    start.Takes (text ++ others) stop :=
  ⟨by rw [left.rest, right.rest, List.append_assoc],
    by rw [right.offset, left.offset, byteSize_append, Nat.add_assoc]⟩

/-- One character leads to the next place. -/
theorem next {place stop : Place} {c : Char} (found : place.next = some (c, stop)) :
    place.Takes [c] stop := by
  obtain ⟨rest, offset⟩ := place
  cases rest with
  | nil => cases found
  | cons d rest =>
    simp only [Place.next, Option.some.injEq, Prod.mk.injEq] at found
    obtain ⟨rfl, rfl⟩ := found
    exact ⟨rfl, by simp [Text.byteSize]⟩

/-- A literal takes its characters. -/
theorem after {characters : List Char} {place stop : Place}
    (after : place.after? characters = some stop) : place.Takes characters stop := by
  induction characters generalizing place with
  | nil =>
    cases after
    exact .refl _
  | cons c characters ih =>
    simp only [Place.after?] at after
    cases next : place.next with
    | none => simp [next] at after
    | some found =>
      obtain ⟨d, middle⟩ := found
      simp only [next] at after
      by_cases same : c = d
      · rw [if_pos same] at after
        subst same
        exact (Place.Takes.next next).trans (ih after)
      · rw [if_neg same] at after
        cases after

end Place.Takes

/-- Passing over blanks takes characters. -/
def Grammar.SkipsForward (g : Grammar ρ) : Prop :=
  ∀ place : Place, ∃ blanks, place.Takes blanks (g.skipBlanks place)

section

variable {g : Grammar ρ}

/-- The padding between parts takes characters. -/
theorem Grammar.SkipsForward.padded (forward : g.SkipsForward) (around : Surroundings)
    (place : Place) : ∃ blanks, place.Takes blanks (g.padded around place) := by
  rw [Grammar.padded]
  split
  · exact forward place
  · exact ⟨[], .refl place⟩

/-- A match takes a run of characters off the front of the text. -/
theorem Derives.takes (forward : g.SkipsForward) {around : Surroundings} {phrase : Phrase ρ}
    {place stop : Place} {trees : List (Tree ρ)}
    (derived : Derives g around phrase place (some (stop, trees))) :
    ∃ text, place.Takes text stop := by
  generalize result : some (stop, trees) = found at derived
  induction derived generalizing stop trees with
  | literal next =>
    cases result
    exact ⟨_, .after next⟩
  | oneOf next held =>
    cases result
    exact ⟨_, .next next⟩
  | atStart | atEnd | manyNone | maybeNone | againNone | ahead | notAhead =>
    cases result
    exact ⟨[], .refl _⟩
  | callHidden hidden body ih => exact ih result
  | callShown shown body ih =>
    cases result
    exact ih rfl
  | @seq around first second place middle _ _ _ left right leftIH rightIH =>
    cases result
    obtain ⟨text, takes⟩ := leftIH rfl
    obtain ⟨blanks, skips⟩ := forward.padded around middle
    obtain ⟨others, rest⟩ := rightIH rfl
    exact ⟨_, (takes.trans skips).trans rest⟩
  | choiceFirst left ih => exact ih result
  | choiceSecond left right _ ih => exact ih result
  | manySome one more oneIH moreIH =>
    cases result
    obtain ⟨text, takes⟩ := oneIH rfl
    obtain ⟨others, rest⟩ := moreIH rfl
    exact ⟨_, takes.trans rest⟩
  | @againSome around body place _ _ _ _ one more oneIH moreIH =>
    cases result
    obtain ⟨blanks, skips⟩ := forward.padded around place
    obtain ⟨text, takes⟩ := oneIH rfl
    obtain ⟨others, rest⟩ := moreIH rfl
    exact ⟨_, (skips.trans takes).trans rest⟩
  | maybeSome one ih => exact ih result
  | _ => cases result

end

/-- How the rules of a grammar are ranked. -/
structure Ranking (ρ : Type) where
  /-- The rank of a rule. -/
  rank : ρ → Nat
  /-- Whether a rule may match without taking characters. -/
  mayBeEmpty : ρ → Bool
  /-- More than the height of every expression. -/
  limit : Nat

namespace Expression

/-- Whether an expression may match without taking characters. -/
def isNullable (r : Ranking ρ) : Expression ρ → Bool
  | .literal characters => characters.isEmpty
  | .oneOf _ => false
  | .call rule => r.mayBeEmpty rule
  | .seq first second => first.isNullable r && second.isNullable r
  | .choice first second => first.isNullable r || second.isNullable r
  | .atStart | .atEnd | .many _ | .maybe _ | .ahead _ | .notAhead _ => true

/-- How deep the search for an expression goes before it takes a character. -/
def height (r : Ranking ρ) : Expression ρ → Nat
  | .literal _ | .oneOf _ | .atStart | .atEnd => 1
  | .call rule => r.rank rule + 1
  | .seq first second =>
    max (first.height r) (if first.isNullable r then second.height r else 0) + 1
  | .choice first second => max (first.height r) (second.height r) + 1
  | .many body | .maybe body | .ahead body | .notAhead body => body.height r + 1

/-- Whether all parts of an expression stay below the limit and repetitions take characters. -/
def isRanked (r : Ranking ρ) : Expression ρ → Bool
  | .literal _ | .oneOf _ | .atStart | .atEnd | .call _ => true
  | .seq first second | .choice first second =>
    first.isRanked r && second.isRanked r && decide (second.height r < r.limit)
  | .many body => body.isRanked r && !body.isNullable r && decide (body.height r < r.limit)
  | .maybe body | .ahead body | .notAhead body => body.isRanked r

-- An expression that takes a character may be repeated.
example : (many anyChar).isRanked ⟨fun _ : Empty => 0, fun _ => false, 4⟩ = true := by
  cbv

/-- The search for an expression takes at least one step. -/
theorem height_pos (r : Ranking ρ) (e : Expression ρ) : 0 < e.height r := by
  cases e <;> exact Nat.succ_pos _

end Expression

/-- A ranking fits a grammar. -/
structure Ranking.Fits (r : Ranking ρ) (g : Grammar ρ) : Prop where
  /-- Blanks are passed over forward. -/
  forward : g.SkipsForward
  /-- Rules start with rules of lower rank. -/
  rank : ∀ rule, (g.body rule).height r ≤ r.rank rule
  /-- Rules that may be empty are known. -/
  mayBeEmpty : ∀ rule, (g.body rule).isNullable r = true → r.mayBeEmpty rule = true
  /-- Rules repeat only what takes characters. -/
  ranked : ∀ rule, (g.body rule).isRanked r = true

section

variable {g : Grammar ρ} {r : Ranking ρ} {observer : Observer ρ σ}

/-- Fewer characters are left after a run of them. -/
theorem Place.Takes.length {start stop : Place} {text : List Char}
    (takes : start.Takes text stop) :
    start.rest.length = text.length + stop.rest.length := by
  rw [takes.rest, List.length_append]

/-- A match leaves no more characters than there were. -/
theorem Derives.length_le (fits : r.Fits g) {around : Surroundings} {phrase : Phrase ρ}
    {place stop : Place} {trees : List (Tree ρ)}
    (derived : Derives g around phrase place (some (stop, trees))) :
    stop.rest.length ≤ place.rest.length := by
  obtain ⟨text, takes⟩ := derived.takes fits.forward
  rw [takes.length]
  exact Nat.le_add_left _ _

/-- Padding leaves no more characters than there were. -/
theorem Ranking.Fits.padded_length_le (fits : r.Fits g) (around : Surroundings) (place : Place) :
    (g.padded around place).rest.length ≤ place.rest.length := by
  obtain ⟨blanks, skips⟩ := fits.forward.padded around place
  rw [skips.length]
  exact Nat.le_add_left _ _

/-- What matches without taking characters may be empty. -/
theorem Derives.isNullable (fits : r.Fits g) {around : Surroundings} {e : Expression ρ}
    {place stop : Place} {trees : List (Tree ρ)}
    (derived : Derives g around (.once e) place (some (stop, trees)))
    (stays : place.rest.length ≤ stop.rest.length) : e.isNullable r = true := by
  generalize result : some (stop, trees) = found at derived
  generalize what : Phrase.once e = phrase at derived
  induction derived generalizing e stop trees with
  | @literal _ characters _ _ next =>
    cases result
    cases what
    have taken := (Place.Takes.after next).length
    have empty : characters.length = 0 := by omega
    exact List.isEmpty_iff.mpr (List.length_eq_zero_iff.mp empty)
  | oneOf next held =>
    cases result
    have taken := (Place.Takes.next next).length
    simp only [List.length_singleton] at taken
    omega
  | callHidden hidden body ih =>
    cases what
    exact fits.mayBeEmpty _ (ih stays result rfl)
  | callShown shown body ih =>
    cases what
    cases result
    exact fits.mayBeEmpty _ (ih stays rfl rfl)
  | @seq around first second place middle _ _ _ left right leftIH rightIH =>
    cases what
    cases result
    have first := left.length_le fits
    have blanks := fits.padded_length_le around middle
    have second := right.length_le fits
    simp only [Expression.isNullable, Bool.and_eq_true]
    exact ⟨leftIH (by omega) rfl rfl, rightIH (by omega) rfl rfl⟩
  | choiceFirst left ih =>
    cases what
    simp only [Expression.isNullable, Bool.or_eq_true]
    exact .inl (ih stays result rfl)
  | choiceSecond left right _ ih =>
    cases what
    simp only [Expression.isNullable, Bool.or_eq_true]
    exact .inr (ih stays result rfl)
  | againNone | againSome => cases what
  | literalFails | oneOfFails | atStartFails | atEndFails | callFails | seqFails | seqFailsLate
    | aheadFails | notAheadFails => cases result
  | _ =>
    cases what
    rfl

/-- What takes characters leaves fewer of them. -/
theorem Derives.length_lt (fits : r.Fits g) {around : Surroundings} {e : Expression ρ}
    {place stop : Place} {trees : List (Tree ρ)} (takes : e.isNullable r = false)
    (derived : Derives g around (.once e) place (some (stop, trees))) :
    stop.rest.length < place.rest.length := by
  by_cases stays : place.rest.length ≤ stop.rest.length
  · rw [derived.isNullable fits stays] at takes
    cases takes
  · exact Nat.lt_of_not_le stays

/-- The fuel that is enough for an expression where so many characters are left. -/
def Ranking.fuel (r : Ranking ρ) (e : Expression ρ) (left : Nat) : Nat :=
  r.limit * left + e.height r

/-- The fuel that is enough for a part of an expression from a later place on. -/
theorem Ranking.fuel_later (r : Ranking ρ) (part : Expression ρ) (left later fuel : Nat)
    (part_lt : part.height r < r.limit) (later_lt : later < left)
    (enough : r.limit * left < fuel) : r.fuel part later + 1 < fuel := by
  have scaled : r.limit * (later + 1) ≤ r.limit * left := Nat.mul_le_mul_left _ later_lt
  rw [Nat.mul_add, Nat.mul_one] at scaled
  rw [Ranking.fuel]
  omega

/-- The fuel that is enough for a part of an expression from the same place or a later one on. -/
theorem Ranking.fuel_mono (r : Ranking ρ) (part : Expression ρ) (left later fuel height : Nat)
    (part_lt : part.height r < height) (later_le : later ≤ left)
    (enough : r.limit * left + height ≤ fuel + 1) : r.fuel part later ≤ fuel := by
  have scaled : r.limit * later ≤ r.limit * left := Nat.mul_le_mul_left _ later_le
  rw [Ranking.fuel]
  omega

/-- With so much fuel, a recognizer does not run out of it. -/
structure Enough (g : Grammar ρ) (r : Ranking ρ) (observer : Observer ρ σ) (fuel : Nat) :
    Prop where
  /-- For an expression. -/
  once : ∀ around e place nodes state, e.isRanked r = true →
    r.fuel e place.rest.length ≤ fuel →
    g.recognize observer fuel around e place nodes state ≠ .exhausted
  /-- For further repetitions. -/
  again : ∀ around body place nodes state, body.isRanked r = true → body.isNullable r = false →
    body.height r < r.limit → r.fuel body place.rest.length + 1 ≤ fuel →
    g.recognizeMore observer fuel around body place nodes state ≠ .exhausted

/-- What the recognizer matched is derived. -/
theorem derives_of_matched {fuel : Nat} {around : Surroundings} {e : Expression ρ}
    {place stop : Place} {nodes after : List (Tree ρ)} {state later : σ}
    (outcome : g.recognize observer fuel around e place nodes state = .matched stop after later) :
    ∃ trees, Derives g around (.once e) place (some (stop, trees)) := by
  have told := (truthful g observer fuel).once around e place nodes state
  rw [outcome] at told
  obtain ⟨trees, _, derived⟩ := told
  exact ⟨trees, derived⟩

/-- A repetition that matched leaves fewer characters than there were. -/
theorem length_lt_of_matched (fits : r.Fits g) {fuel : Nat} {around : Surroundings}
    {e : Expression ρ} {place stop : Place} {nodes after : List (Tree ρ)} {state later : σ}
    (takes : e.isNullable r = false)
    (outcome : g.recognize observer fuel around e place nodes state = .matched stop after later) :
    stop.rest.length < place.rest.length := by
  obtain ⟨trees, derived⟩ := derives_of_matched outcome
  exact derived.length_lt fits takes

/-- One more unit of fuel is enough for one more repetition. -/
theorem Enough.more (fits : r.Fits g) {fuel : Nat} (ih : Enough g r observer fuel)
    (around : Surroundings) (body : Expression ρ) (place : Place) (nodes : List (Tree ρ))
    (state : σ) (ranked : body.isRanked r = true) (takes : body.isNullable r = false)
    (low : body.height r < r.limit) (enough : r.fuel body place.rest.length + 1 ≤ fuel + 1) :
    g.recognizeMore observer (fuel + 1) around body place nodes state ≠ .exhausted := by
  have blanks := fits.padded_length_le around place
  have first : r.fuel body (g.padded around place).rest.length ≤ fuel :=
    Nat.le_trans (Nat.add_le_add_right (Nat.mul_le_mul_left _ blanks) _)
      (Nat.le_of_succ_le_succ enough)
  have found := ih.once around body (g.padded around place) nodes state ranked first
  rw [recognizeMore]
  cases outcome : g.recognize observer fuel around body (g.padded around place) nodes state with
  | exhausted => exact absurd outcome found
  | failed after => simp
  | matched middle after state =>
    have shorter := length_lt_of_matched fits takes outcome
    have positive := body.height_pos r
    have later : r.fuel body middle.rest.length + 1 < fuel := by
      refine r.fuel_later body place.rest.length _ _ low (by omega) ?_
      rw [Ranking.fuel] at enough
      omega
    exact ih.again around body middle after state ranked takes low (Nat.le_of_lt later)

/-- One more unit of fuel is enough for a sequence. -/
theorem Enough.seq (fits : r.Fits g) {fuel : Nat} (ih : Enough g r observer fuel)
    (around : Surroundings) (first second : Expression ρ) (place : Place)
    (nodes : List (Tree ρ)) (state : σ) (ranked : (Expression.seq first second).isRanked r = true)
    (enough : r.fuel (.seq first second) place.rest.length ≤ fuel + 1) :
    g.recognize observer (fuel + 1) around (.seq first second) place nodes state ≠ .exhausted := by
  simp only [Expression.isRanked, Bool.and_eq_true, decide_eq_true_eq] at ranked
  obtain ⟨⟨firstRanked, secondRanked⟩, low⟩ := ranked
  simp only [Ranking.fuel, Expression.height] at enough
  have found := ih.once around first place nodes state firstRanked
    (r.fuel_mono first _ _ _ _ (Nat.lt_succ_of_le (Nat.le_max_left _ _)) (Nat.le_refl _) enough)
  rw [recognize]
  cases outcome : g.recognize observer fuel around first place nodes state with
  | exhausted => exact absurd outcome found
  | failed after => simp
  | matched middle after state =>
    refine ih.once around second (g.padded around middle) after state secondRanked ?_
    have blanks := fits.padded_length_le around middle
    cases empty : first.isNullable r with
    | true =>
      obtain ⟨trees, derived⟩ := derives_of_matched outcome
      have forward := derived.length_le fits
      rw [empty, if_pos rfl] at enough
      exact r.fuel_mono second _ _ _ _ (Nat.lt_succ_of_le (Nat.le_max_right _ _))
        (Nat.le_trans blanks forward) enough
    | false =>
      have shorter := length_lt_of_matched fits empty outcome
      have later := r.fuel_later second place.rest.length (g.padded around middle).rest.length
        (fuel + 1) low (by omega) (by omega)
      omega

/-- One more unit of fuel is enough for a first repetition. -/
theorem Enough.many (fits : r.Fits g) {fuel : Nat} (ih : Enough g r observer fuel)
    (around : Surroundings) (body : Expression ρ) (place : Place) (nodes : List (Tree ρ))
    (state : σ) (ranked : (Expression.many body).isRanked r = true)
    (enough : r.fuel (.many body) place.rest.length ≤ fuel + 1) :
    g.recognize observer (fuel + 1) around (.many body) place nodes state ≠ .exhausted := by
  simp only [Expression.isRanked, Bool.and_eq_true, decide_eq_true_eq, Bool.not_eq_true']
    at ranked
  obtain ⟨⟨bodyRanked, takes⟩, low⟩ := ranked
  simp only [Ranking.fuel, Expression.height] at enough
  have found := ih.once around body place nodes state bodyRanked
    (r.fuel_mono body _ _ _ _ (Nat.lt_succ_self _) (Nat.le_refl _) enough)
  rw [recognize]
  cases outcome : g.recognize observer fuel around body place nodes state with
  | exhausted => exact absurd outcome found
  | failed after => simp
  | matched middle after state =>
    have shorter := length_lt_of_matched fits takes outcome
    have later := r.fuel_later body place.rest.length middle.rest.length (fuel + 1) low shorter
      (by omega)
    exact ih.again around body middle after state bodyRanked takes low (by omega)

/-- One more unit of fuel is enough for a choice. -/
theorem Enough.choice {fuel : Nat} (ih : Enough g r observer fuel) (around : Surroundings)
    (first second : Expression ρ) (place : Place) (nodes : List (Tree ρ)) (state : σ)
    (ranked : (Expression.choice first second).isRanked r = true)
    (enough : r.fuel (.choice first second) place.rest.length ≤ fuel + 1) :
    g.recognize observer (fuel + 1) around (.choice first second) place nodes state ≠
      .exhausted := by
  simp only [Expression.isRanked, Bool.and_eq_true, decide_eq_true_eq] at ranked
  obtain ⟨⟨firstRanked, secondRanked⟩, _⟩ := ranked
  simp only [Ranking.fuel, Expression.height] at enough
  have found := ih.once around first place nodes state firstRanked
    (r.fuel_mono first _ _ _ _ (Nat.lt_succ_of_le (Nat.le_max_left _ _)) (Nat.le_refl _) enough)
  rw [recognize]
  cases outcome : g.recognize observer fuel around first place nodes state with
  | exhausted => exact absurd outcome found
  | matched middle after state => simp
  | failed after =>
    exact ih.once around second place nodes after secondRanked
      (r.fuel_mono second _ _ _ _ (Nat.lt_succ_of_le (Nat.le_max_right _ _)) (Nat.le_refl _)
        enough)

/-- One more unit of fuel is enough for a rule. -/
theorem Enough.call (fits : r.Fits g) {fuel : Nat} (ih : Enough g r observer fuel)
    (around : Surroundings) (rule : ρ) (place : Place) (nodes : List (Tree ρ)) (state : σ)
    (enough : r.fuel (.call rule) place.rest.length ≤ fuel + 1) :
    g.recognize observer (fuel + 1) around (.call rule) place nodes state ≠ .exhausted := by
  simp only [Ranking.fuel, Expression.height] at enough
  have below := r.fuel_mono (g.body rule) _ _ _ _ (Nat.lt_succ_of_le (fits.rank rule))
    (Nat.le_refl _) enough
  rw [recognize]
  by_cases hidden : g.kind rule = .hidden
  · rw [if_pos hidden]
    exact ih.once around (g.body rule) place nodes state (fits.ranked rule) below
  · rw [if_neg hidden]
    have found := ih.once (inside (g.kind rule) around) (g.body rule) place [] state
      (fits.ranked rule) below
    cases outcome : g.recognize observer fuel (inside (g.kind rule) around) (g.body rule) place []
        state with
    | exhausted => exact absurd outcome found
    | failed after => simp [conclude]
    | matched stop children after =>
      simp only [conclude]
      split <;> simp

/-- A ranked grammar is matched without running out of the fuel that its ranks ask for. -/
theorem Ranking.Fits.enough (fits : r.Fits g) (observer : Observer ρ σ) (fuel : Nat) :
    Enough g r observer fuel := by
  induction fuel with
  | zero =>
    constructor
    · intro around e place nodes state _ enough
      have positive := e.height_pos r
      rw [Ranking.fuel] at enough
      omega
    · intro around body place nodes state _ _ _ enough
      cases enough
  | succ fuel ih =>
    refine ⟨?_, fun around body place nodes state => ih.more fits around body place nodes state⟩
    intro around e place nodes state ranked enough
    cases e with
    | call rule => exact ih.call fits around rule place nodes state enough
    | seq first second => exact ih.seq fits around first second place nodes state ranked enough
    | choice first second => exact ih.choice around first second place nodes state ranked enough
    | many body => exact ih.many fits around body place nodes state ranked enough
    | maybe body =>
      have found := ih.once around body place nodes state ranked
        (r.fuel_mono body _ _ _ _ (Nat.lt_succ_self _) (Nat.le_refl _) enough)
      rw [recognize]
      cases outcome : g.recognize observer fuel around body place nodes state with
      | exhausted => exact absurd outcome found
      | _ => simp
    | ahead body =>
      have found := ih.once around.testing body place nodes state ranked
        (r.fuel_mono body _ _ _ _ (Nat.lt_succ_self _) (Nat.le_refl _) enough)
      rw [recognize]
      cases outcome : g.recognize observer fuel around.testing body place nodes state with
      | exhausted => exact absurd outcome found
      | _ => simp
    | notAhead body =>
      have found := ih.once around.refuting body place nodes state ranked
        (r.fuel_mono body _ _ _ _ (Nat.lt_succ_self _) (Nat.le_refl _) enough)
      rw [recognize]
      cases outcome : g.recognize observer fuel around.refuting body place nodes state with
      | exhausted => exact absurd outcome found
      | _ => simp
    | literal characters =>
      rw [recognize]
      cases place.after? characters <;> simp
    | oneOf holds =>
      rw [recognize]
      cases place.next with
      | none => simp
      | some found =>
        dsimp only
        split <;> simp
    | atStart =>
      rw [recognize]
      split <;> simp
    | atEnd =>
      rw [recognize]
      split <;> simp

/-- Every expression has a result at every place. -/
theorem Ranking.Fits.total (fits : r.Fits g) (around : Surroundings) (e : Expression ρ)
    (place : Place) (ranked : e.isRanked r = true) :
    ∃ result, Derives g around (.once e) place result := by
  let observer : Observer ρ Unit := fun _ _ state => state
  have fuel := (fits.enough observer (r.fuel e place.rest.length)).once around e place [] ()
    ranked (Nat.le_refl _)
  have told := (truthful g observer (r.fuel e place.rest.length)).once around e place [] ()
  cases outcome : g.recognize observer (r.fuel e place.rest.length) around e place [] () with
  | exhausted => exact absurd outcome fuel
  | failed after =>
    rw [outcome] at told
    exact ⟨none, told⟩
  | matched stop after state =>
    rw [outcome] at told
    obtain ⟨trees, _, derived⟩ := told
    exact ⟨some (stop, trees), derived⟩

/-- The recognizer finds what is derived, with the fuel that ranks ask for. -/
theorem Ranking.Fits.recognize_eq (fits : r.Fits g) {fuel : Nat} {around : Surroundings}
    {e : Expression ρ} {place : Place} {result : Match ρ} (nodes : List (Tree ρ)) (state : σ)
    (ranked : e.isRanked r = true) (enough : r.fuel e place.rest.length ≤ fuel)
    (derived : Derives g around (.once e) place result) :
    ∃ later, g.recognize observer fuel around e place nodes state =
      match result with
      | some (stop, trees) => .matched stop (trees.reverse ++ nodes) later
      | none => .failed later := by
  have found := (fits.enough observer fuel).once around e place nodes state ranked enough
  have told := (truthful g observer fuel).once around e place nodes state
  cases outcome : g.recognize observer fuel around e place nodes state with
  | exhausted => exact absurd outcome found
  | failed after =>
    rw [outcome] at told
    cases derived.unique told
    exact ⟨after, rfl⟩
  | matched stop after state =>
    rw [outcome] at told
    obtain ⟨trees, rfl, other⟩ := told
    cases derived.unique other
    exact ⟨state, rfl⟩

end

end PluginSandbox.Peg
