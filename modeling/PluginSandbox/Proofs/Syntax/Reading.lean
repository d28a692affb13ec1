import Mathlib.Data.List.Forall2
import PluginSandbox.Proofs.Syntax.Ranks
import PluginSandbox.Syntax.Parsing

/-!
# Reading a text

What a phrase of the grammar does at the front of a text, wherever the text stands: it reads some
characters, and the nodes it makes denote what is asked for, or it rejects the text. Facts about
parts are put together by one lemma for each kind of parsing expression.
-/
namespace PluginSandbox.Syntax

open Peg (Place Surroundings Derives Match Phrase Tree Node)
open Peg.Grammar (inside shownIn)
open Peg.Expression (firstOf)

/-- What is asked of a node and of what it denotes. -/
abbrev Asked := Child → Prop

/-- Nodes in order are as they are asked to be. -/
abbrev Meets (children : List Child) (asked : List Asked) : Prop :=
  List.Forall₂ (fun child ask => ask child) children asked

/-- A phrase reads the front of a text and leaves the rest, and its nodes are as asked. -/
def Reads (around : Surroundings) (phrase : Phrase Rule) (text rest : List Char)
    (asked : List Asked) : Prop :=
  ∀ place : Place, place.rest = text →
    ∃ stop trees, Derives grammar around phrase place (some (stop, trees)) ∧ stop.rest = rest ∧
      Meets (Tree.foldAll assemble trees) asked

/-- A phrase does not match at the front of a text. -/
def Rejects (around : Surroundings) (phrase : Phrase Rule) (text : List Char) : Prop :=
  ∀ place : Place, place.rest = text → Derives grammar around phrase place none

/-- The text after the blanks that it starts with. -/
def afterBlanks (text : List Char) : List Char := (grammar.skipBlanks ⟨text, 0⟩).rest

/-- The text from which the next part of a sequence is read. -/
def padded (around : Surroundings) (text : List Char) : List Char :=
  if around.mode = .spaced then afterBlanks text else text

/-- A part is read over and over, with the padding before each time passed over. -/
inductive Repeats (around : Surroundings) (e : Peg.Expression Rule) :
    List Char → List Char → List Asked → Prop where
  /-- It is not read again. -/
  | done (text : List Char) : Repeats around e text text []
  /-- It is read once more. -/
  | more {text middle rest : List Char} {asked others : List Asked}
      (one : Reads around (.once e) (padded around text) middle asked)
      (again : Repeats around e middle rest others) : Repeats around e text rest (asked ++ others)

/-- The end of a comment does not depend on where the text stands. -/
theorem blockCommentEnd_rest (text : List Char) (offset other : Nat) :
    (blockCommentEnd text offset).map Place.rest = (blockCommentEnd text other).map Place.rest := by
  induction text, offset using blockCommentEnd.induct generalizing other with
  | case1 offset => rfl
  | case2 text offset => rfl
  | case3 c text offset distinct ih =>
    rw [blockCommentEnd, blockCommentEnd]
    · exact ih (other + c.utf8Size)
    · exact distinct
    · exact distinct

/-- The end of a line does not depend on where the text stands. -/
theorem lineCommentEnd_rest (text : List Char) (offset other : Nat) :
    (lineCommentEnd text offset).rest = (lineCommentEnd text other).rest := by
  induction text generalizing offset other with
  | nil => rfl
  | cons c text ih =>
    rw [lineCommentEnd, lineCommentEnd]
    split
    · rfl
    · exact ih _ _

/-- What is left after blanks does not depend on where the text stands. -/
theorem skipSpace_rest (fuel : Nat) (place other : Place) (same : place.rest = other.rest) :
    (skipSpace fuel place).rest = (skipSpace fuel other).rest := by
  induction fuel generalizing place other with
  | zero => exact same
  | succ fuel ih =>
    obtain ⟨text, offset⟩ := place
    obtain ⟨_, later⟩ := other
    cases same
    unfold skipSpace
    split
    case h_1 comment =>
      have ends := blockCommentEnd_rest comment (offset + 2) (later + 2)
      cases first : blockCommentEnd comment (offset + 2) with
      | none =>
        rw [first, Option.map_none] at ends
        rw [Option.map_eq_none_iff.mp ends.symm]
      | some stop =>
        rw [first, Option.map_some] at ends
        obtain ⟨found, second, rest⟩ := Option.map_eq_some_iff.mp ends.symm
        rw [second]
        exact ih stop found rest.symm
    case h_2 comment => exact ih _ _ (lineCommentEnd_rest comment _ _)
    case h_3 c text _ _ =>
      split
      · exact ih _ _ rfl
      · rfl
    case h_4 => rfl

/-- The blanks at a place are those of its text. -/
theorem skipBlanks_rest (place : Place) :
    (grammar.skipBlanks place).rest = afterBlanks place.rest :=
  skipSpace_rest _ place ⟨place.rest, 0⟩ rfl

/-- The padding at a place is that of its text. -/
theorem padded_rest (around : Surroundings) (place : Place) :
    (grammar.padded around place).rest = padded around place.rest := by
  rw [Peg.Grammar.padded, padded]
  split
  · exact skipBlanks_rest place
  · rfl

/-- Whether a text starts with a blank or with a comment. -/
def startsBlank : List Char → Bool
  | '/' :: '*' :: _ => true
  | '/' :: '/' :: _ => true
  | c :: _ => isSpace c
  | [] => false

/-- A blank starts at a character that is no slash if it is one. -/
theorem startsBlank_of_ne {c : Char} (rest : List Char) (slash : c ≠ '/') :
    startsBlank (c :: rest) = isSpace c := by
  rw [startsBlank]
  · exact fun _ same => absurd same slash
  · exact fun _ same => absurd same slash

/-- Two characters tell whether a blank starts. -/
theorem startsBlank_append {known : List Char} (filled : known ≠ []) (lone : known ≠ ['/'])
    (rest : List Char) : startsBlank (known ++ rest) = startsBlank known := by
  cases known with
  | nil => exact absurd rfl filled
  | cons c known =>
    by_cases slash : c = '/'
    · subst slash
      cases known with
      | nil => exact absurd rfl lone
      | cons d known =>
        by_cases star : d = '*'
        · subst star
          rfl
        · by_cases double : d = '/'
          · subst double
            rfl
          · have none (others : List Char) : startsBlank ('/' :: d :: others) = false := by
              rw [startsBlank]
              · rfl
              · exact fun _ _ same => absurd (List.cons.inj same).1 star
              · exact fun _ _ same => absurd (List.cons.inj same).1 double
            exact (none _).trans (none _).symm
    · exact (startsBlank_of_ne _ slash).trans (startsBlank_of_ne _ slash).symm

/-- Nothing is passed over where no blank starts. -/
theorem skipBlanks_settled (place : Place) (settled : startsBlank place.rest = false) :
    grammar.skipBlanks place = place := by
  obtain ⟨text, offset⟩ := place
  change skipSpace (text.length + 1) ⟨text, offset⟩ = ⟨text, offset⟩
  unfold skipSpace
  split
  · cases settled
  · cases settled
  · rename_i c rest block line
    rw [startsBlank] at settled
    · rw [if_neg (by rw [settled]; exact Bool.false_ne_true)]
    · exact block
    · exact line
  · rfl

/-- Nothing is passed over where no blank starts. -/
theorem afterBlanks_settled {text : List Char} (settled : startsBlank text = false) :
    afterBlanks text = text := by
  rw [afterBlanks, skipBlanks_settled _ settled]

/-- A blank is passed over. -/
theorem afterBlanks_blank {c : Char} (text : List Char) (blank : isSpace c = true) :
    afterBlanks (c :: text) = afterBlanks text := by
  rw [← skipBlanks_rest ⟨text, 0 + c.utf8Size⟩]
  change (skipSpace (text.length + 1 + 1) ⟨c :: text, 0⟩).rest = _
  unfold skipSpace
  split
  · rename_i same
    cases same
    exact absurd blank (by decide)
  · rename_i same
    cases same
    exact absurd blank (by decide)
  · rename_i d rest _ _ same
    cases same
    rw [if_pos blank]
    rfl
  · rename_i same
    cases same

/-- No blanks are left after blanks that end. -/
theorem afterBlanks_spaced {text : List Char} (settled : startsBlank text = false) :
    afterBlanks (' ' :: text) = text := by
  rw [afterBlanks_blank text rfl, afterBlanks_settled settled]

section

variable {around : Surroundings} {text middle rest : List Char} {asked others : List Asked}
  {e first second : Peg.Expression Rule}

/-- No nodes are as asked where none is asked for. -/
theorem meets_nil : Meets (Tree.foldAll assemble []) [] := .nil

/-- Nodes of two parts are as asked of the two parts. -/
theorem Meets.append {trees more : List (Peg.Tree Rule)}
    (left : Meets (Tree.foldAll assemble trees) asked)
    (right : Meets (Tree.foldAll assemble more) others) :
    Meets (Tree.foldAll assemble (trees ++ more)) (asked ++ others) := by
  have split : Tree.foldAll assemble (trees ++ more) =
      Tree.foldAll assemble trees ++ Tree.foldAll assemble more := by
    clear left right
    induction trees with
    | nil => rfl
    | cons tree trees ih => rw [List.cons_append, Tree.foldAll, ih, Tree.foldAll, List.cons_append]
  rw [split]
  exact List.rel_append left right

/-- What is asked of one node may be weakened. -/
theorem Meets.weaken {children : List Child} {ask other : Asked} (meets : Meets children [ask])
    (weaker : ∀ child, ask child → other child) : Meets children [other] := by
  cases meets with
  | cons first none =>
    cases none
    exact .cons (weaker _ first) .nil

/-- What is asked of the one node of a phrase may be weakened. -/
theorem Reads.imp {phrase : Phrase Rule} {ask other : Asked}
    (reads : Reads around phrase text rest [ask]) (weaker : ∀ child, ask child → other child) :
    Reads around phrase text rest [other] := by
  intro place here
  obtain ⟨stop, trees, derived, leaves, meets⟩ := reads place here
  exact ⟨stop, trees, derived, leaves, meets.weaken weaker⟩

/-- What is read is read in one way. -/
theorem Reads.stop_eq {phrase : Phrase Rule} (reads : Reads around phrase text rest asked)
    {place stop : Place} {trees : List (Peg.Tree Rule)} (here : place.rest = text)
    (derived : Derives grammar around phrase place (some (stop, trees))) :
    stop.rest = rest ∧ Meets (Tree.foldAll assemble trees) asked := by
  obtain ⟨other, found, again, leaves, meets⟩ := reads place here
  cases derived.unique again
  exact ⟨leaves, meets⟩

/-- A text that is rejected is not read. -/
theorem Rejects.not_derives {phrase : Phrase Rule} (rejects : Rejects around phrase text)
    {place : Place} {found : Place × List (Peg.Tree Rule)} (here : place.rest = text)
    (derived : Derives grammar around phrase place (some found)) : False := by
  cases derived.unique (rejects place here)

/-- The characters of a literal are there or not. -/
theorem after_eq (characters : List Char) (place : Place) (rest : List Char)
    (here : place.rest = characters ++ rest) :
    place.after? characters = some ⟨rest, place.offset + Text.byteSize characters⟩ := by
  obtain ⟨text, offset⟩ := place
  dsimp only at here
  induction characters generalizing text offset with
  | nil =>
    cases here
    rfl
  | cons c characters ih =>
    cases here
    simp only [Place.after?, Place.next, List.cons_append, if_true]
    rw [ih _ _ rfl, Peg.byteSize_cons, Nat.add_assoc]

/-- A literal reads its characters. -/
theorem Reads.literal (around : Surroundings) (characters rest : List Char) :
    Reads around (.once (.literal characters)) (characters ++ rest) rest [] :=
  fun place here => ⟨_, [], .literal (after_eq characters place rest here), rfl, meets_nil⟩

/-- A literal rejects a text that does not start with it. -/
theorem Rejects.literal (around : Surroundings) (characters text : List Char)
    (differs : characters.isPrefixOf text = false) :
    Rejects around (.once (.literal characters)) text := by
  intro place here
  refine .literalFails ?_
  cases after : place.after? characters with
  | none => rfl
  | some stop =>
    have starts := (Place.Takes.after after).rest
    rw [here] at starts
    have isPrefix : characters.isPrefixOf text = true :=
      List.isPrefixOf_iff_prefix.mpr ⟨stop.rest, starts.symm⟩
    rw [differs] at isPrefix
    cases isPrefix

/-- A literal rejects a text that starts with another character. -/
theorem Rejects.literal_head (around : Surroundings) {c d : Char} (characters text : List Char)
    (differs : d ≠ c) : Rejects around (.once (.literal (c :: characters))) (d :: text) := by
  refine .literal around _ _ ?_
  rw [List.isPrefixOf, beq_eq_false_iff_ne.mpr differs.symm, Bool.false_and]

/-- One character of a class is read. -/
theorem Reads.oneOf (around : Surroundings) (holds : Char → Bool) (c : Char) (rest : List Char)
    (held : holds c = true) : Reads around (.once (.oneOf holds)) (c :: rest) rest [] := by
  rintro ⟨_, offset⟩ rfl
  exact ⟨_, [], .oneOf rfl held, rfl, meets_nil⟩

/-- A class rejects a text that does not start with one of its characters. -/
theorem Rejects.oneOf (around : Surroundings) (holds : Char → Bool) (text : List Char)
    (lacks : text.head?.all fun c => !holds c) :
    Rejects around (.once (.oneOf holds)) text := by
  rintro ⟨characters, offset⟩ rfl
  refine .oneOfFails fun c stop next => ?_
  cases characters with
  | nil => cases next
  | cons d characters =>
    cases next
    simpa using lacks

/-- One part is read after the other, with the padding between them passed over. -/
theorem Reads.seq (left : Reads around (.once first) text middle asked)
    (right : Reads around (.once second) (padded around middle) rest others) :
    Reads around (.once (.seq first second)) text rest (asked ++ others) := by
  intro place here
  obtain ⟨between, trees, one, leaves, meets⟩ := left place here
  obtain ⟨stop, more, two, done, meetsToo⟩ :=
    right (grammar.padded around between) (by rw [padded_rest, leaves])
  exact ⟨stop, _, .seq one two, done, meets.append meetsToo⟩

/-- A sequence rejects what its first part rejects. -/
theorem Rejects.seq (left : Rejects around (.once first) text) (second : Peg.Expression Rule) :
    Rejects around (.once (.seq first second)) text :=
  fun place here => .seqFails (left place here)

/-- A sequence rejects a text if its second part rejects what its first part leaves. -/
theorem Rejects.seq_late (left : Reads around (.once first) text middle asked)
    (right : Rejects around (.once second) (padded around middle)) :
    Rejects around (.once (.seq first second)) text := by
  intro place here
  obtain ⟨between, trees, one, leaves, _⟩ := left place here
  exact .seqFailsLate one (right _ (by rw [padded_rest, leaves]))

/-- A choice reads what its first part reads. -/
theorem Reads.choice_first (left : Reads around (.once first) text rest asked)
    (second : Peg.Expression Rule) : Reads around (.once (.choice first second)) text rest asked := by
  intro place here
  obtain ⟨stop, trees, one, leaves, meets⟩ := left place here
  exact ⟨stop, trees, .choiceFirst one, leaves, meets⟩

/-- A choice reads what its second part reads if its first part rejects it. -/
theorem Reads.choice_second (left : Rejects around (.once first) text)
    (right : Reads around (.once second) text rest asked) :
    Reads around (.once (.choice first second)) text rest asked := by
  intro place here
  obtain ⟨stop, trees, one, leaves, meets⟩ := right place here
  exact ⟨stop, trees, .choiceSecond (left place here) one, leaves, meets⟩

/-- A choice rejects what both of its parts reject. -/
theorem Rejects.choice (left : Rejects around (.once first) text)
    (right : Rejects around (.once second) text) :
    Rejects around (.once (.choice first second)) text :=
  fun place here => .choiceSecond (left place here) (right place here)

/-- A choice between several expressions is one between the first and the others. -/
theorem firstOf_cons (e : Peg.Expression Rule) {others : List (Peg.Expression Rule)}
    (some : others ≠ []) : firstOf (e :: others) = .choice e (firstOf others) := by
  cases others with
  | nil => exact absurd rfl some
  | cons other others => rfl

/-- Of several expressions, one reads the text if those before it reject it. -/
theorem Reads.firstOf_split {before after : List (Peg.Expression Rule)}
    (earlier : ∀ other ∈ before, Rejects around (.once other) text)
    (one : Reads around (.once e) text rest asked) :
    Reads around (.once (firstOf (before ++ e :: after))) text rest asked := by
  induction before with
  | nil =>
    cases after with
    | nil => exact one
    | cons next after => exact .choice_first one _
  | cons other before ih =>
    rw [List.cons_append, firstOf_cons _ (by simp)]
    exact .choice_second (earlier other List.mem_cons_self)
      (ih fun another member => earlier another (.tail other member))

/-- Several expressions reject a text if each of them does. -/
theorem Rejects.firstOf_all {all : List (Peg.Expression Rule)} (filled : all ≠ [])
    (none : ∀ other ∈ all, Rejects around (.once other) text) :
    Rejects around (.once (firstOf all)) text := by
  induction all with
  | nil => exact absurd rfl filled
  | cons other others ih =>
    have first := none other List.mem_cons_self
    cases others with
    | nil => exact first
    | cons another others =>
      exact .choice first (ih (List.cons_ne_nil _ _) fun one member => none one (.tail other member))

/-- Nothing is repeated where the repeated part rejects the text. -/
theorem Reads.many_none (none : Rejects around (.once e) text) :
    Reads around (.once (.many e)) text text [] :=
  fun place here => ⟨place, [], .manyNone (none place here), here, meets_nil⟩

/-- A part is read and then repeated. -/
theorem Reads.many_some (one : Reads around (.once e) text middle asked)
    (more : Reads around (.again e) middle rest others) :
    Reads around (.once (.many e)) text rest (asked ++ others) := by
  intro place here
  obtain ⟨between, trees, left, leaves, meets⟩ := one place here
  obtain ⟨stop, found, right, done, meetsToo⟩ := more between leaves
  exact ⟨stop, _, .manySome left right, done, meets.append meetsToo⟩

/-- Nothing is repeated further where the repeated part rejects the text after the padding. -/
theorem Reads.again_none (none : Rejects around (.once e) (padded around text)) :
    Reads around (.again e) text text [] :=
  fun place here =>
    ⟨place, [], .againNone (none _ (by rw [padded_rest, here])), here, meets_nil⟩

/-- A part is read after the padding and then repeated further. -/
theorem Reads.again_some (one : Reads around (.once e) (padded around text) middle asked)
    (more : Reads around (.again e) middle rest others) :
    Reads around (.again e) text rest (asked ++ others) := by
  intro place here
  obtain ⟨between, trees, left, leaves, meets⟩ := one _ (by rw [padded_rest, here])
  obtain ⟨stop, found, right, done, meetsToo⟩ := more between leaves
  exact ⟨stop, _, .againSome left right, done, meets.append meetsToo⟩

/-- Where no blanks are passed over, the first repetition is like a further one. -/
theorem Reads.many_of_again (still : ∀ place : Place, place.rest = text →
      grammar.padded around place = place)
    (again : Reads around (.again e) text rest asked) :
    Reads around (.once (.many e)) text rest asked := by
  intro place here
  obtain ⟨stop, trees, derived, leaves, meets⟩ := again place here
  refine ⟨stop, trees, ?_, leaves, meets⟩
  cases derived with
  | againNone none =>
    rw [still place here] at none
    exact .manyNone none
  | againSome one more =>
    rw [still place here] at one
    exact .manySome one more

/-- What is read over and over is read again at its end. -/
theorem Repeats.append (first : Repeats around e text middle asked)
    (second : Repeats around e middle rest others) :
    Repeats around e text rest (asked ++ others) := by
  induction first with
  | done => exact second
  | more one _ ih =>
    rw [List.append_assoc]
    exact .more one (ih second)

/-- What is read once more at the end is read over and over. -/
theorem Repeats.last (first : Repeats around e text middle asked)
    (one : Reads around (.once e) (padded around middle) rest others) :
    Repeats around e text rest (asked ++ others) := by
  have alone := Repeats.more one (.done rest)
  rw [List.append_nil] at alone
  exact first.append alone

/-- A repetition goes on as far as its part is read. -/
theorem Repeats.reads_again (repeats : Repeats around e text rest asked)
    (none : Rejects around (.once e) (padded around rest)) :
    Reads around (.again e) text rest asked := by
  induction repeats with
  | done => exact .again_none none
  | more one _ ih => exact one.again_some (ih none)

/-- A repetition after padding leaves the text after the last part, or else what comes after the
padding. -/
theorem Repeats.reads_many (repeats : Repeats around e text rest asked)
    (none : Rejects around (.once e) (padded around rest)) :
    ∃ left, (left = rest ∨ left = padded around rest) ∧
      Reads around (.once (.many e)) (padded around text) left asked := by
  cases repeats with
  | done => exact ⟨_, .inr rfl, .many_none none⟩
  | more one again => exact ⟨_, .inl rfl, one.many_some (again.reads_again none)⟩

/-- An option reads what its part reads. -/
theorem Reads.maybe_some (one : Reads around (.once e) text rest asked) :
    Reads around (.once (.maybe e)) text rest asked := by
  intro place here
  obtain ⟨stop, trees, derived, leaves, meets⟩ := one place here
  exact ⟨stop, trees, .maybeSome derived, leaves, meets⟩

/-- An option reads nothing where its part rejects the text. -/
theorem Reads.maybe_none (none : Rejects around (.once e) text) :
    Reads around (.once (.maybe e)) text text [] :=
  fun place here => ⟨place, [], .maybeNone (none place here), here, meets_nil⟩

/-- A test that is to fail passes where its part rejects the text. -/
theorem Reads.notAhead (none : Rejects around.refuting (.once e) text) :
    Reads around (.once (.notAhead e)) text text [] :=
  fun place here => ⟨place, [], .notAhead (none place here), here, meets_nil⟩

/-- A test that is to fail rejects what its part reads. -/
theorem Rejects.notAhead (one : Reads around.refuting (.once e) text rest asked) :
    Rejects around (.once (.notAhead e)) text := by
  intro place here
  obtain ⟨stop, trees, derived, _, _⟩ := one place here
  exact .notAheadFails derived

/-- The characters of so many bytes are those that have them. -/
theorem takeBytes_append (characters rest : List Char) :
    Text.takeBytes (Text.byteSize characters) (characters ++ rest) = characters := by
  induction characters with
  | nil =>
    cases rest with
    | nil => rfl
    | cons c rest =>
      have positive := c.utf8Size_pos
      rw [List.nil_append, Text.takeBytes, if_neg]
      change ¬ c.utf8Size ≤ 0
      omega
  | cons c characters ih =>
    rw [Peg.byteSize_cons, List.cons_append, Text.takeBytes, if_pos (Nat.le_add_right _ _),
      Nat.add_sub_cancel_left, ih]

/-- The characters of a node are those that its rule has taken. -/
theorem characters_of_takes {place stop : Place} {taken : List Char} (rule : Rule)
    (takes : place.Takes taken stop) :
    (⟨rule, place, stop.offset⟩ : Node Rule).characters = taken := by
  rw [Node.characters, Node.start]
  dsimp only
  rw [takes.offset, Nat.add_sub_cancel_left, takes.rest, takeBytes_append]

/-- A rule that does not show reads what its body reads. -/
theorem Reads.hidden {rule : Rule} (hidden : rule.kind = .hidden)
    (body : Reads around (.once rule.body) text rest asked) :
    Reads around (.once (.call rule)) text rest asked := by
  intro place here
  obtain ⟨stop, trees, derived, leaves, meets⟩ := body place here
  exact ⟨stop, trees, .callHidden hidden derived, leaves, meets⟩

/-- A rule rejects what its body rejects. -/
theorem Rejects.call {rule : Rule}
    (body : Rejects (inside rule.kind around) (.once rule.body) text) :
    Rejects around (.once (.call rule)) text := by
  intro place here
  by_cases hidden : rule.kind = .hidden
  · rw [hidden] at body
    exact .callHidden hidden (body place here)
  · exact .callFails hidden (body place here)

/-- A rule that shows is read as one node over the nodes of its body. -/
theorem Reads.node {rule : Rule} {ask : Asked} (shown : rule.kind ≠ .hidden)
    (makes : (shownIn rule.kind around).makesNodes = true)
    (body : Reads (inside rule.kind around) (.once rule.body) text rest asked)
    (meaning : ∀ (node : Node Rule) (children : List Child), node.rule = rule →
      node.characters ++ rest = text → Meets children asked → ask (node, assemble node children)) :
    Reads around (.once (.call rule)) text rest [ask] := by
  intro place here
  obtain ⟨stop, trees, derived, leaves, meets⟩ := body place here
  obtain ⟨taken, takes⟩ := derived.takes ranking_fits.forward
  refine ⟨stop, _, .callShown shown derived, leaves, ?_⟩
  have shows : (shownIn (grammar.kind rule) around).makesNodes = true := makes
  rw [Peg.nodesOf, if_pos shows]
  refine .cons (meaning _ _ rfl ?_ meets) .nil
  change (⟨rule, place, stop.offset⟩ : Node Rule).characters ++ rest = text
  rw [characters_of_takes rule takes, ← leaves, ← takes.rest, here]

/-- A rule makes no node inside a test or a rule that is read as a whole. -/
theorem Reads.silent {rule : Rule} (shown : rule.kind ≠ .hidden)
    (makes : (shownIn rule.kind around).makesNodes = false)
    (body : Reads (inside rule.kind around) (.once rule.body) text rest asked) :
    Reads around (.once (.call rule)) text rest [] := by
  intro place here
  obtain ⟨stop, trees, derived, leaves, _⟩ := body place here
  refine ⟨stop, _, .callShown shown derived, leaves, ?_⟩
  have hides : (shownIn (grammar.kind rule) around).makesNodes = false := makes
  rw [Peg.nodesOf, hides, if_neg Bool.false_ne_true]
  exact meets_nil

/-- At the front of a text, an expression reads something or rejects the text. -/
theorem Rejects.of_not_derives (ranked : e.isRanked ranking = true)
    (never : ∀ (place stop : Place) (trees : List (Peg.Tree Rule)), place.rest = text →
      ¬ Derives grammar around (.once e) place (some (stop, trees))) :
    Rejects around (.once e) text := by
  intro place here
  obtain ⟨result, derived⟩ := ranking_fits.total around e place ranked
  cases result with
  | none => exact derived
  | some found => exact absurd derived (never place found.1 found.2 here)

/-- Nothing that takes characters matches at the end of a text. -/
theorem Rejects.at_end (ranked : e.isRanked ranking = true)
    (filled : e.isNullable ranking = false) : Rejects around (.once e) [] := by
  refine .of_not_derives ranked fun place stop trees here derived => ?_
  have fewer := derived.length_lt ranking_fits filled
  rw [here] at fewer
  exact absurd fewer (Nat.not_lt_zero _)

/-- The fuel that parsing gives is enough for every rule. -/
theorem fuel_le_fuelFor (rule : Rule) (source : String) :
    ranking.fuel (.call rule) (Place.start source).rest.length ≤ fuelFor source := by
  have low := rule.rank_le
  have need : ranking.fuel (.call rule) (Place.start source).rest.length =
      128 * source.toList.length + (rule.rank + 1) := rfl
  have fuel : fuelFor source = 4096 * (source.toList.length + 1) := rfl
  omega

/-- A text that a rule matches is parsed, because the fuel is enough for it. -/
theorem parseTree_eq {rule : Rule} {source : String} {stop : Place} {tree : Peg.Tree Rule}
    (derived : Derives grammar Peg.Grammar.outermost (.once (.call rule)) (Place.start source)
      (some (stop, [tree]))) : parseTree rule source = .ok tree := by
  obtain ⟨later, found⟩ := @Peg.Ranking.Fits.recognize_eq Rule Unit grammar ranking
    (fun _ _ state => state) ranking_fits _ _ _ _ _ [] () rfl (fuel_le_fuelFor rule source) derived
  rw [parseTree, Peg.Grammar.recognizeRule, found]
  rfl

end

end PluginSandbox.Syntax
