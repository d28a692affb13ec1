import PluginSandbox.Proofs.Peg.Trials
import PluginSandbox.Proofs.Syntax.Reading

/-!
# Recognition ends

Every rule is recognized on every text or not recognized there, after a search that ends. The blanks
between tokens are recognized as well, by a repetition of blanks and comments.
-/
namespace PluginSandbox.Syntax

open Peg (Derives Place Surroundings Trial)
open Peg.Grammar (outermost)
open Peg.Expression (inOrder firstOf many notAhead anyChar)

/-- A character between tokens that is no comment. -/
def blank : Peg.Expression Rule := .oneOf isSpace

/-- The characters before the next mark, or all characters. -/
def charsBefore (mark : String) : Peg.Expression Rule := many (inOrder [notAhead mark, anyChar])

/-- A comment: it runs up to `*/` or to the end of its line. -/
def comment : Peg.Expression Rule :=
  firstOf [inOrder ["/*", charsBefore "*/", "*/"], inOrder ["//", charsBefore "\n"]]

/-- What stands between tokens. -/
def blanks : Peg.Expression Rule := inOrder [many blank, many (inOrder [comment, many blank])]

/-- The place of the next mark, or the end of the text. -/
def nextMark (mark : List Char) : List Char → Nat → Place
  | [], offset => ⟨[], offset⟩
  | c :: rest, offset =>
    match Place.after? mark ⟨c :: rest, offset⟩ with
    | some _ => ⟨c :: rest, offset⟩
    | none => nextMark mark rest (offset + c.utf8Size)

/-- A line ends before its mark. -/
theorem lineCommentEnd_eq (rest : List Char) (offset : Nat) :
    lineCommentEnd rest offset = nextMark ['\n'] rest offset := by
  induction rest generalizing offset with
  | nil => rfl
  | cons c rest ih =>
    by_cases ends : c = '\n'
    · subst ends
      rfl
    · have none : Place.after? ['\n'] ⟨c :: rest, offset⟩ = none := if_neg (Ne.symm ends)
      rw [lineCommentEnd, if_neg ends, nextMark, none, ih]

/-- Two characters come next where they are the first ones. -/
theorem after?_pair_eq_none {place : Place} {a b : Char}
    (other : ∀ rest, place.rest ≠ a :: b :: rest) : place.after? [a, b] = none := by
  obtain ⟨text, offset⟩ := place
  cases text with
  | nil => rfl
  | cons c text =>
    by_cases first : a = c
    · subst first
      cases text with
      | nil => exact if_pos rfl
      | cons d text =>
        have second : b ≠ d := fun same => other text (by rw [same])
        exact (if_pos rfl).trans (if_neg second)
    · exact if_neg first

/-- A comment in a line or over several lines ends after its mark. -/
theorem blockCommentEnd_eq (rest : List Char) (offset : Nat) :
    blockCommentEnd rest offset = Place.after? ['*', '/'] (nextMark ['*', '/'] rest offset) := by
  induction rest, offset using blockCommentEnd.induct with
  | case1 offset => rfl
  | case2 rest offset => rfl
  | case3 c rest offset other ih =>
    have none : Place.after? ['*', '/'] ⟨c :: rest, offset⟩ = none :=
      after?_pair_eq_none fun others same =>
        other others (List.cons.inj same).1 (List.cons.inj same).2
    rw [blockCommentEnd, nextMark, none, ih]
    exact other

section Blanks

variable {test : Peg.Lookahead} {place stop : Place} {e : Peg.Expression Rule}

/-- The surroundings of blanks: no blanks are passed over between their parts. -/
abbrev tight (test : Peg.Lookahead) : Surroundings := ⟨.atomic, test⟩

/-- Where no blanks are passed over, the first repetition is like a further one. -/
theorem again_of_many {result : Peg.Match Rule}
    (derived : Derives grammar (tight test) (.once (.many e)) place result) :
    Derives grammar (tight test) (.again e) place result := by
  cases derived with
  | manyNone none => exact .againNone none
  | manySome one more => exact .againSome one more

variable (test) in
/-- Characters are taken up to the next mark. -/
theorem charsBefore_derives (mark : String) (rest : List Char) (offset : Nat) :
    Derives grammar (tight test) (.once (charsBefore mark)) ⟨rest, offset⟩
      (some (nextMark mark.toList rest offset, [])) := by
  induction rest generalizing offset with
  | nil =>
    refine .manyNone ?_
    cases next : Place.after? mark.toList ⟨[], offset⟩ with
    | none => exact .seqFailsLate (.notAhead (.literalFails next)) (.oneOfFails nofun)
    | some stop => exact .seqFails (.notAheadFails (.literal next))
  | cons c rest ih =>
    rw [nextMark]
    cases next : Place.after? mark.toList ⟨c :: rest, offset⟩ with
    | none =>
      have one : Derives grammar (tight test) (.once (inOrder [notAhead mark, anyChar]))
          ⟨c :: rest, offset⟩ (some (⟨rest, offset + c.utf8Size⟩, [])) :=
        .seq (.notAhead (.literalFails next)) (.oneOf rfl rfl)
      exact .manySome one (again_of_many (ih _))
    | some stop => exact .manyNone (.seqFails (.notAheadFails (.literal next)))

/-- The end of the comment that starts at a place. -/
def commentEnd? : Place → Option Place
  | ⟨'/' :: '*' :: rest, offset⟩ => blockCommentEnd rest (offset + 2)
  | ⟨'/' :: '/' :: rest, offset⟩ => some (lineCommentEnd rest (offset + 2))
  | _ => none

variable (test) in
/-- A comment is read up to its end, if it has one. -/
theorem comment_derives (place : Place) :
    Derives grammar (tight test) (.once comment) place
      ((commentEnd? place).map fun stop => (stop, [])) := by
  unfold commentEnd?
  split
  case h_1 rest offset =>
    have chars := charsBefore_derives test "*/" rest (offset + 2)
    have line : Place.after? "//".toList ⟨'/' :: '*' :: rest, offset⟩ = none := rfl
    rw [blockCommentEnd_eq]
    cases ends : Place.after? ['*', '/'] (nextMark ['*', '/'] rest (offset + 2)) with
    | none =>
      exact .choiceSecond (.seqFailsLate (.literal rfl) (.seqFailsLate chars (.literalFails ends)))
        (.seqFails (.literalFails line))
    | some stop => exact .choiceFirst (.seq (.literal rfl) (.seq chars (.literal ends)))
  case h_2 rest offset =>
    have chars := charsBefore_derives test "\n" rest (offset + 2)
    rw [lineCommentEnd_eq]
    exact .choiceSecond (.seqFails (.literalFails rfl)) (.seq (.literal rfl) chars)
  case h_3 block line =>
    have noBlock : place.after? ['/', '*'] = none :=
      after?_pair_eq_none fun rest same => block rest place.offset (by rw [← same])
    have noLine : place.after? ['/', '/'] = none :=
      after?_pair_eq_none fun rest same => line rest place.offset (by rw [← same])
    exact .choiceSecond (.seqFails (.literalFails noBlock)) (.seqFails (.literalFails noLine))

/-- What passing over blanks does: first characters are passed over, and then comments, each with
the characters after it. -/
def PassesOver (test : Peg.Lookahead) (place stop : Place) : Prop :=
  ∃ middle, Derives grammar (tight test) (.once (many blank)) place (some (middle, [])) ∧
    Derives grammar (tight test) (.once (many (inOrder [comment, many blank]))) middle
      (some (stop, []))

/-- Nothing is passed over where neither a blank nor a comment starts. -/
theorem PassesOver.refl (solid : ∀ c next, place.next = some (c, next) → isSpace c = false)
    (none : commentEnd? place = none) : PassesOver test place place := by
  have comment := comment_derives test place
  rw [none] at comment
  exact ⟨place, .manyNone (.oneOfFails solid), .manyNone (.seqFails comment)⟩

/-- A blank is passed over first. -/
theorem PassesOver.space {c : Char} {next : Place} (first : place.next = some (c, next))
    (space : isSpace c = true) (more : PassesOver test next stop) : PassesOver test place stop := by
  obtain ⟨middle, spaces, comments⟩ := more
  exact ⟨middle, .manySome (.oneOf first space) (again_of_many spaces), comments⟩

/-- A comment is passed over first. -/
theorem PassesOver.comment {next : Place} (slash : place.rest.head? = some '/')
    (first : commentEnd? place = some next) (more : PassesOver test next stop) :
    PassesOver test place stop := by
  obtain ⟨middle, spaces, comments⟩ := more
  have comment := comment_derives test place
  rw [first] at comment
  refine ⟨place, .manyNone (.oneOfFails fun c after found => ?_),
    .manySome (.seq comment spaces) (again_of_many comments)⟩
  obtain ⟨_ | ⟨d, rest⟩, offset⟩ := place
  · cases slash
  · cases found
    obtain rfl := Option.some.inj slash
    rfl

variable (test) in
/-- Blanks and comments are passed over with enough fuel. -/
theorem passesOver_skipSpace (fuel : Nat) (place : Place) (enough : place.rest.length < fuel) :
    PassesOver test place (skipSpace fuel place) := by
  induction fuel generalizing place with
  | zero => exact absurd enough (Nat.not_lt_zero _)
  | succ fuel ih =>
    obtain ⟨text, offset⟩ := place
    dsimp only at enough
    unfold skipSpace
    split
    case h_1 rest =>
      cases ends : blockCommentEnd rest (offset + 2) with
      | none =>
        refine .refl ?_ ends
        rintro c next ⟨⟩
        rfl
      | some stop =>
        obtain ⟨taken, takes⟩ := blockCommentEnd_takes rest _ stop ends
        have lengths := takes.length
        simp only [List.length_cons] at enough lengths
        exact .comment rfl ends (ih stop (by omega))
    case h_2 rest =>
      obtain ⟨taken, takes⟩ := lineCommentEnd_takes rest (offset + 2)
      have lengths := takes.length
      simp only [List.length_cons] at enough lengths
      exact .comment rfl rfl (ih _ (by omega))
    case h_3 c rest block line =>
      rw [List.length_cons] at enough
      cases space : isSpace c with
      | true => exact .space rfl space (ih _ (Nat.lt_of_succ_lt_succ enough))
      | false =>
        refine .refl (fun d next found => ?_) ?_
        · cases found
          exact space
        · unfold commentEnd?
          split
          case h_1 same =>
            cases same
            exact absurd rfl (block _ rfl)
          case h_2 same =>
            cases same
            exact absurd rfl (line _ rfl)
          case h_3 => rfl
    case h_4 => exact .refl nofun rfl

/-- Blanks between tokens are passed over as far as the expression for them goes. -/
theorem blanks_derives (test : Peg.Lookahead) (place : Place) :
    Derives grammar (tight test) (.once blanks) place (some (grammar.skipBlanks place, [])) := by
  obtain ⟨middle, spaces, comments⟩ :=
    passesOver_skipSpace test _ place (Nat.lt_succ_self _)
  exact .seq spaces comments

end Blanks

/-- Recognition of a rule ends. The blanks between tokens count, as they are recognized by an
expression of their own. -/
structure Rule.IsRecognized (rule : Rule) : Prop where
  /-- With the fuel that parsing gives, or more, the recognizer finds a match or finds that there is
  none, whoever observes it. -/
  settles {σ : Type} (observer : Peg.Observer Rule σ) (state : σ) (text : String) {fuel : Nat} :
    fuelFor text ≤ fuel →
      (∃ stop trees later,
        Derives grammar outermost (.once (.call rule)) (Place.start text) (some (stop, trees)) ∧
        grammar.recognizeRule observer fuel rule text state =
          .matched stop trees.reverse later) ∨
      ∃ later,
        Derives grammar outermost (.once (.call rule)) (Place.start text) none ∧
        grammar.recognizeRule observer fuel rule text state = .failed later
  /-- No search goes on for ever, wherever it starts. -/
  searches (around : Surroundings) (place : Place) {e : Peg.Expression Rule} :
    e ∈ [.call rule, blank, comment, blanks] →
      Acc (fun later earlier => grammar.Tries earlier later) ⟨around, .once e, place⟩
  /-- A rule is tried again within itself only after characters have been taken. -/
  cycles {around inner : Surroundings} {place later : Place} :
    Relation.TransGen grammar.Tries ⟨around, .once (.call rule), place⟩
        ⟨inner, .once (.call rule), later⟩ →
      later.rest.length < place.rest.length
  /-- What is repeated takes characters. -/
  repetitions {around : Surroundings} {body : Peg.Expression Rule} {place stop : Place}
      {trees : List (Peg.Tree Rule)} :
    body ∈ rule.body.repeated ++ blanks.repeated →
      Derives grammar around (.once body) place (some (stop, trees)) →
        stop.rest.length < place.rest.length
  /-- Between the parts of a sequence, blanks are passed over as their expression says. -/
  passes (test : Peg.Lookahead) (place : Place) :
    Derives grammar (tight test) (.once blanks) place (some (grammar.skipBlanks place, []))

/-- What stands between tokens is ranked. -/
theorem isRanked_blanks {e : Peg.Expression Rule} (member : e ∈ [blank, comment, blanks]) :
    e.isRanked ranking = true := by
  simp only [List.mem_cons, List.not_mem_nil, or_false] at member
  rcases member with rfl | rfl | rfl <;> decide

/-- Recognition of every rule ends on every text. -/
theorem isRecognized (rule : Rule) : rule.IsRecognized where
  settles observer state text fuel enough := by
    have ends := Peg.Grammar.Tries.acc ranking_fits
      ⟨outermost, .once (.call rule), Place.start text⟩ rfl
    obtain ⟨result, derived⟩ := Peg.Trial.result_of_acc ends
    obtain ⟨later, found⟩ := @Peg.Ranking.Fits.recognize_eq Rule _ grammar ranking observer
      ranking_fits _ _ _ _ _ [] state rfl (Nat.le_trans (fuel_le_fuelFor rule text) enough) derived
    cases result with
    | none => exact .inr ⟨later, derived, found⟩
    | some result =>
      obtain ⟨stop, trees⟩ := result
      refine .inl ⟨stop, trees, later, derived, ?_⟩
      rw [← List.append_nil trees.reverse]
      exact found
  searches around place e member := by
    refine Peg.Grammar.Tries.acc ranking_fits _ ?_
    rcases List.mem_cons.mp member with rfl | other
    · rfl
    · exact isRanked_blanks other
  cycles search := Peg.length_lt_of_cycle ranking_fits search rfl rfl
  repetitions member derived := by
    refine derived.length_lt ranking_fits ?_
    rcases List.mem_append.mp member with inRule | inBlanks
    · exact (Peg.Expression.isRanked_repeated (ranking_fits.ranked rule) inRule).2
    · exact (Peg.Expression.isRanked_repeated (isRanked_blanks (by simp)) inBlanks).2
  passes := blanks_derives

open Peg.Grammar.Tries in
/-- A block is tried again within itself, after its brace. -/
theorem cycles_block :
    Relation.TransGen grammar.Tries
        ⟨outermost, .once (.call .blockStatement), Place.start "\x7b\x7d"⟩
        ⟨outermost, .once (.call .blockStatement), ⟨['\x7d'], 1⟩⟩ ∧
      ['\x7d'].length < (Place.start "\x7b\x7d").rest.length := by
  have search : Relation.TransGen grammar.Tries
      ⟨outermost, .once (.call .blockStatement), Place.start "\x7b\x7d"⟩
      ⟨outermost, .once (.call .blockStatement), ⟨['\x7d'], 1⟩⟩ :=
    .head call <| .head (seqSecond (.literal rfl)) <| .head seqFirst <| .head many <|
      .head call <| .single choiceFirst
  exact ⟨search, (isRecognized .blockStatement).cycles search⟩

end PluginSandbox.Syntax
