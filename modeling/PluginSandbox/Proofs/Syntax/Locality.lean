import PluginSandbox.Proofs.Syntax.Following

/-!
# What is read before a closing brace

Inside brackets the grammar looks no further than the bracket that closes them. Whatever matches or
fails inside a nested text does so alike for every text that may follow it, by induction on the
derivation. An expression that is a whole nested text is therefore read up to any brace.
-/
namespace PluginSandbox.Syntax

open Peg (Place Surroundings Derives Match Phrase)
open Peg.Grammar (inside outermost)

/-- Two results are alike: both fail, or both leave the same nested text before their tails. -/
def Alike (tail other : List Char) (stack : List Bracket) : Match Rule → Match Rule → Prop :=
  Option.Rel fun found twin =>
    ∃ inner, found.1.rest = inner ++ tail ∧ twin.1.rest = inner ++ other ∧ Nested stack inner

/-- Wherever a text stands before another tail, a phrase has a result like the given one. -/
def Carries (tail other : List Char) (around : Surroundings) (phrase : Phrase Rule)
    (text : List Char) (stack : List Bracket) (result : Match Rule) : Prop :=
  ∀ place : Place, place.rest = text ++ other →
    ∃ twin, Derives grammar around phrase place twin ∧ Alike tail other stack result twin

section

variable {tail other : List Char} {around : Surroundings} {text rest : List Char}
  {stack middle after : List Bracket} {first second e : Peg.Expression Rule} {place stop : Place}
  {trees others : List (Peg.Tree Rule)} {result : Match Rule}

/-- What matches alike with another tail leaves a nested text before its own. -/
theorem Carries.within {phrase : Phrase Rule}
    (carries : Carries tail other around phrase text stack (some (stop, trees))) :
    ∃ inner, stop.rest = inner ++ tail ∧ Nested stack inner := by
  obtain ⟨twin, _, alike⟩ := carries ⟨text ++ other, 0⟩ rfl
  cases alike with
  | some both =>
    obtain ⟨inner, leaves, _, nested⟩ := both
    exact ⟨inner, leaves, nested⟩

/-- A sequence has alike results if its parts have. -/
theorem Carries.seq {inner later : List Char}
    (left : Carries tail other around (.once first) text middle (some (stop, trees)))
    (leaves : stop.rest = inner ++ tail)
    (pads : padded around (inner ++ other) = later ++ other)
    (right : Carries tail other around (.once second) later after result) :
    Carries tail other around (.once (.seq first second)) text after
      (result.map fun found => (found.1, trees ++ found.2)) := by
  intro place here
  obtain ⟨_, one, alike⟩ := left place here
  cases alike with
  | @some _ twin both =>
    obtain ⟨same, leaves', ends, _⟩ := both
    obtain rfl := List.append_cancel_right (leaves.symm.trans leaves')
    obtain ⟨_, two, alike⟩ := right (grammar.padded around twin.1) (by rw [padded_rest, ends, pads])
    cases alike with
    | none => exact ⟨none, .seqFailsLate one two, .none⟩
    | some both => exact ⟨some _, .seq one two, .some both⟩

/-- A repetition has alike results if its part has, first and then over and over. -/
theorem Carries.many {inner : List Char}
    (one : Carries tail other around (.once e) text stack (some (stop, trees)))
    (leaves : stop.rest = inner ++ tail)
    (more : Carries tail other around (.again e) inner stack result) :
    Carries tail other around (.once (.many e)) text stack
      (result.map fun found => (found.1, trees ++ found.2)) := by
  intro place here
  obtain ⟨_, one, alike⟩ := one place here
  cases alike with
  | @some _ twin both =>
    obtain ⟨same, leaves', ends, _⟩ := both
    obtain rfl := List.append_cancel_right (leaves.symm.trans leaves')
    obtain ⟨_, two, alike⟩ := more twin.1 ends
    cases alike with
    | none => exact (two.again_matches.elim fun _ impossible => nomatch impossible)
    | some both => exact ⟨some _, .manySome one two, .some both⟩

/-- A further repetition has alike results if its part has after the padding. -/
theorem Carries.again {before inner : List Char}
    (pads : padded around (before ++ other) = text ++ other)
    (one : Carries tail other around (.once e) text stack (some (stop, trees)))
    (leaves : stop.rest = inner ++ tail)
    (more : Carries tail other around (.again e) inner stack result) :
    Carries tail other around (.again e) before stack
      (result.map fun found => (found.1, trees ++ found.2)) := by
  intro place here
  obtain ⟨_, one, alike⟩ := one (grammar.padded around place) (by rw [padded_rest, here, pads])
  cases alike with
  | @some _ twin both =>
    obtain ⟨same, leaves', ends, _⟩ := both
    obtain rfl := List.append_cancel_right (leaves.symm.trans leaves')
    obtain ⟨_, two, alike⟩ := more twin.1 ends
    cases alike with
    | none => exact (two.again_matches.elim fun _ impossible => nomatch impossible)
    | some both => exact ⟨some _, .againSome one two, .some both⟩

/-- What is read whatever shuts the text has alike results. -/
theorem Carries.of_reads {phrase : Phrase Rule} (shuts : Shuts tail) (shuts' : Shuts other)
    (reads : ∀ tail : List Char, Shuts tail →
      ∃ asked, Reads around phrase (text ++ tail) (rest ++ tail) asked)
    (nested : Nested stack rest) (here : place.rest = text ++ tail)
    (derived : Derives grammar around phrase place result) :
    Carries tail other around phrase text stack result := by
  intro place' here'
  obtain ⟨_, first⟩ := reads tail shuts
  obtain ⟨_, second⟩ := reads other shuts'
  obtain ⟨found, trees, one, leaves, _⟩ := first place here
  obtain ⟨twin, others, two, ends, _⟩ := second place' here'
  cases derived.unique one
  exact ⟨_, two, .some ⟨rest, leaves, ends, nested⟩⟩

/-- What is rejected whatever shuts the text has alike results. -/
theorem Carries.of_rejects {phrase : Phrase Rule} (shuts : Shuts tail) (shuts' : Shuts other)
    (rejects : ∀ tail : List Char, Shuts tail →
      Rejects around phrase (text ++ tail)) (here : place.rest = text ++ tail)
    (derived : Derives grammar around phrase place result) :
    Carries tail other around phrase text stack result := by
  intro place' here'
  cases derived.unique (rejects tail shuts place here)
  exact ⟨none, rejects other shuts' place' here', .none⟩

/-- A quoted text is read whatever surrounds it. -/
theorem Reads.string_around {quote : Char} (isQuote : quote = '"' ∨ quote = '\'')
    (body rest : List Char) (within : isQuotedBy quote body = true) :
    ∃ asked, Reads around (.once (.call .string)) (quote :: body ++ quote :: rest) rest asked := by
  have compact : (inside Rule.string.kind around).mode ≠ .spaced := nofun
  -- Whether a rule makes a node or not, it is read if its body is.
  have call {around : Surroundings} (rule : Rule) {text rest : List Char} {asked : List Asked}
      (shown : rule.kind ≠ .hidden)
      (body : Reads (inside rule.kind around) (.once rule.body) text rest asked) :
      ∃ asked, Reads around (.once (.call rule)) text rest asked := by
    cases makes : (Peg.Grammar.shownIn rule.kind around).makesNodes with
    | true => exact ⟨[fun _ => True], .node shown makes body fun _ _ _ _ _ => trivial⟩
    | false => exact ⟨_, .silent shown makes body⟩
  have tight := inside_atomic (inside Rule.string.kind around)
  rcases isQuote with rfl | rfl
  · have units : Reads (inside .atomic (inside Rule.string.kind around))
        (.once Rule.doubleQuoted.body) (body ++ '"' :: rest) ('"' :: rest) [] :=
      .many_compact tight (.again_unitWithin tight (by decide) body rest within)
    obtain ⟨_, inner⟩ := call .doubleQuoted nofun units
    exact call .string nofun (.string_body compact body rest inner)
  · have units : Reads (inside .atomic (inside Rule.string.kind around))
        (.once Rule.singleQuoted.body) (body ++ '\'' :: rest) ('\'' :: rest) [] :=
      .many_compact tight (.again_unitWithin tight (by decide) body rest within)
    obtain ⟨_, inner⟩ := call .singleQuoted nofun units
    exact call .string nofun (.string_body_single compact body rest inner)

/-- Whether a quoted text stands somewhere does not depend on what shuts the text. -/
theorem Nested.carries_string (shuts : Shuts tail) (shuts' : Shuts other)
    (code : inCode stack = true) (nested : Nested stack text) (here : place.rest = text ++ tail)
    (derived : Derives grammar around (.once (.call .string)) place result) :
    Carries tail other around (.once (.call .string)) text stack result := by
  by_cases starts : text.head? = some '"' ∨ text.head? = some '\''
  · obtain ⟨quote, more, rfl, isQuote⟩ : ∃ quote more, text = quote :: more ∧
        (quote = '"' ∨ quote = '\'') := by
      rcases starts with starts | starts <;>
        obtain ⟨more, same⟩ := List.head?_eq_some_iff.mp starts
      · exact ⟨_, more, same, .inl rfl⟩
      · exact ⟨_, more, same, .inr rfl⟩
    obtain ⟨body, rest, rfl, within, inner⟩ := nested.after_quoted isQuote code
    refine .of_reads shuts shuts' (fun tail _ => ?_) inner here derived
    rw [List.cons_append, List.append_assoc]
    exact Reads.string_around isQuote body (rest ++ tail) within
  · refine .of_rejects shuts shuts' (fun tail shuts => .call ?_) here derived
    cases text with
    | nil =>
      rcases shuts with rfl | brace
      · exact Rejects.at_end (e := Rule.string.body) rfl rfl
      · obtain ⟨more, rfl⟩ := List.head?_eq_some_iff.mp brace
        exact .string_body more (by decide) (by decide)
    | cons c text =>
      refine .string_body (text ++ tail) ?_ ?_
      · rintro rfl
        exact starts (.inl rfl)
      · rintro rfl
        exact starts (.inr rfl)

/-- Whether a unit of a template stands somewhere does not depend on what shuts the text. -/
theorem Nested.carries_templateUnit (shuts : Shuts tail) (shuts' : Shuts other)
    (compact : around.mode ≠ .spaced)
    (nested : Nested (.tick :: stack) text) (here : place.rest = text ++ tail)
    (derived : Derives grammar around (.once templateUnit) place result) :
    Carries tail other around (.once templateUnit) text (.tick :: stack) result := by
  have filled {text : List Char} (nested : Nested (.tick :: stack) text) : text ≠ [] := by
    rintro rfl
    cases nested.stack_eq_nil
  cases text with
  | nil => exact absurd rfl (filled nested)
  | cons c text =>
    by_cases backslash : c = '\\'
    · subst backslash
      obtain ⟨d, text, rfl⟩ := List.exists_cons_of_ne_nil nested.escape_ne_nil
      exact .of_reads shuts shuts'
        (fun tail _ => ⟨_, .templateUnit_escape compact d (text ++ tail)⟩) nested.after_escape here
        derived
    · by_cases tick : c = '\x60'
      · subst tick
        exact .of_rejects shuts shuts'
          (fun tail _ => .templateUnit compact _ (.inr (.inr (.inl ⟨text ++ tail, rfl⟩)))) here
          derived
      · by_cases dollar : c = '$'
        · subst dollar
          by_cases hole : text.head? = some '\x7b'
          · obtain ⟨others, rfl⟩ := List.head?_eq_some_iff.mp hole
            exact .of_rejects shuts shuts'
              (fun tail _ => .templateUnit compact _ (.inr (.inr (.inr ⟨others ++ tail, rfl⟩))))
              here derived
          · have inner := nested.after_piece tick backslash fun _ => hole
            refine .of_reads shuts shuts' (fun tail _ => ⟨_, .templateUnit_dollar compact _ ?_⟩)
              inner here derived
            obtain ⟨d, others, rfl⟩ := List.exists_cons_of_ne_nil (filled inner)
            exact hole
        · exact .of_reads shuts shuts'
            (fun tail _ => ⟨_, .templateUnit_plain compact (text ++ tail) tick backslash dollar⟩)
            (nested.after_piece tick backslash fun same => absurd same dollar) here derived

/-- Nothing more is repeated where the part fails alike. -/
theorem Carries.again_none {later : List Char} (nested : Nested stack text)
    (here : place.rest = text ++ tail) (pads : padded around (text ++ other) = later ++ other)
    (none : Carries tail other around (.once e) later stack none) :
    Carries tail other around (.again e) text stack (some (place, [])) := by
  intro place' here'
  obtain ⟨_, twin, alike⟩ := none (grammar.padded around place') (by rw [padded_rest, here', pads])
  cases alike
  exact ⟨_, .againNone twin, .some ⟨text, here, here', nested⟩⟩

/-- Nothing is repeated where the part fails alike. -/
theorem Carries.many_none (nested : Nested stack text) (here : place.rest = text ++ tail)
    (none : Carries tail other around (.once e) text stack none) :
    Carries tail other around (.once (.many e)) text stack (some (place, [])) := by
  intro place' here'
  obtain ⟨_, twin, alike⟩ := none place' here'
  cases alike
  exact ⟨_, .manyNone twin, .some ⟨text, here, here', nested⟩⟩

/-- A sequence fails alike if its first part does. -/
theorem Carries.seq_none (left : Carries tail other around (.once first) text middle none) :
    Carries tail other around (.once (.seq first second)) text after none := by
  intro place here
  obtain ⟨_, twin, alike⟩ := left place here
  cases alike
  exact ⟨none, .seqFails twin, .none⟩

/-- How far units of a template go on does not depend on what shuts the text. -/
theorem Nested.carries_again_templateUnit (shuts : Shuts tail) (shuts' : Shuts other)
    (compact : around.mode ≠ .spaced)
    (nested : Nested (.tick :: stack) text) (here : place.rest = text ++ tail)
    (derived : Derives grammar around (.again templateUnit) place result) :
    Carries tail other around (.again templateUnit) text (.tick :: stack) result := by
  generalize what : Peg.Phrase.again templateUnit = phrase at derived
  induction derived generalizing text with
  | againNone none =>
    cases what
    rw [Peg.Grammar.padded, if_neg compact] at none
    exact .again_none nested here (padded_compact compact _)
      (nested.carries_templateUnit shuts shuts' compact here none)
  | againSome one more _ moreIH =>
    cases what
    rw [Peg.Grammar.padded, if_neg compact] at one
    have first := nested.carries_templateUnit shuts shuts' compact here one
    obtain ⟨inner, leaves, nested⟩ := first.within
    exact first.again (padded_compact compact _) leaves (moreIH compact nested leaves rfl)
  | _ => cases what

/-- How far units of a template go from the start does not depend on what shuts the text. -/
theorem Nested.carries_many_templateUnit (shuts : Shuts tail) (shuts' : Shuts other)
    (compact : around.mode ≠ .spaced)
    (nested : Nested (.tick :: stack) text) (here : place.rest = text ++ tail)
    (derived : Derives grammar around (.once (.many templateUnit)) place result) :
    Carries tail other around (.once (.many templateUnit)) text (.tick :: stack) result := by
  cases derived with
  | manyNone none =>
    exact .many_none nested here (nested.carries_templateUnit shuts shuts' compact here none)
  | manySome one more =>
    have first := nested.carries_templateUnit shuts shuts' compact here one
    obtain ⟨_, leaves, nested⟩ := first.within
    exact first.many leaves (nested.carries_again_templateUnit shuts shuts' compact leaves more)

/-- Which characters of a template stand somewhere does not depend on what shuts the text. -/
theorem Nested.carries_templateChars (shuts : Shuts tail) (shuts' : Shuts other)
    (compact : around.mode ≠ .spaced)
    (nested : Nested (.tick :: stack) text) (here : place.rest = text ++ tail)
    (derived : Derives grammar around (.once Rule.templateChars.body) place result) :
    Carries tail other around (.once Rule.templateChars.body) text (.tick :: stack) result := by
  change Derives grammar around (.once (.seq templateUnit (.many templateUnit))) place _ at derived
  cases derived with
  | seqFails left => exact .seq_none (nested.carries_templateUnit shuts shuts' compact here left)
  | seqFailsLate left right => cases right
  | seq left right =>
    rw [Peg.Grammar.padded, if_neg compact] at right
    have first := nested.carries_templateUnit shuts shuts' compact here left
    obtain ⟨inner, leaves, nested⟩ := first.within
    exact first.seq leaves (padded_compact compact _)
      (nested.carries_many_templateUnit shuts shuts' compact leaves right)

end

section

variable {tail other : List Char} {around : Surroundings} {text : List Char} {spaced : Bool}
  {stack after base : List Bracket} {place : Place} {result : Match Rule}

/-- Padding leads from a nested text to a nested text, whatever shuts it. -/
theorem Nested.after_padding (nested : Nested stack text)
    (mode : around.mode = .spaced ↔ spaced = true) (code : spaced = true → inCode stack = true) :
    ∃ later, Nested stack later ∧ ∀ tail : List Char, Shuts tail →
      padded around (text ++ tail) = later ++ tail := by
  by_cases here : around.mode = .spaced
  · obtain ⟨later, inner, _, passes⟩ := nested.after_blanks (code (mode.mp here))
    refine ⟨later, inner, fun tail shuts => ?_⟩
    rw [padded, if_pos here, passes tail shuts]
  · exact ⟨text, nested, fun tail _ => padded_compact here _⟩

/-- Where nothing is left to pass over, a nested text starts with no blank. -/
theorem Nested.startsBlank_of_settled (shuts : Shuts tail)
    (nested : Nested stack text) (code : inCode stack = true) (mode : around.mode = .spaced)
    (settled : grammar.Settled around place) (here : place.rest = text ++ tail) :
    startsBlank text = false := by
  obtain ⟨later, _, solid, passes⟩ := nested.after_blanks code
  have stays := congrArg Place.rest settled
  rw [padded_rest, padded, if_pos mode, here, passes tail shuts] at stays
  rw [← List.append_cancel_right stays]
  exact solid

/-- Whether a literal stands somewhere does not depend on what shuts the text. -/
theorem Nested.carries_literal {characters : List Char} (shuts : Shuts tail)
    (shuts' : Shuts other) (mode : around.mode = .spaced ↔ spaced = true)
    (code : inCode base = true) (follows : nests spaced stack (.literal characters) = some after)
    (solid : StartsSolid around stack place (.once (.literal characters)))
    (nested : Nested (stack ++ base) text) (here : place.rest = text ++ tail)
    (derived : Derives grammar around (.once (.literal characters)) place result) :
    Carries tail other around (.once (.literal characters)) text (after ++ base) result := by
  rw [nests] at follows
  split at follows
  case isFalse => cases follows
  case isTrue allowed =>
    have within {another : List Char} (shuts'' : Shuts another)
        (starts : characters <+: text ++ another) :
        ∃ rest, text = characters ++ rest ∧ Nested (after ++ base) rest := by
      refine nested.after_chars code follows (fun slash => ?_) allowed.1 shuts'' starts
      rcases allowed.2 slash with rfl | ⟨spacedHere, rfl⟩
      · obtain ⟨rest, same⟩ := starts
        have free : startsComment (text ++ another) = false := by
          rw [← same]
          rfl
        exact startsComment_of_append free
      · obtain ⟨middle, next, _⟩ := Option.bind_eq_some_iff.mp follows
        have open' := inCode_of_afterChar next (by decide)
        exact startsComment_of_settled (nested.startsBlank_of_settled shuts
          ((inCode_append code).trans open') (mode.mpr spacedHere) (solid open') here)
    by_cases starts : characters <+: text ++ tail
    · obtain ⟨rest, rfl, inner⟩ := within shuts starts
      refine .of_reads shuts shuts' (fun tail _ => ⟨[], ?_⟩) inner here derived
      rw [List.append_assoc]
      exact .literal around characters (rest ++ tail)
    · refine .of_rejects shuts shuts' (fun another shuts'' => .literal around _ _ ?_) here derived
      cases prefixed : characters.isPrefixOf (text ++ another) with
      | false => rfl
      | true =>
        obtain ⟨rest, rfl, _⟩ := within shuts'' (List.isPrefixOf_iff_prefix.mp prefixed)
        refine absurd ?_ starts
        rw [List.append_assoc]
        exact List.prefix_append _ _

/-- Whether a character of a class stands somewhere does not depend on what shuts the text. -/
theorem Nested.carries_oneOf {holds : Char → Bool} (shuts : Shuts tail) (shuts' : Shuts other)
    (code : inCode base = true) (follows : nests spaced stack (.oneOf holds) = some after)
    (nested : Nested (stack ++ base) text) (here : place.rest = text ++ tail)
    (derived : Derives grammar around (.once (.oneOf holds)) place result) :
    Carries tail other around (.once (.oneOf holds)) text (after ++ base) result := by
  obtain ⟨rfl, open', inert⟩ := nests_oneOf follows
  have there : inCode (after ++ base) = true := (inCode_append code).trans open'
  by_cases starts : text.head?.any holds = true
  · cases text with
    | nil => cases starts
    | cons c text =>
      have held : holds c = true := starts
      have inner := nested.after_char (afterChar_inert there (inert c held))
        (startsComment_of_inert (inert c held))
      exact .of_reads shuts shuts' (fun tail _ => ⟨[], .oneOf around holds c (text ++ tail) held⟩)
        inner here derived
  · refine .of_rejects shuts shuts' (fun tail shuts => .oneOf around holds _ ?_) here derived
    cases text with
    | nil =>
      rcases shuts with rfl | brace
      · rfl
      · obtain ⟨more, rfl⟩ := List.head?_eq_some_iff.mp brace
        cases held : holds '\x7d' with
        | false => simp [held]
        | true => cases inert _ held
    | cons c text => simpa using starts

/-- A rule has alike results if its body has. -/
theorem Carries.call {rule : Rule} {inner : Match Rule}
    (same : result.map Prod.fst = inner.map Prod.fst)
    (body : Carries tail other (inside rule.kind around) (.once rule.body) text stack inner) :
    Carries tail other around (.once (.call rule)) text stack result := by
  intro place here
  obtain ⟨_, twin, alike⟩ := body place here
  cases alike with
  | none =>
    cases Option.map_eq_none_iff.mp same
    by_cases hidden : rule.kind = .hidden
    · rw [hidden] at twin
      exact ⟨none, .callHidden hidden twin, .none⟩
    · exact ⟨none, .callFails hidden twin, .none⟩
  | some both =>
    obtain ⟨found, rfl, stops⟩ := Option.map_eq_some_iff.mp same
    rw [← stops] at both
    by_cases hidden : rule.kind = .hidden
    · rw [hidden] at twin
      exact ⟨some _, .callHidden hidden twin, .some both⟩
    · exact ⟨some _, .callShown hidden twin, .some both⟩

/-- A rule has results that do not depend on what shuts the text if its body has such. -/
theorem Nested.carries_call {rule : Rule} {inner : Match Rule} (shuts : Shuts tail)
    (shuts' : Shuts other) (mode : around.mode = .spaced ↔ spaced = true)
    (code : inCode base = true) (follows : nests spaced stack (.call rule) = some after)
    (solid : StartsSolid around stack place (.once (.call rule)))
    (nested : Nested (stack ++ base) text) (here : place.rest = text ++ tail)
    (derived : Derives grammar around (.once (.call rule)) place result)
    (derivedBody : Derives grammar (inside rule.kind around) (.once rule.body) place inner)
    (same : result.map Prod.fst = inner.map Prod.fst)
    (body : ∀ base', inCode base' = true →
      ((inside rule.kind around).mode = .spaced ↔ rule.readsSpaced = true) →
      Encloses rule.readsSpaced rule.entry rule.entry (.once rule.body) →
      StartsSolid (inside rule.kind around) rule.entry place (.once rule.body) →
      Nested (rule.entry ++ base') text →
      Carries tail other (inside rule.kind around) (.once rule.body) text (rule.entry ++ base')
        inner) :
    Carries tail other around (.once (.call rule)) text (after ++ base) result := by
  obtain ⟨rfl, within, modes, below, rfl, open'⟩ := nests_call follows
  have outer : inCode (below ++ base) = true := (inCode_append code).trans open'
  rw [List.append_assoc] at nested ⊢
  by_cases quoted : rule = .string
  · subst quoted
    exact nested.carries_string shuts shuts' outer here derived
  · by_cases template : rule = .templateChars
    · subst template
      exact .call same
        (nested.carries_templateChars shuts shuts' (inside_atomic around) here derivedBody)
    · obtain ⟨encloses, _⟩ := rule.nests_body within quoted template
      exact .call same (body _ outer (inside_spacedIn mode modes) encloses
        (solid.inside rfl open') nested)

/-- What a phrase does in a nested text does not depend on what shuts the text. -/
theorem Nested.carries {phrase : Phrase Rule} (shuts : Shuts tail) (shuts' : Shuts other)
    (derived : Derives grammar around phrase place result)
    (mode : around.mode = .spaced ↔ spaced = true) (code : inCode base = true)
    (encloses : Encloses spaced stack after phrase)
    (solid : StartsSolid around stack place phrase)
    (nested : Nested (stack ++ base) text) (here : place.rest = text ++ tail) :
    Carries tail other around phrase text (after ++ base) result := by
  induction derived generalizing spaced stack after base text with
  | literal next =>
    exact nested.carries_literal shuts shuts' mode code encloses solid here (.literal next)
  | literalFails next =>
    exact nested.carries_literal shuts shuts' mode code encloses solid here (.literalFails next)
  | oneOf next held =>
    exact nested.carries_oneOf shuts shuts' code encloses here (.oneOf next held)
  | oneOfFails next =>
    exact nested.carries_oneOf shuts shuts' code encloses here (.oneOfFails next)
  | @callHidden _ rule _ _ hidden body ih =>
    have same : rule.kind = .hidden := hidden
    refine nested.carries_call shuts shuts' mode code encloses solid here (.callHidden hidden body)
      (by rw [same]; exact body) rfl ?_
    intro base' code' mode' encloses' solid' nested'
    rw [same] at mode' solid' ⊢
    exact ih mode' code' encloses' solid' nested' here
  | callShown shown body ih =>
    refine nested.carries_call shuts shuts' mode code encloses solid here (.callShown shown body)
      body rfl ?_
    intro base' code' mode' encloses' solid' nested'
    exact ih mode' code' encloses' solid' nested' here
  | callFails shown body ih =>
    refine nested.carries_call shuts shuts' mode code encloses solid here (.callFails shown body)
      body rfl ?_
    intro base' code' mode' encloses' solid' nested'
    exact ih mode' code' encloses' solid' nested' here
  | @seq around _ _ _ between _ _ _ left right leftIH rightIH =>
    obtain ⟨middle, first', second', open', _⟩ := nests_seq encloses
    have first := leftIH mode code first' solid nested here
    obtain ⟨inner, leaves, nested'⟩ := first.within
    obtain ⟨later, nested'', passes⟩ := nested'.after_padding mode
      fun here => (inCode_append code).trans (open' here)
    have second := rightIH mode code second' (fun _ => skipsOnce.settled around between) nested''
      (by rw [padded_rest, leaves, passes tail shuts])
    exact first.seq leaves (passes other shuts') second
  | seqFails left ih =>
    obtain ⟨_, first', _⟩ := nests_seq encloses
    exact .seq_none (ih mode code first' solid nested here)
  | @seqFailsLate around _ _ _ between _ left right leftIH rightIH =>
    obtain ⟨middle, first', second', open', _⟩ := nests_seq encloses
    have first := leftIH mode code first' solid nested here
    obtain ⟨inner, leaves, nested'⟩ := first.within
    obtain ⟨later, nested'', passes⟩ := nested'.after_padding mode
      fun here => (inCode_append code).trans (open' here)
    have second := rightIH mode code second' (fun _ => skipsOnce.settled around between) nested''
      (by rw [padded_rest, leaves, passes tail shuts])
    exact first.seq leaves (passes other shuts') second
  | choiceFirst left ih =>
    intro place' here'
    obtain ⟨_, twin, alike⟩ := ih mode code (nests_choice encloses).1 solid nested here place' here'
    cases alike with
    | some both => exact ⟨_, .choiceFirst twin, .some both⟩
  | choiceSecond left right leftIH rightIH =>
    intro place' here'
    obtain ⟨_, none, alike⟩ :=
      leftIH mode code (nests_choice encloses).1 solid nested here place' here'
    cases alike
    obtain ⟨_, twin, alike⟩ :=
      rightIH mode code (nests_choice encloses).2 solid nested here place' here'
    exact ⟨_, .choiceSecond none twin, alike⟩
  | manyNone none ih =>
    obtain ⟨rfl, follows, _⟩ := nests_many encloses
    exact .many_none nested here (ih mode code follows solid nested here)
  | manySome one more oneIH moreIH =>
    obtain ⟨rfl, follows, open', undivided⟩ := nests_many encloses
    have first := oneIH mode code follows solid nested here
    obtain ⟨inner, leaves, nested'⟩ := first.within
    exact first.many leaves
      (moreIH mode code ⟨rfl, follows, open', undivided⟩ trivial nested' leaves)
  | @againNone around _ place none ih =>
    obtain ⟨rfl, follows, open', _⟩ := encloses
    obtain ⟨later, nested', passes⟩ := nested.after_padding mode
      fun here => (inCode_append code).trans (open' here)
    exact .again_none nested here (passes other shuts')
      (ih mode code follows (fun _ => skipsOnce.settled around place) nested'
        (by rw [padded_rest, here, passes tail shuts]))
  | @againSome around _ place _ _ _ _ one more oneIH moreIH =>
    obtain ⟨rfl, follows, open', undivided⟩ := encloses
    obtain ⟨later, nested', passes⟩ := nested.after_padding mode
      fun here => (inCode_append code).trans (open' here)
    have first := oneIH mode code follows (fun _ => skipsOnce.settled around place) nested'
      (by rw [padded_rest, here, passes tail shuts])
    obtain ⟨inner, leaves, nested''⟩ := first.within
    exact first.again (passes other shuts') leaves
      (moreIH mode code ⟨rfl, follows, open', undivided⟩ trivial nested'' leaves)
  | maybeSome one ih =>
    obtain ⟨rfl, follows, _⟩ := nests_maybe encloses
    intro place' here'
    obtain ⟨_, twin, alike⟩ := ih mode code follows solid nested here place' here'
    cases alike with
    | some both => exact ⟨_, .maybeSome twin, .some both⟩
  | maybeNone none ih =>
    obtain ⟨rfl, follows, _⟩ := nests_maybe encloses
    intro place' here'
    obtain ⟨_, twin, alike⟩ := ih mode code follows solid nested here place' here'
    cases alike
    exact ⟨_, .maybeNone twin, .some ⟨text, here, here', nested⟩⟩
  | @ahead around _ _ _ test ih =>
    obtain ⟨rfl, inner, follows⟩ := nests_test encloses
    intro place' here'
    obtain ⟨_, twin, alike⟩ := ih (testing_mode around ▸ mode) code follows
      (solid.of_mode (testing_mode around)) nested here place' here'
    cases alike with
    | some both => exact ⟨_, .ahead twin, .some ⟨text, here, here', nested⟩⟩
  | @aheadFails around _ _ test ih =>
    obtain ⟨_, inner, follows⟩ := nests_test encloses
    intro place' here'
    obtain ⟨_, twin, alike⟩ := ih (testing_mode around ▸ mode) code follows
      (solid.of_mode (testing_mode around)) nested here place' here'
    cases alike
    exact ⟨_, .aheadFails twin, .none⟩
  | @notAhead around _ _ test ih =>
    obtain ⟨rfl, inner, follows⟩ := nests_test encloses
    intro place' here'
    obtain ⟨_, twin, alike⟩ := ih (refuting_mode around ▸ mode) code follows
      (solid.of_mode (refuting_mode around)) nested here place' here'
    cases alike
    exact ⟨_, .notAhead twin, .some ⟨text, here, here', nested⟩⟩
  | @notAheadFails around _ _ _ test ih =>
    obtain ⟨_, inner, follows⟩ := nests_test encloses
    intro place' here'
    obtain ⟨_, twin, alike⟩ := ih (refuting_mode around ▸ mode) code follows
      (solid.of_mode (refuting_mode around)) nested here place' here'
    cases alike with
    | some both => exact ⟨_, .notAheadFails twin, .none⟩
  | atStart | atStartFails | atEnd | atEndFails => cases encloses

end

section

variable {text tail other : List Char} {place place' stop : Place} {trees : List (Peg.Tree Rule)}

/-- A nested text that is read whole as an expression is so whatever shuts it. -/
theorem Nested.expression_alike (shuts : Shuts tail) (shuts' : Shuts other)
    (nested : Nested [] text)
    (derived : Derives grammar outermost (.once (.call .expression)) (grammar.skipBlanks place)
      (some (stop, trees))) (here : place.rest = text ++ tail) (leaves : stop.rest = tail)
    (here' : place'.rest = afterBlanks (text ++ other)) :
    ∃ stop' trees', Derives grammar outermost (.once (.call .expression)) place'
      (some (stop', trees')) ∧ stop'.rest = other := by
  have mode : outermost.mode = .spaced ↔ true = true := ⟨fun _ => rfl, fun _ => rfl⟩
  obtain ⟨later, inner, _, passes⟩ := nested.after_blanks rfl
  have carries : Carries tail other outermost (.once (.call .expression)) later ([] ++ [])
      (some (stop, trees)) :=
    Nested.carries shuts shuts' derived mode rfl
      (show nests true [] (.call .expression) = some [] by decide)
      (fun _ => skipsOnce.settled outermost place) inner
      (by rw [skipBlanks_rest, here, passes tail shuts])
  obtain ⟨_, twin, alike⟩ := carries place' (by rw [here', passes other shuts'])
  cases alike with
  | some both =>
    obtain ⟨rest, same, ends, _⟩ := both
    have none : rest = [] := List.append_left_eq_self.mp (same.symm.trans leaves)
    rw [none] at ends
    exact ⟨_, _, twin, ends⟩

end

end PluginSandbox.Syntax
