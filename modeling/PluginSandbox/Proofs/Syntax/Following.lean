import PluginSandbox.Proofs.Syntax.Exponents
import PluginSandbox.Proofs.Syntax.Nesting

/-!
# Following the grammar from character to character

Which brackets an expression of the grammar leaves open can be told without a text: a sequence is
followed from one part to the next, the parts of a choice agree, and what is repeated or left out
closes all that it opens. Every rule of statements and expressions is followed in this way, so by
induction on derivations the text that is read as an expression up to a brace is nested.
-/
namespace PluginSandbox.Syntax

open Peg (Place Surroundings Derives Match Phrase)
open Peg.Grammar (inside outermost)
open Peg.Expression (firstOf inOrder anyChar)

/-- The rules that stand outside all expressions and statements, and those that are read only as the
characters of a quoted text. -/
def Rule.isOuter : Rule → Bool
  | .endOfText | .moduleSource | .script | .moduleItem | .importDeclaration | .importClause
  | .namedImports | .importSpecifier | .specifierTypeMarker | .doubleQuoted | .singleQuoted => true
  | _ => false

/-- Whether blanks are passed over in a rule, given whether they are around it. -/
def Rule.spacedIn (rule : Rule) (spaced : Bool) : Bool :=
  match rule.kind with
  | .plain | .hidden => spaced
  | .spaced => true
  | .atomic | .compact => false

/-- Whether blanks are passed over in a rule wherever it is read. -/
def Rule.readsSpaced (rule : Rule) : Bool := rule.isSpaced && !rule.isFragment

/-- Whether an expression may match a slash alone. -/
def mayDivide : Peg.Expression Rule → Bool
  | .literal characters => characters = ['/']
  | .call rule => rule = .binaryOperator || rule = .operator (.binary .divide)
  | .choice first second => mayDivide first || mayDivide second
  | _ => false

/-- Whether a sequence is an operator and its right operand. -/
def isOperation : Peg.Expression Rule → Peg.Expression Rule → Bool
  | .call .binaryOperator, .call .binaryOperand => true
  | _, _ => false

/-- The open brackets after a rule, for a rule that may be read there. -/
def nestsRule (spaced : Bool) (stack : List Bracket) (rule : Rule) : Option (List Bracket) :=
  if rule.isOuter ∨ rule.spacedIn spaced ≠ rule.readsSpaced then none
  else if rule.entry = [] ∧ inCode stack ∨ rule.entry = [.tick] ∧ inTemplate stack then some stack
  else none

/-- The open brackets after an expression that is followed from character to character: wherever it
may be repeated or left out it closes what it opens, it takes no delimiter for another character,
and where it takes a slash alone it goes on with an operand. -/
@[simp]
def nests (spaced : Bool) (stack : List Bracket) : Peg.Expression Rule → Option (List Bracket)
  | .literal characters =>
    if '/' ∉ characters.tail ∧
        ('/' ∈ characters → characters = ['/', '='] ∨ spaced ∧ characters = ['/']) then
      afterChars stack characters
    else none
  | .oneOf holds => if inCode stack ∧ (delimiters.all fun c => !holds c) then some stack else none
  | .atStart | .atEnd => none
  | .ahead body | .notAhead body => if (nests spaced stack body).isSome then some stack else none
  | .call rule => nestsRule spaced stack rule
  | .seq first second =>
    match nests spaced stack first with
    | some middle =>
      if spaced && !inCode middle || mayDivide second ||
          mayDivide first && !isOperation first second then none
      else nests spaced middle second
    | none => none
  | .choice first second =>
    let after := nests spaced stack first
    if after = nests spaced stack second then after else none
  | .many body =>
    if nests spaced stack body = some stack ∧ (spaced → inCode stack) ∧ mayDivide body = false then
      some stack
    else none
  | .maybe body =>
    if nests spaced stack body = some stack ∧ mayDivide body = false then some stack else none

/-- The rules of statements and expressions are followed from character to character, apart from
the characters of quoted texts and templates. -/
theorem Rule.nests_body (rule : Rule) (inner : rule.isOuter = false) (unquoted : rule ≠ .string)
    (outside : rule ≠ .templateChars) :
    nests rule.readsSpaced rule.entry rule.body = some rule.entry ∧
      (mayDivide rule.body = true → mayDivide (.call rule) = true) := by
  cases rule with
  | keyword word => cases word <;> decide
  | operator op => rcases op with op | op <;> cases op <;> decide
  | string => exact absurd rfl unquoted
  | templateChars => exact absurd rfl outside
  | _ => first | exact absurd inner (by decide) | decide

section

variable {spaced : Bool} {stack after below base : List Bracket}
  {first second e : Peg.Expression Rule}

/-- What is followed through a sequence. -/
theorem nests_seq (follows : nests spaced stack (.seq first second) = some after) :
    ∃ middle, nests spaced stack first = some middle ∧ nests spaced middle second = some after ∧
      (spaced = true → inCode middle = true) ∧ mayDivide second = false ∧
      (mayDivide first = true → isOperation first second = true) := by
  rw [nests] at follows
  cases left : nests spaced stack first with
  | none =>
    rw [left] at follows
    cases follows
  | some middle =>
    simp only [left] at follows
    split at follows
    case isTrue => cases follows
    case isFalse allowed =>
      simp only [Bool.or_eq_true, Bool.and_eq_true, Bool.not_eq_true', not_or, not_and,
        Bool.not_eq_false, Bool.not_eq_true] at allowed
      exact ⟨middle, rfl, follows, allowed.1.1, allowed.1.2, allowed.2⟩

/-- What is followed through a choice. -/
theorem nests_choice (follows : nests spaced stack (.choice first second) = some after) :
    nests spaced stack first = some after ∧ nests spaced stack second = some after := by
  rw [nests] at follows
  split at follows
  case isTrue same => exact ⟨follows, same.symm.trans follows⟩
  case isFalse => cases follows

/-- What is followed through a repetition. -/
theorem nests_many (follows : nests spaced stack (.many e) = some after) :
    after = stack ∧ nests spaced stack e = some stack ∧ (spaced = true → inCode stack = true) ∧
      mayDivide e = false := by
  rw [nests] at follows
  split at follows
  case isTrue allowed =>
    cases follows
    exact ⟨rfl, allowed⟩
  case isFalse => cases follows

/-- What is followed through an option. -/
theorem nests_maybe (follows : nests spaced stack (.maybe e) = some after) :
    after = stack ∧ nests spaced stack e = some stack ∧ mayDivide e = false := by
  rw [nests] at follows
  split at follows
  case isTrue allowed =>
    cases follows
    exact ⟨rfl, allowed⟩
  case isFalse => cases follows

/-- What is followed through a test. -/
theorem nests_test (follows : nests spaced stack (.ahead e) = some after) :
    after = stack ∧ ∃ inner, nests spaced stack e = some inner := by
  rw [nests] at follows
  split at follows
  case isTrue allowed =>
    cases follows
    exact ⟨rfl, Option.isSome_iff_exists.mp allowed⟩
  case isFalse => cases follows

/-- What is followed through the characters of a class. -/
theorem nests_oneOf {holds : Char → Bool}
    (follows : nests spaced stack (.oneOf holds) = some after) :
    after = stack ∧ inCode stack = true ∧ ∀ c, holds c = true → isInert c = true := by
  rw [nests] at follows
  split at follows
  case isTrue allowed =>
    cases follows
    refine ⟨rfl, allowed.1, fun c held => ?_⟩
    rw [isInert]
    cases listed : delimiters.contains c with
    | false => rfl
    | true =>
      have lacks := List.all_eq_true.mp allowed.2 c (List.contains_iff_mem.mp listed)
      rw [held] at lacks
      cases lacks
  case isFalse => cases follows

/-- What is followed through a rule: its innermost brackets are those that it needs to be open. -/
theorem nests_call {rule : Rule} (follows : nests spaced stack (.call rule) = some after) :
    after = stack ∧ rule.isOuter = false ∧ rule.spacedIn spaced = rule.readsSpaced ∧
      ∃ below, stack = rule.entry ++ below ∧ inCode below = true := by
  rw [nests, nestsRule] at follows
  split at follows
  case isTrue => cases follows
  case isFalse allowed =>
    simp only [ne_eq, not_or, Bool.not_eq_true, not_not] at allowed
    split at follows
    case isFalse => cases follows
    case isTrue opened =>
      cases follows
      refine ⟨rfl, allowed.1, allowed.2, ?_⟩
      rcases opened with ⟨entry, code⟩ | ⟨entry, template⟩
      · exact ⟨stack, by rw [entry]; rfl, code⟩
      · rw [entry]
        cases stack with
        | nil => cases template
        | cons bracket others =>
          cases bracket with
          | tick => exact ⟨others, rfl, template⟩
          | _ => cases template

/-- What surrounds the body of a rule that is followed is read with blanks if the rule is. -/
theorem inside_spacedIn {around : Surroundings} {rule : Rule}
    (mode : around.mode = .spaced ↔ spaced = true)
    (same : rule.spacedIn spaced = rule.readsSpaced) :
    (inside rule.kind around).mode = .spaced ↔ rule.readsSpaced = true := by
  rw [← same, Rule.spacedIn]
  cases rule.kind with
  | plain | hidden => exact mode
  | spaced => exact ⟨fun _ => rfl, fun _ => rfl⟩
  | atomic | compact => exact ⟨nofun, nofun⟩

/-- A rule that is read with blanks wherever it stands is no code by itself. -/
theorem Rule.entry_of_spaced {rule : Rule} (kind : rule.kind = .spaced) :
    inCode rule.entry = false := by
  cases rule with
  | operator op => rcases op with op | op <;> cases op <;> cases kind
  | templateSubstitution => rfl
  | _ => cases kind

end

section

variable {around : Surroundings} {place stop : Place} {trees : List (Peg.Tree Rule)} {quote : Char}

/-- A text that a literal rejects does not start with it. -/
theorem head_ne_of_fails {c : Char}
    (fails : Derives grammar around (.once (.literal [c])) place none) :
    place.rest.head? ≠ some c := by
  intro starts
  obtain ⟨rest, same⟩ := List.head?_eq_some_iff.mp starts
  obtain ⟨_, _, derived, _⟩ := Reads.literal around [c] rest place same
  cases derived.unique fails

/-- What one character between quotes takes. -/
theorem unitWithin_text (compact : around.mode ≠ .spaced)
    (derived : Derives grammar around (.once (unitWithin quote)) place (some (stop, trees))) :
    ∃ taken, place.rest = taken ++ stop.rest ∧ isQuotedBy quote taken = true := by
  cases derived with
  | choiceFirst left =>
    cases left with
    | seq one two =>
      rw [Peg.Grammar.padded, if_neg compact] at two
      cases one with
      | literal next =>
        cases two with
        | @oneOf _ _ _ c _ other held =>
          refine ⟨['\\', c], ?_, rfl⟩
          rw [(Place.Takes.after next).rest, (Place.Takes.next other).rest]
          rfl
  | choiceSecond left right =>
    cases right with
    | seq one two =>
      rw [Peg.Grammar.padded, if_neg compact] at two
      cases one with
      | notAhead test =>
        cases two with
        | @oneOf _ _ _ c _ next held =>
          have here := (Place.Takes.next next).rest
          refine ⟨[c], here, ?_⟩
          cases test with
          | choiceSecond noQuote others =>
            cases others with
            | choiceSecond noBackslash noLine =>
              have distinct : c ≠ quote ∧ c ≠ '\\' ∧ c ≠ '\n' := by
                refine ⟨?_, ?_, ?_⟩
                · rintro rfl
                  exact head_ne_of_fails noQuote (by rw [here]; rfl)
                · rintro rfl
                  exact head_ne_of_fails noBackslash (by rw [here]; rfl)
                · rintro rfl
                  exact head_ne_of_fails noLine (by rw [here]; rfl)
              rw [isQuotedBy]
              · simp [distinct, isQuotedBy]
              · exact fun _ _ same => absurd same distinct.2.1

/-- What stands between quotes. -/
theorem between_quotes_text {rule : Rule} (compact : around.mode ≠ .spaced)
    (units : rule.body = .many (unitWithin quote)) (kind : rule.kind = .atomic)
    (derived : Derives grammar around
      (.once (inOrder [.literal [quote], .call rule, .literal [quote]])) place
      (some (stop, trees))) :
    ∃ body, isQuotedBy quote body = true ∧ place.rest = quote :: body ++ quote :: stop.rest := by
  cases derived with
  | @seq _ _ _ _ start _ _ _ opening rest =>
    rw [Peg.Grammar.padded, if_neg compact] at rest
    cases opening with
    | literal opens =>
      cases rest with
      | @seq _ _ _ _ last _ _ _ inner closing =>
        rw [Peg.Grammar.padded, if_neg compact] at closing
        cases closing with
        | literal closes =>
          obtain ⟨others, many⟩ := derives_body inner
          rw [units, kind] at many
          have tight := inside_atomic around
          -- Whatever has been taken so far may stand between the quotes.
          let leaves (text : List Char) : Prop :=
            ∃ body, start.rest = body ++ text ∧ isQuotedBy quote body = true
          have keeps {place stop : Place} {trees : List (Peg.Tree Rule)}
              (one : Derives grammar (inside .atomic around) (.once (unitWithin quote)) place
                (some (stop, trees))) (here : leaves place.rest) : leaves stop.rest := by
            obtain ⟨body, same, within⟩ := here
            obtain ⟨more, rest, unit⟩ := unitWithin_text tight one
            refine ⟨body ++ more, ?_, isQuotedBy_append within unit⟩
            rw [same, rest, List.append_assoc]
          have taken : leaves last.rest := by
            have none : leaves start.rest := ⟨[], rfl, rfl⟩
            cases many with
            | manyNone => exact none
            | manySome one more => exact again_keeps tight leaves keeps more (keeps one none)
          obtain ⟨body, same, within⟩ := taken
          refine ⟨body, within, ?_⟩
          rw [(Place.Takes.after opens).rest, same, (Place.Takes.after closes).rest]
          rfl

/-- What a quoted text is. -/
theorem string_text
    (derived : Derives grammar around (.once (.call .string)) place (some (stop, trees))) :
    ∃ quote body, (quote = '"' ∨ quote = '\'') ∧ isQuotedBy quote body = true ∧
      place.rest = quote :: body ++ quote :: stop.rest := by
  obtain ⟨others, body⟩ := derives_body derived
  have compact : (inside Rule.string.kind around).mode ≠ .spaced := nofun
  cases body with
  | choiceFirst left =>
    obtain ⟨text, within, same⟩ := between_quotes_text compact rfl rfl left
    exact ⟨'"', text, .inl rfl, within, same⟩
  | choiceSecond _ right =>
    obtain ⟨text, within, same⟩ := between_quotes_text compact rfl rfl right
    exact ⟨'\'', text, .inr rfl, within, same⟩

end

/-- What is asked of the open brackets before and after a phrase. -/
def Encloses (spaced : Bool) (stack after : List Bracket) : Phrase Rule → Prop
  | .once e => nests spaced stack e = some after
  | .again e =>
    after = stack ∧ nests spaced stack e = some stack ∧ (spaced = true → inCode stack = true) ∧
      mayDivide e = false

/-- Whether a phrase may match a slash alone. -/
def dividesIn : Phrase Rule → Bool
  | .once e => mayDivide e
  | .again _ => false

/-- In code no blanks are left to pass over before a phrase that does not pass over them itself. -/
def StartsSolid (around : Surroundings) (stack : List Bracket) (place : Place) :
    Phrase Rule → Prop
  | .once _ => inCode stack = true → grammar.Settled around place
  | .again _ => True

section

variable {around : Surroundings} {spaced : Bool} {stack after below base : List Bracket}
  {place stop : Place} {trees : List (Peg.Tree Rule)} {tail : List Char}

/-- Padding in front of a nested part belongs to a nested part. -/
theorem NestedTo.before_padding {text : List Char} (brace : tail.head? = some '\x7d')
    (mode : around.mode = .spaced ↔ spaced = true) (code : spaced = true → inCode stack = true)
    (nested : NestedTo tail stack (padded around text)) : NestedTo tail stack text := by
  rw [padded] at nested
  split at nested
  case isTrue here => exact nested.before_blanks brace (code (mode.mp here))
  case isFalse => exact nested

/-- Where nothing is left to pass over, nothing is inside a rule that is read there. -/
theorem StartsSolid.inside {rule : Rule} (split : stack = rule.entry ++ below)
    (code : inCode below = true)
    (solid : StartsSolid around stack place (.once (.call rule))) :
    StartsSolid (inside rule.kind around) rule.entry place (.once rule.body) := by
  intro entered
  have here : inCode stack = true := by
    rw [split, inCode_append code]
    exact entered
  cases kind : rule.kind with
  | plain | hidden => exact solid here
  | atomic => exact Peg.Grammar.settled_of_mode (inside_atomic around) place
  | compact =>
    have tight : (Peg.Grammar.inside .compact around).mode ≠ .spaced := nofun
    exact Peg.Grammar.settled_of_mode tight place
  | spaced =>
    rw [Rule.entry_of_spaced kind] at entered
    cases entered

/-- A test passes over blanks as its surroundings do. -/
theorem testing_mode (around : Surroundings) : around.testing.mode = around.mode := by
  unfold Surroundings.testing
  split <;> rfl

/-- A test that is to fail passes over blanks as its surroundings do. -/
theorem refuting_mode (around : Surroundings) : around.refuting.mode = around.mode := by
  unfold Surroundings.refuting
  split <;> rfl

/-- Whether anything is left to pass over depends only on how blanks are treated. -/
theorem StartsSolid.of_mode {other : Surroundings} {e body : Peg.Expression Rule}
    (solid : StartsSolid around stack place (.once e)) (mode : other.mode = around.mode) :
    StartsSolid other stack place (.once body) := by
  intro code
  have settled := solid code
  rw [Peg.Grammar.Settled, Peg.Grammar.padded] at settled ⊢
  rw [mode]
  exact settled

/-- Where nothing is left to pass over, no comment starts to the end of its line. -/
theorem not_line_of_settled {rest : List Char} (spaced : around.mode = .spaced)
    (settled : grammar.Settled around place) : place.rest ≠ '/' :: '/' :: rest := by
  intro line
  obtain ⟨text, offset⟩ := place
  subst line
  have same : grammar.skipBlanks ⟨'/' :: '/' :: rest, offset⟩ = ⟨'/' :: '/' :: rest, offset⟩ := by
    rw [Peg.Grammar.Settled, Peg.Grammar.padded, if_pos spaced] at settled
    exact settled
  obtain ⟨comment, ends⟩ := lineCommentEnd_takes rest (offset + 2)
  obtain ⟨blanks, more⟩ := skipSpace_takes ('/' :: '/' :: rest).length
    (lineCommentEnd rest (offset + 2))
  have lengths := ends.length
  have others := more.length
  have stays : skipSpace ('/' :: '/' :: rest).length (lineCommentEnd rest (offset + 2)) =
      ⟨'/' :: '/' :: rest, offset⟩ := same
  rw [stays] at others
  simp only [List.length_cons] at lengths others
  omega

/-- A slash that is taken alone, or before an equals sign, starts no comment. -/
theorem startsComment_of_slash {characters rest : List Char}
    (mode : around.mode = .spaced ↔ spaced = true)
    (follows : nests spaced stack (.literal characters) = some after)
    (solid : StartsSolid around stack place (.once (.literal characters)))
    (safe : characters = ['/'] → rest.head? ≠ some '*')
    (here : place.rest = characters ++ rest) (slash : '/' ∈ characters) :
    startsComment (characters ++ rest) = false := by
  rw [nests] at follows
  split at follows
  case isFalse => cases follows
  case isTrue allowed =>
    rcases allowed.2 slash with rfl | ⟨spacedHere, rfl⟩
    · rfl
    · obtain ⟨middle, next, _⟩ := Option.bind_eq_some_iff.mp follows
      have settled := solid (inCode_of_afterChar next (by decide))
      cases rest with
      | nil => rfl
      | cons c rest =>
        have star : c ≠ '*' := fun same => safe rfl (by rw [same]; rfl)
        have line : c ≠ '/' := by
          rintro rfl
          exact not_line_of_settled (mode.mpr spacedHere) settled here
        rw [List.cons_append, List.nil_append, startsComment]
        · rintro others ⟨⟩
          exact star rfl
        · rintro others ⟨⟩
          exact line rfl

/-- No operand starts with a star. -/
theorem Rejects.star_operand {text : List Char} (star : text.head? = some '*') :
    Rejects around (.once (.call .binaryOperand)) text := by
  obtain ⟨rest, rfl⟩ := List.head?_eq_some_iff.mp star
  have fits : (Head.marks ['*']).Fits ('*' :: rest) :=
    Head.marks_fits rfl (List.cons_ne_nil _ _) rest
  exact .of_head (.marks ['*']) fits rfl rfl rfl (by decide)

/-- A unit of a template in front of a nested part belongs to a nested part. -/
theorem NestedTo.before_templateUnit (compact : around.mode ≠ .spaced)
    (derived : Derives grammar around (.once templateUnit) place (some (stop, trees)))
    (nested : NestedTo tail (.tick :: stack) stop.rest) :
    NestedTo tail (.tick :: stack) place.rest := by
  obtain ⟨text, offset⟩ := place
  have refused := fun ends => (Rejects.templateUnit compact text ends).not_derives
    (show Place.rest ⟨text, offset⟩ = text from rfl) derived
  cases text with
  | nil => exact (refused (.inl rfl)).elim
  | cons c rest =>
    by_cases backslash : c = '\\'
    · subst backslash
      cases rest with
      | nil => exact (refused (.inr (.inl rfl))).elim
      | cons d rest =>
        rw [((Reads.templateUnit_escape compact d rest).stop_eq rfl derived).1] at nested
        obtain ⟨inner, rfl, nested⟩ := nested
        exact ⟨'\\' :: d :: inner, rfl, .escape d nested⟩
    · by_cases tick : c = '\x60'
      · subst tick
        exact (refused (.inr (.inr (.inl ⟨rest, rfl⟩)))).elim
      · by_cases dollar : c = '$'
        · subst dollar
          by_cases hole : rest.head? = some '\x7b'
          · obtain ⟨others, rfl⟩ := List.head?_eq_some_iff.mp hole
            exact (refused (.inr (.inr (.inr ⟨others, rfl⟩)))).elim
          · rw [((Reads.templateUnit_dollar compact rest hole).stop_eq rfl derived).1] at nested
            obtain ⟨inner, rfl, nested⟩ := nested
            refine ⟨'$' :: inner, rfl, .piece '$' tick backslash (fun _ brace => hole ?_) nested⟩
            rw [List.head?_append, brace]
            rfl
        · rw [((Reads.templateUnit_plain compact rest tick backslash dollar).stop_eq rfl derived).1]
            at nested
          obtain ⟨inner, rfl, nested⟩ := nested
          exact ⟨c :: inner, rfl, .piece c tick backslash (fun same => absurd same dollar) nested⟩

/-- The characters of a template in front of a nested part belong to a nested part. -/
theorem NestedTo.before_templateChars
    (derived : Derives grammar around (.once (.call .templateChars)) place (some (stop, trees)))
    (nested : NestedTo tail (.tick :: stack) stop.rest) :
    NestedTo tail (.tick :: stack) place.rest := by
  obtain ⟨others, body⟩ := derives_body derived
  have compact := inside_atomic around
  change Derives grammar (inside .atomic around) (.once (.seq templateUnit (.many templateUnit)))
    place _ at body
  cases body with
  | seq left right =>
    rw [Peg.Grammar.padded, if_neg compact] at right
    refine NestedTo.before_templateUnit compact left ?_
    cases right with
    | manyNone => exact nested
    | manySome one more =>
      refine NestedTo.before_templateUnit compact one ?_
      -- Wherever the repetition has got to, what stands before it is as nested as what follows.
      exact again_keeps compact
        (fun text => NestedTo tail (.tick :: stack) text → NestedTo tail (.tick :: stack) _)
        (fun unit here later => here (.before_templateUnit compact unit later)) more id nested

/-- A quoted text in front of a nested part belongs to a nested part. -/
theorem NestedTo.before_string
    (derived : Derives grammar around (.once (.call .string)) place (some (stop, trees)))
    (code : inCode stack = true) (nested : NestedTo tail stack stop.rest) :
    NestedTo tail stack place.rest := by
  obtain ⟨quote, body, isQuote, within, same⟩ := string_text derived
  obtain ⟨inner, rest, nested⟩ := nested
  refine ⟨quote :: body ++ quote :: inner, ?_, .quoted quote isQuote body code within nested⟩
  rw [same, rest, List.append_assoc]
  rfl

/-- A rule in front of a nested part belongs to a nested part if its body does. -/
theorem NestedTo.before_call {rule : Rule} (mode : around.mode = .spaced ↔ spaced = true)
    (code : inCode base = true) (follows : nests spaced stack (.call rule) = some after)
    (solid : StartsSolid around stack place (.once (.call rule)))
    (safe : mayDivide (.call rule) = true → stop.rest.head? ≠ some '*')
    (derived : Derives grammar around (.once (.call rule)) place (some (stop, trees)))
    (body : ∀ base', inCode base' = true →
      ((inside rule.kind around).mode = .spaced ↔ rule.readsSpaced = true) →
      Encloses rule.readsSpaced rule.entry rule.entry (.once rule.body) →
      StartsSolid (inside rule.kind around) rule.entry place (.once rule.body) →
      (dividesIn (.once rule.body) = true → stop.rest.head? ≠ some '*') →
      NestedTo tail (rule.entry ++ base') stop.rest →
      NestedTo tail (rule.entry ++ base') place.rest)
    (nested : NestedTo tail (after ++ base) stop.rest) :
    NestedTo tail (stack ++ base) place.rest := by
  obtain ⟨rfl, inner, same, below, rfl, open'⟩ := nests_call follows
  have outer : inCode (below ++ base) = true := (inCode_append code).trans open'
  rw [List.append_assoc] at nested ⊢
  by_cases quoted : rule = .string
  · subst quoted
    exact nested.before_string derived outer
  · by_cases template : rule = .templateChars
    · subst template
      exact nested.before_templateChars derived
    · obtain ⟨encloses, divides⟩ := rule.nests_body inner quoted template
      exact body _ outer (inside_spacedIn mode same) encloses (solid.inside rfl open')
        (fun may => safe (divides may)) nested

/-- Where an operation matched, no star stands after its operator. -/
theorem not_star_of_operation {first second : Peg.Expression Rule} {middle : Place}
    (operation : isOperation first second = true)
    (right : Derives grammar around (.once second) (grammar.padded around middle)
      (some (stop, trees))) : middle.rest.head? ≠ some '*' := by
  intro star
  have operand : second = .call .binaryOperand := by
    unfold isOperation at operation
    split at operation
    · rfl
    · cases operation
  subst operand
  obtain ⟨rest, same⟩ := List.head?_eq_some_iff.mp star
  have here : (grammar.padded around middle).rest = '*' :: rest := by
    rw [padded_rest, same, padded]
    split
    · exact afterBlanks_settled rfl
    · rfl
  exact (Rejects.star_operand (by rw [here]; rfl)).not_derives rfl right

/-- The text that a phrase matches in front of a nested part belongs to a nested part. -/
theorem NestedTo.before_derivation {phrase : Phrase Rule} (brace : tail.head? = some '\x7d')
    (derived : Derives grammar around phrase place (some (stop, trees)))
    (mode : around.mode = .spaced ↔ spaced = true) (code : inCode base = true)
    (encloses : Encloses spaced stack after phrase)
    (solid : StartsSolid around stack place phrase)
    (safe : dividesIn phrase = true → stop.rest.head? ≠ some '*')
    (nested : NestedTo tail (after ++ base) stop.rest) :
    NestedTo tail (stack ++ base) place.rest := by
  generalize result : some (stop, trees) = found at derived
  induction derived generalizing stop trees spaced stack after base with
  | @literal _ characters _ _ next =>
    cases result
    have here := (Place.Takes.after next).rest
    have free := startsComment_of_slash mode encloses solid
      (fun same => safe (by rw [dividesIn, mayDivide, same]; rfl)) here
    dsimp only [Encloses] at encloses
    rw [nests] at encloses
    split at encloses
    case isTrue allowed =>
      rw [here]
      exact nested.before_chars code encloses free allowed.1
    case isFalse => cases encloses
  | @oneOf _ _ _ c _ next held =>
    cases result
    obtain ⟨rfl, open', inert⟩ := nests_oneOf encloses
    obtain ⟨inner, same, nested⟩ := nested
    have there : inCode (after ++ base) = true := (inCode_append code).trans open'
    refine ⟨c :: inner, ?_, .char c (afterChar_inert there (inert c held))
      (startsComment_of_inert (inert c held)) nested⟩
    rw [(Place.Takes.next next).rest, same]
    rfl
  | @callHidden _ rule _ _ hidden body ih =>
    cases result
    refine nested.before_call mode code encloses solid safe (.callHidden hidden body) ?_
    intro base' code' mode' encloses' solid' safe' nested'
    have same : rule.kind = .hidden := hidden
    rw [same] at mode' solid'
    exact ih mode' code' encloses' solid' safe' nested' rfl
  | callShown shown body ih =>
    cases result
    refine nested.before_call mode code encloses solid safe (.callShown shown body) ?_
    intro base' code' mode' encloses' solid' safe' nested'
    exact ih mode' code' encloses' solid' safe' nested' rfl
  | @seq around first second _ between _ _ _ left right leftIH rightIH =>
    cases result
    obtain ⟨middle, first', second', open', undivided, operation⟩ := nests_seq encloses
    have later := rightIH mode code second' (fun _ => skipsOnce.settled around between)
      (fun divided => absurd divided (by rw [dividesIn, undivided]; exact Bool.false_ne_true))
      nested rfl
    rw [padded_rest] at later
    have inner : spaced = true → inCode (middle ++ base) = true :=
      fun here => (inCode_append code).trans (open' here)
    exact leftIH mode code first' solid
      (fun divided => not_star_of_operation (operation divided) right)
      (later.before_padding brace mode inner) rfl
  | choiceFirst left ih =>
    exact ih mode code (nests_choice encloses).1 solid
      (fun divided => safe (by rw [dividesIn, mayDivide, Bool.or_eq_true]; exact .inl divided))
      nested result
  | choiceSecond left right _ ih =>
    exact ih mode code (nests_choice encloses).2 solid
      (fun divided => safe (by rw [dividesIn, mayDivide, Bool.or_eq_true]; exact .inr divided))
      nested result
  | manyNone none =>
    cases result
    obtain ⟨rfl, _⟩ := nests_many encloses
    exact nested
  | manySome one more oneIH moreIH =>
    cases result
    obtain ⟨rfl, follows, open', undivided⟩ := nests_many encloses
    have later := moreIH mode code ⟨rfl, follows, open', undivided⟩ trivial nofun nested rfl
    exact oneIH mode code follows solid
      (fun divided => absurd divided (by rw [dividesIn, undivided]; exact Bool.false_ne_true))
      later rfl
  | againNone none =>
    cases result
    obtain ⟨rfl, _⟩ := encloses
    exact nested
  | @againSome around _ place _ _ _ _ one more oneIH moreIH =>
    cases result
    obtain ⟨rfl, follows, open', undivided⟩ := encloses
    have later := moreIH mode code ⟨rfl, follows, open', undivided⟩ trivial nofun nested rfl
    have here := oneIH mode code follows (fun _ => skipsOnce.settled around place)
      (fun divided => absurd divided (by rw [dividesIn, undivided]; exact Bool.false_ne_true))
      later rfl
    rw [padded_rest] at here
    exact here.before_padding brace mode
      fun spacedHere => (inCode_append code).trans (open' spacedHere)
  | maybeSome one ih =>
    obtain ⟨rfl, follows, undivided⟩ := nests_maybe encloses
    exact ih mode code follows solid
      (fun divided => absurd divided (by rw [dividesIn, undivided]; exact Bool.false_ne_true))
      nested result
  | maybeNone none =>
    cases result
    obtain ⟨rfl, _⟩ := nests_maybe encloses
    exact nested
  | ahead | notAhead =>
    cases result
    obtain ⟨rfl, _⟩ := nests_test encloses
    exact nested
  | atStart | atEnd => cases encloses
  | _ => cases result

/-- A text that is read as an expression up to a brace is nested. -/
theorem nested_of_expression {text : List Char} (brace : tail.head? = some '\x7d')
    (derived : Derives grammar outermost (.once (.call .expression)) (grammar.skipBlanks place)
      (some (stop, trees))) (here : place.rest = text ++ tail) (leaves : stop.rest = tail) :
    Nested [] text := by
  have mode : outermost.mode = .spaced ↔ true = true := ⟨fun _ => rfl, fun _ => rfl⟩
  have last : NestedTo tail ([] ++ []) stop.rest := ⟨[], leaves, .done⟩
  have first : NestedTo tail ([] ++ []) (grammar.skipBlanks place).rest :=
    .before_derivation brace derived mode rfl
      (show nests true [] (.call .expression) = some [] by decide)
      (fun _ => skipsOnce.settled outermost place) nofun last
  rw [skipBlanks_rest] at first
  obtain ⟨inner, same, nested⟩ := first.before_blanks brace rfl
  rw [List.append_cancel_right (here.symm.trans same)]
  exact nested

end

end PluginSandbox.Syntax
