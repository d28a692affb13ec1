import PluginSandbox.Proofs.Syntax.Tokens

/-!
# Rules match whole tokens

Following an expression of the grammar from bracket to bracket shows which brackets are open after
it. For every rule that is no part of a token the stack comes back to where it was, so by induction
on derivations whatever a rule matches in a text that falls into tokens is a run of whole tokens,
after which the same brackets are open. An arrow function holds the mark `=>`, so it is not matched
in a text without it, whatever stands in the text instead.
-/
namespace PluginSandbox.Syntax

open Peg (Place Surroundings Derives Tree)
open Peg.Grammar (inside)
open Peg.Expression (firstOf inOrder anyChar)

/-- Whether a rule is a token by itself. -/
def Rule.isToken (rule : Rule) : Bool :=
  !rule.words.isEmpty || rule matches .identifier | .identifierName | .number | .string

/-- Whether a rule is only a part of a token. -/
def Rule.isFragment : Rule → Bool
  | .identifierStart | .identifierChar | .doubleQuoted | .singleQuoted | .templateChars => true
  | _ => false

/-- The innermost brackets that a rule needs to be open. -/
def Rule.entry : Rule → List Bracket
  | .templateSubstitution | .templateChars => [.tick]
  | _ => []

/-- Whether blanks are passed over between the parts of a rule that is read among tokens. -/
def Rule.isSpaced (rule : Rule) : Bool :=
  rule.kind matches .plain | .hidden | .spaced

/-- The open brackets after the characters of a literal. -/
def afterLiteral : List Bracket → List Char → Option (List Bracket)
  | stack, [] => some stack
  | .tick :: stack, ['$', '\x7b'] => some (.hole :: .tick :: stack)
  | stack, c :: characters => (afterMark stack c).bind (afterLiteral · characters)

/-- Whether the innermost open bracket is that of a template outside all others. -/
def inTemplate : List Bracket → Bool
  | .tick :: others => inCode others
  | _ => false

/-- The open brackets after a rule, for a rule that may be read there. -/
def afterRule (spaced : Bool) (stack : List Bracket) (rule : Rule) : Option (List Bracket) :=
  if rule = .templateChars ∨ rule = .templateSubstitution then
    if inTemplate stack then some stack else none
  else if rule.isFragment ∨ inCode stack = false then none
  else if rule.isToken ∨ spaced ∨ rule.kind = .compact ∨ rule.kind = .atomic then some stack
  else none

/-- The open brackets after an expression, for an expression that closes what it opens wherever it
may be repeated or left out. -/
def afterExpression (spaced : Bool) (stack : List Bracket) :
    Peg.Expression Rule → Option (List Bracket)
  | .literal characters => afterLiteral stack characters
  | .oneOf _ => none
  | .atStart | .atEnd | .ahead _ | .notAhead _ => some stack
  | .call rule => afterRule spaced stack rule
  | .seq first second =>
    match afterExpression spaced stack first with
    | some middle =>
      if spaced && !inCode middle then none else afterExpression spaced middle second
    | none => none
  | .choice first second =>
    let after := afterExpression spaced stack first
    if after = afterExpression spaced stack second then after else none
  | .many body =>
    if afterExpression spaced stack body = some stack ∧ (spaced → inCode stack) then some stack
    else none
  | .maybe body =>
    if afterExpression spaced stack body = some stack then some stack else none

/-- The rules that are no tokens close what they open. -/
theorem Rule.balanced (rule : Rule) (token : rule.isToken = false)
    (whole : rule.isFragment = false) :
    afterExpression rule.isSpaced rule.entry rule.body = some rule.entry := by
  cases rule with
  | keyword word => cases word <;> exact absurd token (by decide)
  | operator op =>
    rcases op with op | op <;> cases op <;>
      first | decide | exact absurd token (by decide)
  | _ => first | decide | exact absurd token (by decide) | exact absurd whole (by decide)

section

variable {around : Surroundings} {stack after base : List Bracket} {place stop : Place}
  {trees : List (Peg.Tree Rule)}

/-- Where a rule matched, its body did. -/
theorem derives_body {rule : Rule}
    (derived : Derives grammar around (.once (.call rule)) place (some (stop, trees))) :
    ∃ others, Derives grammar (inside rule.kind around) (.once rule.body) place
      (some (stop, others)) := by
  cases derived with
  | callHidden hidden body =>
    have same : rule.kind = .hidden := hidden
    rw [same]
    exact ⟨_, body⟩
  | callShown shown body => exact ⟨_, body⟩

/-- No digit starts a name. -/
theorem isIdentifierStart_digit {c : Char} (digit : c.isDigit = true) :
    isIdentifierStart c = false := by
  have letters : ∀ d ∈ nameStarts, d.isDigit = false := forall_of_all (by decide)
  cases starts : isIdentifierStart c with
  | false => rfl
  | true => exact absurd digit (by rw [letters c (mem_nameStarts starts)]; exact Bool.false_ne_true)

/-- A digit leads to the token after the numeral that it starts. -/
theorem Lexes.after_digit {c : Char} {text : List Char} (lexes : Lexes stack (c :: text))
    (code : inCode stack = true) (digit : c.isDigit = true) :
    Lexes stack (dropWord (c :: text)) ∧ (firstWord (c :: text)).all Char.isDigit = true ∧
      firstWord (c :: text) ≠ [] ∧ (dropWord (c :: text)).head? ≠ some '.' := by
  have goesOn : isIdentifierChar c = true := by
    simp [isIdentifierChar, Char.isAlphanum, digit]
  have nameless : startsName (c :: text) = false := isIdentifierStart_digit digit
  obtain ⟨later, numeral⟩ := lexes.after_word code goesOn
  rw [nameless] at numeral
  obtain ⟨all, point⟩ := numeral.resolve_left Bool.false_ne_true
  refine ⟨later, all, ?_, point⟩
  rw [firstWord, List.takeWhile_cons_of_pos goesOn]
  exact List.cons_ne_nil _ _

/-- A plain mark leaves the brackets alone. -/
theorem afterMark_plain {c : Char} (code : inCode stack = true) (plain : c ∈ plainMarks) :
    afterMark stack c = some stack := by
  rw [afterMark, if_pos (List.contains_iff_mem.mpr plain), if_pos code]

/-- A numeral is a token, or a point and a token. -/
theorem Lexes.after_number (lexes : Lexes stack place.rest) (code : inCode stack = true)
    (derived : Derives grammar around (.once (.call .number)) place (some (stop, trees))) :
    Lexes stack stop.rest := by
  obtain ⟨others, body⟩ := derives_body derived
  have compact : (inside Rule.number.kind around).mode ≠ .spaced := nofun
  obtain ⟨text, offset⟩ := place
  dsimp only at lexes
  cases text with
  | nil =>
    have none : Rejects (inside Rule.number.kind around) (.once Rule.number.body) [] :=
      .choice (.seq (.literal _ _ _ rfl) _) (.seq (.choice (.seq (.seq (.oneOf _ _ _ rfl) _) _)
        (.seq (.literal _ _ _ rfl) _)) _)
    exact (none.not_derives rfl body).elim
  | cons c rest =>
    cases digit : c.isDigit with
    | true =>
      obtain ⟨later, all, filled, point⟩ := lexes.after_digit code digit
      have reads := Reads.number_body compact _ _ filled all (startsWord_dropWord (c :: rest)) point
      rw [firstWord_append_dropWord] at reads
      rw [(reads.stop_eq rfl body).1]
      exact later
    | false =>
      by_cases fraction : c = '.' ∧ rest.head?.any Char.isDigit
      · obtain ⟨rfl, next⟩ := fraction
        have past := (lexes.after_mark (afterMark_plain code (by decide))).1
        cases rest with
        | nil => cases next
        | cons d rest =>
          obtain ⟨later, all, filled, _⟩ := past.after_digit code (by simpa using next)
          have reads := Reads.number_fraction compact _ _ filled all
            (startsWord_dropWord (d :: rest))
          rw [List.cons_append, firstWord_append_dropWord] at reads
          rw [(reads.stop_eq rfl body).1]
          exact later
      · have none := Rejects.number_body compact rest digit fun point => by
          cases rest with
          | nil => rfl
          | cons d rest =>
            cases next : d.isDigit with
            | false => simp [next]
            | true => exact absurd ⟨point, by simp [next]⟩ fraction
        exact (none.not_derives rfl body).elim

/-- A quoted text is a token. -/
theorem Lexes.after_string (lexes : Lexes stack place.rest) (code : inCode stack = true)
    (derived : Derives grammar around (.once (.call .string)) place (some (stop, trees))) :
    Lexes stack stop.rest := by
  obtain ⟨others, body⟩ := derives_body derived
  have compact : (inside Rule.string.kind around).mode ≠ .spaced := nofun
  obtain ⟨text, offset⟩ := place
  dsimp only at lexes
  cases text with
  | nil =>
    have none : Rejects (inside Rule.string.kind around) (.once Rule.string.body) [] :=
      .choice (.seq (.literal _ _ _ rfl) _) (.seq (.literal _ _ _ rfl) _)
    exact (none.not_derives rfl body).elim
  | cons c rest =>
    by_cases double : c = '"'
    · subst double
      obtain ⟨quoted, later, rfl, quotable, lexes⟩ := lexes.after_quoted code
      have inner : ∃ asked, Reads (inside Rule.string.kind around) (.once (.call .doubleQuoted))
          (quoted ++ '"' :: later) ('"' :: later) asked := by
        have body := Reads.doubleQuoted_body (inside_atomic (inside Rule.string.kind around)) quoted
          later quotable
        cases makes : (Peg.Grammar.shownIn Rule.doubleQuoted.kind
            (inside Rule.string.kind around)).makesNodes with
        | true => exact ⟨[fun _ => True], .node nofun makes body fun _ _ _ _ _ => trivial⟩
        | false => exact ⟨_, .silent nofun makes body⟩
      obtain ⟨asked, reads⟩ := inner
      rw [((Reads.string_body compact quoted later reads).stop_eq rfl body).1]
      exact lexes
    · by_cases single : c = '\''
      · subst single
        exact (lexes.not_single_quote code).elim
      · exact ((Rejects.string_body rest double single).not_derives rfl body).elim

/-- A rule that is a token by itself takes a token. -/
theorem Lexes.after_token {rule : Rule} (lexes : Lexes stack place.rest)
    (code : inCode stack = true) (token : rule.isToken = true)
    (derived : Derives grammar around (.once (.call rule)) place (some (stop, trees))) :
    Lexes stack stop.rest := by
  obtain ⟨others, body⟩ := derives_body derived
  have name : startsName place.rest = true → startsWord place.rest = true := by
    cases place.rest with
    | nil => exact nofun
    | cons c rest => exact isIdentifierChar_of_start
  by_cases some : rule.words ≠ []
  · have isWords := Rule.isWords some
    by_cases known : firstWord place.rest ∈ rule.words.map String.toList
    · have starts : startsWord place.rest = true := by
        have filled := (isWords.lexicon.2.1 _ known).1
        cases text : place.rest with
        | nil => rw [text] at filled; exact absurd rfl filled
        | cons c rest =>
          rw [text, firstWord, List.takeWhile_cons] at filled
          cases goesOn : isIdentifierChar c with
          | true => exact goesOn
          | false => rw [goesOn] at filled; exact absurd rfl filled
      rw [((Reads.words_body known).stop_eq rfl body).1]
      exact (lexes.after_word code starts).1
    · exact ((Rejects.words some known).not_derives rfl derived).elim
  · have unspelled : rule.words.isEmpty = true := by simpa using some
    cases rule with
    | number => exact lexes.after_number code derived
    | string => exact lexes.after_string code derived
    | identifier =>
      cases starts : startsName place.rest with
      | false => exact ((Rejects.identifier (.inl starts)).not_derives rfl derived).elim
      | true =>
        cases free : isReserved (firstWord place.rest) with
        | true => exact ((Rejects.identifier (.inr free)).not_derives rfl derived).elim
        | false =>
          rw [((Reads.identifier_body (inside_atomic around) starts free).stop_eq rfl body).1]
          exact (lexes.after_word code (name starts)).1
    | identifierName =>
      cases starts : startsName place.rest with
      | false => exact ((Rejects.identifierName starts).not_derives rfl derived).elim
      | true =>
        rw [((Reads.identifierName_body (inside_atomic around) starts).stop_eq rfl body).1]
        exact (lexes.after_word code (name starts)).1
    | keyword word => exact absurd unspelled Bool.false_ne_true
    | operator op =>
      rcases op with op | op <;> cases op <;>
        first | exact absurd unspelled (by decide) | exact absurd token (by decide)
    | _ => first | exact absurd unspelled (by decide) | exact absurd token (by decide)

/-- A repetition without padding keeps what every match of its part keeps. -/
theorem again_keeps (compact : around.mode ≠ .spaced) {e : Peg.Expression Rule}
    (holds : List Char → Prop)
    (keeps : ∀ {start stop : Place} {trees : List (Peg.Tree Rule)},
      Derives grammar around (.once e) start (some (stop, trees)) → holds start.rest →
        holds stop.rest)
    (derived : Derives grammar around (.again e) place (some (stop, trees)))
    (here : holds place.rest) : holds stop.rest := by
  generalize result : some (stop, trees) = found at derived
  generalize what : Peg.Phrase.again e = phrase at derived
  induction derived generalizing stop trees with
  | againNone none =>
    cases what
    cases result
    exact here
  | againSome one more oneIH moreIH =>
    cases what
    cases result
    rw [Peg.Grammar.padded, if_neg compact] at one
    exact moreIH compact keeps (keeps one here) rfl rfl
  | _ => cases what

/-- A unit of a template stays in the template. -/
theorem Lexes.after_templateUnit (compact : around.mode ≠ .spaced)
    (derived : Derives grammar around (.once templateUnit) place (some (stop, trees)))
    (lexes : Lexes (.tick :: stack) place.rest) : Lexes (.tick :: stack) stop.rest := by
  obtain ⟨text, offset⟩ := place
  dsimp only at lexes
  have refused := fun ends =>
    (Rejects.templateUnit compact text ends).not_derives (show Place.rest ⟨text, offset⟩ = text from rfl)
      derived
  cases text with
  | nil => exact (refused (.inl rfl)).elim
  | cons c rest =>
    by_cases backslash : c = '\\'
    · subst backslash
      cases rest with
      | nil => exact (refused (.inr (.inl rfl))).elim
      | cons d rest =>
        rw [((Reads.templateUnit_escape compact d rest).stop_eq rfl derived).1]
        exact lexes.after_escape
    · by_cases tick : c = '\x60'
      · subst tick
        exact (refused (.inr (.inr (.inl ⟨rest, rfl⟩)))).elim
      · by_cases dollar : c = '$'
        · subst dollar
          by_cases hole : rest.head? = some '\x7b'
          · obtain ⟨others, rfl⟩ := List.head?_eq_some_iff.mp hole
            exact (refused (.inr (.inr (.inr ⟨others, rfl⟩)))).elim
          · rw [((Reads.templateUnit_dollar compact rest hole).stop_eq rfl derived).1]
            exact lexes.after_piece tick backslash fun _ => hole
        · rw [((Reads.templateUnit_plain compact rest tick backslash dollar).stop_eq rfl derived).1]
          exact lexes.after_piece tick backslash fun same => absurd same dollar

/-- The characters of a template stay in the template. -/
theorem Lexes.after_templateChars
    (derived : Derives grammar around (.once (.call .templateChars)) place (some (stop, trees)))
    (lexes : Lexes (.tick :: stack) place.rest) : Lexes (.tick :: stack) stop.rest := by
  obtain ⟨others, body⟩ := derives_body derived
  have compact := inside_atomic around
  change Derives grammar (inside .atomic around) (.once (.seq templateUnit (.many templateUnit)))
    place _ at body
  cases body with
  | seq left right =>
    have first := Lexes.after_templateUnit compact left lexes
    rw [Peg.Grammar.padded, if_neg compact] at right
    cases right with
    | manyNone none => exact first
    | manySome one more =>
      exact again_keeps compact (Lexes (.tick :: stack)) (Lexes.after_templateUnit compact) more
        (Lexes.after_templateUnit compact one first)

/-- Brackets below known ones do not matter to whether characters form tokens. -/
theorem inCode_append (code : inCode base = true) : inCode (stack ++ base) = inCode stack := by
  cases stack with
  | nil => exact code
  | cons bracket stack => cases bracket <;> rfl

/-- A literal leads from a stack to the one after its characters. -/
theorem Lexes.after_literal {characters rest : List Char} (code : inCode base = true)
    (lexes : Lexes (stack ++ base) (characters ++ rest))
    (marked : afterLiteral stack characters = some after) : Lexes (after ++ base) rest := by
  induction stack, characters using afterLiteral.induct with
  | case1 stack =>
    cases marked
    exact lexes
  | case2 stack =>
    cases marked
    exact lexes.after_hole
  | case3 stack c characters hole ih =>
    rw [afterLiteral] at marked
    · obtain ⟨middle, first, later⟩ := Option.bind_eq_some_iff.mp marked
      exact ih middle (lexes.after_mark (afterMark_append first code)).1 later
    · exact hole

/-- What is asked of the stack of brackets before and after a phrase. -/
def Balanced (spaced : Bool) (stack after : List Bracket) : Peg.Phrase Rule → Prop
  | .once e => afterExpression spaced stack e = some after
  | .again e =>
    afterExpression spaced stack e = some stack ∧ after = stack ∧
      (spaced = true → inCode stack = true)

/-- Padding leads from a token to the next one. -/
theorem Lexes.after_padding {spaced : Bool} {text : List Char}
    (mode : around.mode = .spaced ↔ spaced = true) (code : spaced = true → inCode stack = true)
    (lexes : Lexes stack text) : Lexes stack (padded around text) := by
  rw [padded]
  split
  case isTrue here => exact lexes.after_blanks (code (mode.mp here))
  case isFalse => exact lexes

/-- What surrounds the body of a rule is read with blanks if the rule is. -/
theorem inside_mode {spaced : Bool} {rule : Rule} (mode : around.mode = .spaced ↔ spaced = true)
    (allowed : spaced = true ∨ rule.kind = .compact ∨ rule.kind = .atomic ∨ rule.kind = .spaced) :
    (inside rule.kind around).mode = .spaced ↔ rule.isSpaced = true := by
  rw [Rule.isSpaced]
  cases kind : rule.kind with
  | plain | hidden =>
    rcases allowed with here | other | other | other
    · exact ⟨fun _ => rfl, fun _ => mode.mpr here⟩
    all_goals
      rw [kind] at other
      cases other
  | compact | atomic => exact ⟨nofun, nofun⟩
  | spaced => exact ⟨fun _ => rfl, fun _ => rfl⟩

/-- A rule that may be read somewhere leaves the stack alone if its body does. -/
theorem Lexes.after_call {spaced : Bool} {rule : Rule}
    (mode : around.mode = .spaced ↔ spaced = true) (code : inCode base = true)
    (allowed : afterRule spaced stack rule = some after)
    (derived : Derives grammar around (.once (.call rule)) place (some (stop, trees)))
    (body : ∀ base', inCode base' = true →
      ((inside rule.kind around).mode = .spaced ↔ rule.isSpaced = true) →
      Balanced rule.isSpaced rule.entry rule.entry (.once rule.body) →
      Lexes (rule.entry ++ base') place.rest → Lexes (rule.entry ++ base') stop.rest)
    (lexes : Lexes (stack ++ base) place.rest) : Lexes (after ++ base) stop.rest := by
  rw [afterRule] at allowed
  split at allowed
  case isTrue template =>
    split at allowed
    case isFalse => cases allowed
    case isTrue here =>
      cases allowed
      obtain ⟨others, rfl, outer⟩ : ∃ others, stack = .tick :: others ∧ inCode others = true := by
        cases stack with
        | nil => cases here
        | cons bracket others =>
          cases bracket with
          | tick => exact ⟨others, rfl, here⟩
          | _ => cases here
      rcases template with rfl | rfl
      · exact Lexes.after_templateChars derived lexes
      · refine body (others ++ base) ?_ ⟨fun _ => rfl, fun _ => rfl⟩
          (Rule.balanced _ (by decide) (by decide)) lexes
        rw [inCode_append code]
        exact outer
  case isFalse other =>
    split at allowed
    case isTrue => cases allowed
    case isFalse inner =>
      have here : inCode stack = true := by
        cases code : inCode stack with
        | true => rfl
        | false => exact absurd (.inr code) inner
      have there : inCode (stack ++ base) = true := by
        rw [inCode_append code]
        exact here
      split at allowed
      case isFalse => cases allowed
      case isTrue reasons =>
        cases allowed
        cases token : rule.isToken with
        | true => exact lexes.after_token there token derived
        | false =>
          have whole : rule.isFragment = false := by
            cases fragment : rule.isFragment with
            | false => rfl
            | true => exact absurd (.inl fragment) inner
          have entry : rule.entry = [] := by
            cases rule <;> first | rfl | exact absurd (.inl rfl) other | exact absurd (.inr rfl) other
          have balanced := Rule.balanced rule token whole
          rw [token] at reasons
          have kept := body (stack ++ base) there (inside_mode mode ?_) balanced
          · rw [entry] at kept
            exact kept lexes
          · rcases reasons with no | spaced | compact | atomic
            · cases no
            · exact .inl spaced
            · exact .inr (.inl compact)
            · exact .inr (.inr (.inl atomic))

/-- Whatever matches in a text that falls into tokens is a run of whole tokens. -/
theorem Lexes.after_derivation {spaced : Bool} {phrase : Peg.Phrase Rule}
    (derived : Derives grammar around phrase place (some (stop, trees)))
    (mode : around.mode = .spaced ↔ spaced = true) (code : inCode base = true)
    (balanced : Balanced spaced stack after phrase) (lexes : Lexes (stack ++ base) place.rest) :
    Lexes (after ++ base) stop.rest := by
  generalize result : some (stop, trees) = found at derived
  induction derived generalizing stop trees spaced stack after base with
  | literal next =>
    cases result
    have takes := (Place.Takes.after next).rest
    rw [takes] at lexes
    exact lexes.after_literal code balanced
  | oneOf next held => cases balanced
  | atStart | atEnd | ahead | notAhead =>
    cases result
    cases balanced
    exact lexes
  | @callHidden _ rule _ _ hidden body ih =>
    cases result
    refine lexes.after_call mode code balanced (.callHidden hidden body) ?_
    intro base' code' mode' balanced' lexes'
    have same : rule.kind = .hidden := hidden
    rw [same] at mode'
    exact ih mode' code' balanced' lexes' rfl
  | callShown shown body ih =>
    cases result
    refine lexes.after_call mode code balanced (.callShown shown body) ?_
    intro base' code' mode' balanced' lexes'
    exact ih mode' code' balanced' lexes' rfl
  | @seq _ first second _ between _ _ _ left right leftIH rightIH =>
    cases result
    dsimp only [Balanced] at balanced
    rw [afterExpression] at balanced
    cases first' : afterExpression spaced stack first with
    | none =>
      rw [first'] at balanced
      cases balanced
    | some middle =>
      simp only [first'] at balanced
      split at balanced
      case isTrue => cases balanced
      case isFalse open' =>
        have later := leftIH mode code first' lexes rfl
        have allowed : spaced = true → inCode (middle ++ base) = true := by
          intro here
          rw [inCode_append code]
          simpa [here] using open'
        refine rightIH mode code balanced ?_ rfl
        rw [padded_rest]
        exact later.after_padding mode allowed
  | @choiceFirst _ first second _ _ left ih =>
    dsimp only [Balanced] at balanced
    rw [afterExpression] at balanced
    split at balanced
    case isTrue => exact ih mode code balanced lexes result
    case isFalse => cases balanced
  | @choiceSecond _ first second _ _ left right _ ih =>
    dsimp only [Balanced] at balanced
    rw [afterExpression] at balanced
    split at balanced
    case isTrue same => exact ih mode code (same.symm.trans balanced) lexes result
    case isFalse => cases balanced
  | manyNone none =>
    cases result
    dsimp only [Balanced] at balanced
    rw [afterExpression] at balanced
    split at balanced
    case isTrue =>
      cases balanced
      exact lexes
    case isFalse => cases balanced
  | manySome one more oneIH moreIH =>
    cases result
    dsimp only [Balanced] at balanced
    rw [afterExpression] at balanced
    split at balanced
    case isTrue kept =>
      cases balanced
      exact moreIH mode code ⟨kept.1, rfl, kept.2⟩ (oneIH mode code kept.1 lexes rfl) rfl
    case isFalse => cases balanced
  | againNone none =>
    cases result
    obtain ⟨_, rfl, _⟩ := balanced
    exact lexes
  | againSome one more oneIH moreIH =>
    cases result
    obtain ⟨kept, rfl, allowed⟩ := balanced
    have there : spaced = true → inCode (after ++ base) = true := by
      intro here
      rw [inCode_append code]
      exact allowed here
    have padding := lexes.after_padding mode there
    rw [← padded_rest] at padding
    exact moreIH mode code ⟨kept, rfl, allowed⟩ (oneIH mode code kept padding rfl) rfl
  | maybeSome one ih =>
    dsimp only [Balanced] at balanced
    rw [afterExpression] at balanced
    split at balanced
    case isTrue kept =>
      cases balanced
      exact ih mode code kept lexes result
    case isFalse => cases balanced
  | maybeNone none =>
    cases result
    dsimp only [Balanced] at balanced
    rw [afterExpression] at balanced
    split at balanced
    case isTrue =>
      cases balanced
      exact lexes
    case isFalse => cases balanced
  | _ => cases result

/-- An expression read among tokens takes whole tokens and leads to the next token, if it closes
the brackets that it opens. -/
theorem Lexes.after_part {e : Peg.Expression Rule} (lexes : Lexes stack place.rest)
    (code : inCode stack = true) (closes : afterExpression true [] e = some [])
    (mode : around.mode = .spaced)
    (derived : Derives grammar around (.once e) place (some (stop, trees))) :
    Lexes stack (grammar.padded around stop).rest := by
  have both : around.mode = .spaced ↔ true = true := ⟨fun _ => rfl, fun _ => mode⟩
  have later : Lexes ([] ++ stack) stop.rest :=
    Lexes.after_derivation derived both code (show Balanced true [] [] (.once e) from closes) lexes
  rw [padded_rest]
  exact Lexes.after_padding both (fun _ => code) later

/-- A text without an arrow among its tokens starts with no arrow function. -/
theorem Rejects.arrowFunction {text : List Char} (lexes : Lexes stack text)
    (code : inCode stack = true) (mode : around.mode = .spaced) :
    Rejects around (.once (.call .arrowFunction)) text := by
  refine .of_not_derives rfl fun place stop trees here derived => ?_
  subst here
  obtain ⟨others, body⟩ := derives_body derived
  cases body with
  | seq async rest =>
    have first := lexes.after_part code (by decide) mode async
    cases rest with
    | seq parameters rest =>
      have second := first.after_part code (by decide) mode parameters
      cases rest with
      | seq ascription rest =>
        have third := second.after_part code (by decide) mode ascription
        cases rest with
        | seq arrow rest =>
          cases arrow with
          | literal next =>
            have takes := (Place.Takes.after next).rest
            change (grammar.padded around _).rest = _ at takes
            rw [takes] at third
            exact third.not_arrow code

end

end PluginSandbox.Syntax
