import PluginSandbox.Proofs.Syntax.Words

/-!
# The beginning of a text

What a text starts with often tells that an expression of the grammar cannot match it. The
question is decided on the grammar alone, for a kind of beginning at a time: an expression opens
with a beginning if following its parts, as far as they may be empty, leads to a character or a
word that fits. Expressions that do not open with the beginning of a text reject the text.
-/
namespace PluginSandbox.Syntax

open Peg (Place Surroundings Derives Tree)

/-- A kind of beginning of a text. -/
inductive Head where
  /-- The text starts with these characters, the first of which is no word character. -/
  | marks (known : List Char)
  /-- The text starts with this word. -/
  | named (word : List Char)
  /-- The text starts with a name that is not reserved. -/
  | plain
  /-- The text starts with a decimal digit. -/
  | digit
  deriving DecidableEq, Repr

/-- The characters that start names. -/
def nameStarts : List Char :=
  "abcdefghijklmnopqrstuvwxyzABCDEFGHIJKLMNOPQRSTUVWXYZ_$".toList

/-- The decimal digits. -/
def digits : List Char := "0123456789".toList

namespace Head

/-- Whether a text starts in a way. -/
def Fits : Head → List Char → Prop
  | .marks known, text => startsWord known = false ∧ known ≠ [] ∧ known <+: text
  | .named word, text => firstWord text = word ∧ startsName word = true
  | .plain, text => startsName text = true ∧ isReserved (firstWord text) = false
  | .digit, text => ∃ c rest, text = c :: rest ∧ c ∈ digits

/-- Whether a text that starts in this way may start with a character of a class. -/
def mayStart (holds : Char → Bool) : Head → Bool
  | .marks known | .named known => known.head?.any holds
  | .plain => nameStarts.any holds
  | .digit => digits.any holds

/-- Whether a text that starts in this way may start with given characters. -/
def maySpell (characters : List Char) : Head → Bool
  | .marks known | .named known =>
    characters.isPrefixOf known || known.isPrefixOf characters
  | .plain => characters.head?.any nameStarts.contains
  | .digit => characters.head?.any digits.contains

/-- Whether the first word of a text that starts in this way may be one of several. -/
def mayName (words : List String) : Head → Bool
  | .marks _ => false
  | .named word => (words.map String.toList).contains word
  | .plain => words.any fun word => !isReserved word.toList
  | .digit => words.any fun word => word.toList.head?.any digits.contains

/-- Whether a text that starts in this way may start with a name. -/
def mayBeName : Head → Bool
  | .plain | .named _ => true
  | .marks _ | .digit => false

/-- Whether a text that starts in this way may start with a name that is not reserved. -/
def mayBeFree : Head → Bool
  | .plain => true
  | .named word => !isReserved word
  | .marks _ | .digit => false

/-- Whether a rule may match and take the first character of a text that starts in this way,
where `follow` decides about the rules that are neither words nor names. -/
def opensRule (head : Head) (follow : Rule → Bool) (rule : Rule) : Bool :=
  if rule.words ≠ [] then head.mayName rule.words
  else if rule = .identifier then head.mayBeFree
  else if rule = .identifierName then head.mayBeName
  else follow rule

/-- Whether an expression may match and take the first character of a text that starts in this
way, where `follow` decides about the rules that are neither words nor names. -/
def opensIn (head : Head) (follow : Rule → Bool) : Peg.Expression Rule → Bool
  | .literal characters => !characters.isEmpty && head.maySpell characters
  | .oneOf holds => head.mayStart holds
  | .atStart | .atEnd | .ahead _ | .notAhead _ => false
  | .seq first second =>
    head.opensIn follow first || (first.isNullable ranking && head.opensIn follow second)
  | .choice first second => head.opensIn follow first || head.opensIn follow second
  | .many body | .maybe body => head.opensIn follow body
  | .call rule => head.opensRule follow rule

/-- Whether an expression may match and take the first character of a text that starts in this
way. Rules are followed to a depth of at most `fuel`. -/
def opens (head : Head) : Nat → Peg.Expression Rule → Bool
  | 0 => head.opensIn fun _ => true
  | fuel + 1 => head.opensIn fun rule => head.opens fuel rule.body

end Head

/-- The characters that start names are known. -/
theorem mem_nameStarts {c : Char} (starts : isIdentifierStart c = true) : c ∈ nameStarts := by
  have listed : ∀ n < 128, isIdentifierStart (Char.ofNat n) = true →
      nameStarts.contains (Char.ofNat n) = true := by
    decide +kernel
  have small : c.toNat < 128 := by
    have alpha : c.isAlpha = (c.isUpper || c.isLower) := rfl
    have upper : c.isUpper = decide ('A'.val ≤ c.val ∧ c.val ≤ 'Z'.val) := rfl
    have lower : c.isLower = (decide ('a'.val ≤ c.val) && decide (c.val ≤ 'z'.val)) := rfl
    simp only [isIdentifierStart, alpha, upper, lower, Bool.or_eq_true, Bool.and_eq_true,
      decide_eq_true_eq, beq_iff_eq] at starts
    rcases starts with ((upper | lower) | rfl) | rfl
    · exact Nat.lt_of_le_of_lt (UInt32.le_iff_toNat_le.mp upper.2) (by decide)
    · exact Nat.lt_of_le_of_lt (UInt32.le_iff_toNat_le.mp lower.2) (by decide)
    · decide
    · decide
  have found := listed c.toNat small
  rw [Char.ofNat_toNat] at found
  exact List.contains_iff_mem.mp (found starts)

/-- No digit is a character that starts names, nor the other way round. -/
theorem startsName_digit {c : Char} (rest : List Char) (digit : c ∈ digits) :
    startsName (c :: rest) = false := by
  have none : ∀ d ∈ digits, isIdentifierStart d = false := forall_of_all (by decide)
  exact none c digit

section

variable {head : Head} {text : List Char}

/-- A literal that a text starts with may be spelled by its beginning. -/
theorem Head.maySpell_of_starts (fits : head.Fits text) {characters : List Char}
    (some : characters ≠ []) (starts : characters <+: text) :
    head.maySpell characters = true := by
  have compare {known : List Char} (known_starts : known <+: text) :
      (characters.isPrefixOf known || known.isPrefixOf characters) = true := by
    rw [Bool.or_eq_true, List.isPrefixOf_iff_prefix, List.isPrefixOf_iff_prefix]
    exact List.prefix_or_prefix_of_prefix starts known_starts
  obtain ⟨c, characters, rfl⟩ := List.exists_cons_of_ne_nil some
  obtain ⟨rest, rfl⟩ := starts
  cases head with
  | marks known => exact compare fits.2.2
  | named word =>
    refine compare ?_
    rw [← fits.1]
    exact List.takeWhile_prefix _
  | plain => exact List.contains_iff_mem.mpr (mem_nameStarts fits.1)
  | digit =>
    obtain ⟨d, others, same, digit⟩ := fits
    cases same
    exact List.contains_iff_mem.mpr digit

/-- A class that the first character of a text is in may be met by its beginning. -/
theorem Head.mayStart_of_holds {c : Char} {rest : List Char} (fits : head.Fits (c :: rest))
    {holds : Char → Bool} (held : holds c = true) : head.mayStart holds = true := by
  cases head with
  | marks known =>
    obtain ⟨_, some, starts⟩ := fits
    obtain ⟨d, others, rfl⟩ := List.exists_cons_of_ne_nil some
    rw [(List.cons_prefix_cons.mp starts).1]
    exact held
  | named word =>
    obtain ⟨rfl, starts⟩ := fits
    rw [firstWord, List.takeWhile_cons] at starts ⊢
    split
    · exact held
    · rename_i lacks
      rw [if_neg lacks] at starts
      cases starts
  | plain => exact List.any_eq_true.mpr ⟨c, mem_nameStarts fits.1, held⟩
  | digit =>
    obtain ⟨d, others, same, digit⟩ := fits
    cases same
    exact List.any_eq_true.mpr ⟨c, digit, held⟩

/-- A word that is the first word of a text may be named by its beginning. -/
theorem Head.mayName_of_mem (fits : head.Fits text) {words : List String}
    (lexicon : IsLexicon (words.map String.toList))
    (known : firstWord text ∈ words.map String.toList) : head.mayName words = true := by
  have named := lexicon.2.1 _ known
  cases head with
  | marks known =>
    obtain ⟨ends, some, starts⟩ := fits
    obtain ⟨c, others, rfl⟩ := List.exists_cons_of_ne_nil some
    obtain ⟨rest, rfl⟩ := starts
    rw [List.cons_append, firstWord, List.takeWhile_cons_of_neg (by simpa [startsWord] using ends)]
      at named
    exact absurd rfl named.1
  | named word =>
    obtain ⟨rfl, _⟩ := fits
    exact List.contains_iff_mem.mpr known
  | plain =>
    obtain ⟨word, member, spelled⟩ := List.mem_map.mp known
    refine List.any_eq_true.mpr ⟨word, member, ?_⟩
    rw [spelled, fits.2]
    rfl
  | digit =>
    obtain ⟨c, rest, rfl, digit⟩ := fits
    obtain ⟨word, member, spelled⟩ := List.mem_map.mp known
    refine List.any_eq_true.mpr ⟨word, member, ?_⟩
    rw [spelled]
    rw [firstWord, List.takeWhile_cons] at named ⊢
    split
    · exact List.contains_iff_mem.mpr digit
    · rename_i lacks
      rw [if_neg lacks] at named
      exact absurd rfl named.1

/-- A text that starts with a name may do so by its beginning. -/
theorem Head.mayBeName_of_startsName (fits : head.Fits text) (name : startsName text = true) :
    head.mayBeName = true := by
  cases head with
  | plain | named word => rfl
  | marks known =>
    obtain ⟨ends, some, starts⟩ := fits
    obtain ⟨c, others, rfl⟩ := List.exists_cons_of_ne_nil some
    obtain ⟨rest, rfl⟩ := starts
    rw [startsWord, ← Bool.not_eq_true] at ends
    exact absurd (isIdentifierChar_of_start name) ends
  | digit =>
    obtain ⟨c, rest, rfl, digit⟩ := fits
    rw [startsName_digit rest digit] at name
    cases name

/-- A text that starts with a name that is not reserved may do so by its beginning. -/
theorem Head.mayBeFree_of_startsName (fits : head.Fits text) (name : startsName text = true)
    (free : isReserved (firstWord text) = false) : head.mayBeFree = true := by
  have named := Head.mayBeName_of_startsName fits name
  cases head with
  | plain => rfl
  | named word => rw [Head.mayBeFree, ← fits.1, free, Bool.not_false]
  | marks known => cases named
  | digit => cases named

/-- A rule matches only where the beginning of the text lets it. -/
theorem Head.opensRule_of_derives {around : Surroundings} {rule : Rule} {place stop : Place}
    {trees : List (Peg.Tree Rule)} (follow : Rule → Bool) (fits : head.Fits place.rest)
    (derived : Derives grammar around (.once (.call rule)) place (some (stop, trees)))
    (followed : follow rule = true) : head.opensRule follow rule = true := by
  rw [Head.opensRule]
  split
  case isTrue some =>
    by_cases known : firstWord place.rest ∈ rule.words.map String.toList
    · exact Head.mayName_of_mem fits (Rule.isWords some).lexicon known
    · exact ((Rejects.words some known).not_derives rfl derived).elim
  case isFalse =>
    split
    case isTrue named =>
      subst named
      cases name : startsName place.rest with
      | false => exact ((Rejects.identifier (.inl name)).not_derives rfl derived).elim
      | true =>
        cases free : isReserved (firstWord place.rest) with
        | false => exact Head.mayBeFree_of_startsName fits name free
        | true => exact ((Rejects.identifier (.inr free)).not_derives rfl derived).elim
    case isFalse =>
      split
      case isTrue named =>
        subst named
        cases name : startsName place.rest with
        | false => exact ((Rejects.identifierName name).not_derives rfl derived).elim
        | true => exact Head.mayBeName_of_startsName fits name
      case isFalse => exact followed

/-- Where nothing has been taken and no blank starts, the text is the same. -/
theorem rest_eq_of_derives {around : Surroundings} {e : Peg.Expression Rule} {place stop : Place}
    {trees : List (Peg.Tree Rule)}
    (derived : Derives grammar around (.once e) place (some (stop, trees)))
    (stays : place.rest.length ≤ stop.rest.length) : stop.rest = place.rest := by
  obtain ⟨taken, takes⟩ := derived.takes ranking_fits.forward
  have none : taken.length = 0 := by
    have lengths := takes.length
    omega
  rw [takes.rest, List.length_eq_zero_iff.mp none, List.nil_append]

/-- What opens a sequence opens its first part, or its second part if the first may be empty. -/
theorem Head.opens_seq (fuel : Nat) (first second : Peg.Expression Rule) :
    head.opens fuel (.seq first second) =
      (head.opens fuel first || (first.isNullable ranking && head.opens fuel second)) := by
  cases fuel <;> rfl

/-- What opens a choice opens one of its parts. -/
theorem Head.opens_choice (fuel : Nat) (first second : Peg.Expression Rule) :
    head.opens fuel (.choice first second) = (head.opens fuel first || head.opens fuel second) := by
  cases fuel <;> rfl

/-- What opens a repetition or an option opens its part. -/
theorem Head.opens_optional (fuel : Nat) (body : Peg.Expression Rule) :
    head.opens fuel (.many body) = head.opens fuel body ∧
      head.opens fuel (.maybe body) = head.opens fuel body := by
  cases fuel <;> exact ⟨rfl, rfl⟩

/-- A rule opens with the beginning of a text that it matches if its body does. -/
theorem Head.opens_call {around : Surroundings} {rule : Rule} {place stop : Place}
    {trees : List (Peg.Tree Rule)} (fits : head.Fits place.rest)
    (derived : Derives grammar around (.once (.call rule)) place (some (stop, trees)))
    (body : ∀ fuel, head.opens fuel rule.body = true) (fuel : Nat) :
    head.opens fuel (.call rule) = true := by
  cases fuel with
  | zero => exact Head.opensRule_of_derives (fun _ => true) fits derived rfl
  | succ fuel =>
    exact Head.opensRule_of_derives (fun rule => head.opens fuel rule.body) fits derived (body fuel)

/-- An expression that takes characters opens with the beginning of the text. -/
theorem Head.opens_of_derives {around : Surroundings} {e : Peg.Expression Rule}
    {place stop : Place} {trees : List (Peg.Tree Rule)}
    (derived : Derives grammar around (.once e) place (some (stop, trees)))
    (ranked : e.isRanked ranking = true) (fits : head.Fits place.rest)
    (settled : startsBlank place.rest = false) (moves : stop.rest.length < place.rest.length) (fuel : Nat) :
    head.opens fuel e = true := by
  generalize result : some (stop, trees) = found at derived
  generalize what : Peg.Phrase.once e = phrase at derived
  induction derived generalizing e stop trees fuel with
  | @literal _ characters place _ next =>
    cases result
    cases what
    have takes := Place.Takes.after next
    have some : characters ≠ [] := by
      rintro rfl
      rw [takes.length] at moves
      exact absurd moves (Nat.lt_irrefl _ ∘ (Nat.zero_add _ ▸ ·))
    have spelled := Head.maySpell_of_starts fits some ⟨_, takes.rest.symm⟩
    have filled : characters.isEmpty = false := by simpa using some
    have opened : (!characters.isEmpty && head.maySpell characters) = true := by
      rw [filled, spelled]
      rfl
    cases fuel <;> exact opened
  | @oneOf _ holds place c _ next held =>
    cases result
    cases what
    have takes := (Place.Takes.next next).rest
    rw [takes] at fits
    have opened := Head.mayStart_of_holds fits held
    cases fuel <;> exact opened
  | callHidden hidden body ih =>
    cases what
    cases result
    refine Head.opens_call fits (.callHidden hidden body) (fun fuel => ?_) fuel
    exact ih (ranking_fits.ranked _) fits settled moves fuel rfl rfl
  | callShown shown body ih =>
    cases what
    cases result
    refine Head.opens_call fits (.callShown shown body) (fun fuel => ?_) fuel
    exact ih (ranking_fits.ranked _) fits settled moves fuel rfl rfl
  | @seq around first second place middle _ _ _ left right leftIH rightIH =>
    cases what
    cases result
    simp only [Peg.Expression.isRanked, Bool.and_eq_true] at ranked
    rw [Head.opens_seq, Bool.or_eq_true, Bool.and_eq_true]
    by_cases takes : middle.rest.length < place.rest.length
    · exact .inl (leftIH ranked.1.1 fits settled takes fuel rfl rfl)
    · have stays := Nat.le_of_not_lt takes
      have here : (grammar.padded around middle).rest = place.rest := by
        rw [padded_rest, rest_eq_of_derives left stays, padded]
        split
        · exact afterBlanks_settled settled
        · rfl
      refine .inr ⟨left.isNullable ranking_fits stays, rightIH ranked.1.2 ?_ ?_ ?_ fuel rfl rfl⟩
      · rw [here]
        exact fits
      · rw [here]
        exact settled
      · rw [here]
        exact moves
  | choiceFirst left ih =>
    cases what
    simp only [Peg.Expression.isRanked, Bool.and_eq_true] at ranked
    rw [Head.opens_choice, Bool.or_eq_true]
    exact .inl (ih ranked.1.1 fits settled moves fuel result rfl)
  | choiceSecond left right _ ih =>
    cases what
    simp only [Peg.Expression.isRanked, Bool.and_eq_true] at ranked
    rw [Head.opens_choice, Bool.or_eq_true]
    exact .inr (ih ranked.1.2 fits settled moves fuel result rfl)
  | @manySome around body place middle _ _ _ one more oneIH moreIH =>
    cases what
    cases result
    simp only [Peg.Expression.isRanked, Bool.and_eq_true, Bool.not_eq_true'] at ranked
    rw [(Head.opens_optional fuel body).1]
    by_cases takes : middle.rest.length < place.rest.length
    · exact oneIH ranked.1.1 fits settled takes fuel rfl rfl
    · have empty := one.isNullable ranking_fits (Nat.le_of_not_lt takes)
      rw [ranked.1.2] at empty
      cases empty
  | @maybeSome _ body _ _ one ih =>
    cases what
    have inner : body.isRanked ranking = true := ranked
    rw [(Head.opens_optional fuel body).2]
    exact ih inner fits settled moves fuel result rfl
  | againNone | againSome => cases what
  | literalFails | oneOfFails | atStartFails | atEndFails | callFails | seqFails | seqFailsLate
    | aheadFails | notAheadFails => cases result
  | _ =>
    cases result
    exact absurd moves (Nat.lt_irrefl _)

/-- An expression that does not open with the beginning of a text rejects the text. -/
theorem Rejects.of_head {around : Surroundings} {e : Peg.Expression Rule} (head : Head)
    (fits : head.Fits text) (settled : startsBlank text = false)
    (ranked : e.isRanked ranking = true) (filled : e.isNullable ranking = false)
    (shut : head.opens 64 e = false) : Rejects around (.once e) text := by
  refine .of_not_derives ranked fun place stop trees here derived => ?_
  subst here
  by_cases moves : stop.rest.length < place.rest.length
  · rw [Head.opens_of_derives derived ranked fits settled moves 64] at shut
    cases shut
  · rw [derived.isNullable ranking_fits (Nat.le_of_not_lt moves)] at filled
    cases filled

end

end PluginSandbox.Syntax
