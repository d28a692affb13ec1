import PluginSandbox.Proofs.Number.Literals
import PluginSandbox.Proofs.Number.NotANumber
import PluginSandbox.Proofs.Number.Radix
import PluginSandbox.Script.Conversion

/-!
# Texts that convert to numbers

A trimmed text that is blank, an infinity or a decimal numeral with at most one sign, or a
hexadecimal numeral without a sign, converts to a number, unless the hexadecimal numeral needs more
than 64 bits. Of other texts only those do that have one of these forms but for a sign too many:
two before a decimal numeral, one before a hexadecimal numeral, or a plus after its mark.
-/
namespace PluginSandbox.Number

/-- A sign, which may be missing. -/
def IsSign (sign : List Char) : Prop := sign = [] ∨ sign = ['+'] ∨ sign = ['-']

/-- The mark of a hexadecimal numeral. -/
def IsHexMark (mark : List Char) : Prop := mark = ['0', 'x'] ∨ mark = ['0', 'X']

/-- The forms of the texts that denote a number. -/
inductive NumericText : List Char → Prop where
  /-- Nothing. -/
  | empty : NumericText []
  /-- An infinity. -/
  | infinity {sign : List Char} (signed : IsSign sign) : NumericText (sign ++ "Infinity".toList)
  /-- A decimal numeral. -/
  | decimal {sign digits : List Char} (signed : IsSign sign) (decimal : IsDecimal digits) :
    NumericText (sign ++ digits)
  /-- A hexadecimal numeral. -/
  | hexadecimal {mark digits : List Char} (marked : IsHexMark mark) (filled : digits ≠ [])
      (all : ∀ c ∈ digits, (Text.digitIn? 16 c).isSome = true) :
    NumericText (mark ++ digits)

/-- Whether characters are a hexadecimal numeral of a number that 64 bits do not hold. -/
def IsLargeHexadecimal (chars : List Char) : Prop :=
  ∃ mark digits n, chars = mark ++ digits ∧ IsHexMark mark ∧
    Text.numeral? 16 digits = some n ∧ 2 ^ 64 ≤ n

/-- Whether digits are those of a number that 64 bits hold. -/
def IsHexWord (digits : List Char) : Prop :=
  digits ≠ [] ∧ ∃ n, Text.numeral? 16 digits = some n ∧ n < 2 ^ 64

/-- The double that hexadecimal digits without a sign denote. -/
def readHexWord? (digits : List Char) : Option Float :=
  if digits.isEmpty then none
  else
    match Text.numeral? 16 digits with
    | some n => if n < 2 ^ 64 then some (Float.ofNat n) else none
    | none => none

/-- The texts with a sign too many that convert to a number. -/
inductive HasSpareSign : List Char → Prop where
  /-- Two signs stand before a decimal numeral. -/
  | decimal {first second digits : List Char} (outer : IsSign first) (inner : IsSign second)
      (two : first ≠ [] ∧ second ≠ []) (decimal : IsDecimal digits) :
    HasSpareSign (first ++ second ++ digits)
  /-- A sign stands before a hexadecimal numeral, or a plus inside it. -/
  | hexadecimal {sign mark plus digits : List Char} (signed : IsSign sign)
      (marked : IsHexMark mark) (inner : plus = [] ∨ plus = ['+'])
      (some : sign ≠ [] ∨ plus ≠ []) (word : IsHexWord digits) :
    HasSpareSign (sign ++ (mark ++ (plus ++ digits)))

/-- Whether characters start with no sign. -/
def StartsUnsigned (chars : List Char) : Prop :=
  chars.head? ≠ some '-' ∧ chars.head? ≠ some '+'

section

variable {chars : List Char}

/-- Digits without a sign are read if they are those of a number that 64 bits hold. -/
theorem readHexWord?_isSome_iff : (readHexWord? chars).isSome = true ↔ IsHexWord chars := by
  rw [readHexWord?, IsHexWord, Ne, ← List.isEmpty_iff]
  cases chars.isEmpty with
  | true => simp
  | false =>
    cases Text.numeral? 16 chars with
    | none => simp
    | some n => simp

/-- A plus before hexadecimal digits is passed over. -/
theorem readHexadecimal?_of_unsigned (unsigned : ∀ digits, chars ≠ '+' :: digits) :
    readHexadecimal? chars = readHexWord? chars := by
  unfold readHexadecimal?
  split
  · exact absurd rfl (unsigned _)
  · rfl

/-- What is read as hexadecimal digits. -/
theorem readHexadecimal?_isSome_iff : (readHexadecimal? chars).isSome = true ↔
    ∃ plus digits, chars = plus ++ digits ∧ (plus = [] ∨ plus = ['+']) ∧ IsHexWord digits := by
  constructor
  · intro reads
    by_cases signed : ∃ digits, chars = '+' :: digits
    · obtain ⟨digits, rfl⟩ := signed
      exact ⟨['+'], digits, rfl, .inr rfl, readHexWord?_isSome_iff.mp reads⟩
    · rw [readHexadecimal?_of_unsigned fun digits same => signed ⟨digits, same⟩] at reads
      exact ⟨[], chars, rfl, .inl rfl, readHexWord?_isSome_iff.mp reads⟩
  · rintro ⟨plus, digits, rfl, rfl | rfl, word⟩
    · have unsigned : ∀ rest, [] ++ digits ≠ '+' :: rest := by
        rintro rest rfl
        obtain ⟨_, n, reads, _⟩ := word
        obtain ⟨value, digit⟩ := digits_of_numeral? reads '+' List.mem_cons_self
        exact absurd rfl (Text.solid_of_digitIn? digit).2.2.2
      rw [readHexadecimal?_of_unsigned unsigned]
      exact readHexWord?_isSome_iff.mpr word
    · exact readHexWord?_isSome_iff.mpr word

/-- What is read as a decimal numeral. -/
theorem readDecimal?_isSome_iff : (readDecimal? chars).isSome = true ↔
    ∃ sign digits, chars = sign ++ digits ∧ IsSign sign ∧ IsDecimal digits := by
  constructor
  · intro reads
    cases chars using readDecimal?.fun_cases with
    | case1 rest =>
      rw [readDecimal?, Option.isSome_map] at reads
      exact ⟨['-'], rest, rfl, .inr (.inr rfl), isDecimal_of_readUnsigned? reads⟩
    | case2 rest =>
      rw [readDecimal?, Option.isSome_map] at reads
      exact ⟨['+'], rest, rfl, .inr (.inl rfl), isDecimal_of_readUnsigned? reads⟩
    | case3 chars minus plus =>
      rw [readDecimal?, Option.isSome_map] at reads
      · exact ⟨[], chars, rfl, .inl rfl, isDecimal_of_readUnsigned? reads⟩
      · exact minus
      · exact plus
  · rintro ⟨sign, digits, rfl, signed, decimal⟩
    have unsigned := readUnsigned?_isSome decimal
    rcases signed with rfl | rfl | rfl
    · exact readDecimal?_isSome decimal
    · change ((readUnsigned? digits).map Decimal.toFloat).isSome = true
      rw [Option.isSome_map, unsigned]
    · change ((readUnsigned? digits).map fun d => -d.toFloat).isSome = true
      rw [Option.isSome_map, unsigned]

/-- What is read as a literal. -/
theorem readLiteral?_isSome_iff : (readLiteral? chars).isSome = true ↔
    (∃ sign digits, chars = sign ++ digits ∧ IsSign sign ∧ IsDecimal digits) ∨
    ∃ mark plus digits, chars = mark ++ (plus ++ digits) ∧ IsHexMark mark ∧
      (plus = [] ∨ plus = ['+']) ∧ IsHexWord digits := by
  constructor
  · intro reads
    cases chars using readLiteral?.fun_cases with
    | case1 rest =>
      obtain ⟨plus, digits, rfl, inner, word⟩ := readHexadecimal?_isSome_iff.mp reads
      exact .inr ⟨['0', 'x'], plus, digits, rfl, .inl rfl, inner, word⟩
    | case2 rest =>
      obtain ⟨plus, digits, rfl, inner, word⟩ := readHexadecimal?_isSome_iff.mp reads
      exact .inr ⟨['0', 'X'], plus, digits, rfl, .inr rfl, inner, word⟩
    | case3 chars lower upper =>
      rw [readLiteral?] at reads
      · exact .inl (readDecimal?_isSome_iff.mp reads)
      · exact lower
      · exact upper
  · rintro (⟨sign, digits, rfl, signed, decimal⟩ | ⟨mark, plus, digits, rfl, marked, inner, word⟩)
    · rcases signed with rfl | rfl | rfl
      · exact readLiteral?_isSome decimal
      · exact readDecimal?_isSome_iff.mpr ⟨['+'], digits, rfl, .inr (.inl rfl), decimal⟩
      · exact readDecimal?_isSome_iff.mpr ⟨['-'], digits, rfl, .inr (.inr rfl), decimal⟩
    · have reads := readHexadecimal?_isSome_iff.mpr ⟨plus, digits, rfl, inner, word⟩
      rcases marked with rfl | rfl <;> exact reads

/-- Digits of numerals may stand in the text of a number. -/
theorem isNumeralChar_of_digit {c : Char} (digit : (Text.digitIn? 16 c).isSome = true) :
    isNumeralChar c = true := by
  have each : ∀ code < 128, (Text.digitIn? 16 (Char.ofNat code)).isSome = true →
      isNumeralChar (Char.ofNat code) = true := by
    decide
  obtain ⟨value, reads⟩ := Option.isSome_iff_exists.mp digit
  have bounds := Text.bounds_of_digitValue? (Option.filter_eq_some_iff.mp reads).1
  rw [← Char.ofNat_toNat c] at digit ⊢
  exact each c.toNat (by omega) digit

theorem isNumeralChar_of_isDigit {c : Char} (digit : isDigit c = true) :
    isNumeralChar c = true := by
  have each : ∀ code < 128, isDigit (Char.ofNat code) = true →
      isNumeralChar (Char.ofNat code) = true := by
    decide
  have bounds : '0'.toNat ≤ c.toNat ∧ c.toNat ≤ '9'.toNat := by
    simpa [isDigit, Char.le_def, UInt32.le_iff_toNat_le] using digit
  have high : c.toNat ≤ 57 := bounds.2
  rw [← Char.ofNat_toNat c] at digit ⊢
  exact each c.toNat (by omega) digit

/-- A literal has no letters but those of numerals. -/
theorem isNumeralChar_of_readLiteral? (reads : (readLiteral? chars).isSome = true) :
    chars.all isNumeralChar = true := by
  rcases readLiteral?_isSome_iff.mp reads with
    ⟨sign, digits, rfl, signed, decimal⟩ | ⟨mark, plus, digits, rfl, marked, inner, _, n, word, _⟩
  · rw [List.all_append, Bool.and_eq_true]
    constructor
    · rcases signed with rfl | rfl | rfl <;> decide
    · rw [List.all_eq_true]
      intro c member
      rcases decimal.chars c member with digit | other
      · exact isNumeralChar_of_isDigit digit
      · have each : ['.', 'e', 'E', '+', '-'].all isNumeralChar = true := by decide
        exact List.all_eq_true.mp each c other
  · rw [List.all_append, List.all_append, Bool.and_eq_true, Bool.and_eq_true]
    refine ⟨?mark, ?plus, ?digits⟩
    case mark => rcases marked with rfl | rfl <;> decide
    case plus => rcases inner with rfl | rfl <;> decide
    case digits =>
      rw [List.all_eq_true]
      intro c member
      obtain ⟨value, digit⟩ := digits_of_numeral? word c member
      exact isNumeralChar_of_digit (by rw [digit]; rfl)

/-- A literal denotes a number. -/
theorem isNaN_of_readLiteral? {value : Float} (reads : readLiteral? chars = some value) :
    value.isNaN = false := by
  have decimal {chars : List Char} (reads : readDecimal? chars = some value) :
      value.isNaN = false := by
    unfold readDecimal? at reads
    split at reads
    all_goals
      obtain ⟨d, _, rfl⟩ := Option.map_eq_some_iff.mp reads
    · rw [isNaN_neg]
      exact d.isNaN_toFloat
    · exact d.isNaN_toFloat
    · exact d.isNaN_toFloat
  have word {chars : List Char} (reads : readHexWord? chars = some value) :
      value.isNaN = false := by
    unfold readHexWord? at reads
    split at reads
    · cases reads
    · split at reads
      · split at reads
        · cases reads
          exact isNaN_ofNat _
        · cases reads
      · cases reads
  have hexadecimal {chars : List Char} (reads : readHexadecimal? chars = some value) :
      value.isNaN = false := by
    by_cases signed : ∃ digits, chars = '+' :: digits
    · obtain ⟨digits, rfl⟩ := signed
      have plain : readHexWord? digits = some value := reads
      exact word plain
    · rw [readHexadecimal?_of_unsigned fun digits same => signed ⟨digits, same⟩] at reads
      exact word reads
  unfold readLiteral? at reads
  split at reads
  · exact hexadecimal reads
  · exact hexadecimal reads
  · exact decimal reads

/-- The digits of a text after its sign convert to a number if they are a literal. -/
theorem isNaN_literal {factor : Float} (one : factor = 1.0 ∨ factor = -1.0) :
    (if chars.all isNumeralChar then
        match readLiteral? chars with
        | some value => factor * value
        | none => nan
      else nan).isNaN = false ↔ (readLiteral? chars).isSome = true := by
  have none : nan.isNaN = true := by rfl
  cases read : readLiteral? chars with
  | none =>
    dsimp only
    rw [ite_self, none, Option.isSome_none]
    exact ⟨fun impossible => absurd impossible (by decide),
      fun impossible => absurd impossible (by decide)⟩
  | some value =>
    have known := isNumeralChar_of_readLiteral? (Option.isSome_iff_exists.mpr ⟨value, read⟩)
    rw [if_pos known]
    dsimp only
    rw [isNaN_factor one, isNaN_of_readLiteral? read]
    exact ⟨fun _ => rfl, fun _ => rfl⟩

/-- A text without its sign converts to a number if it is blank, an infinity or a literal. -/
theorem isNaN_ofText (text : String) :
    ∃ sign digits, (Text.trim text).toList = sign ++ digits ∧ IsSign sign ∧
      (sign = [] → StartsUnsigned digits) ∧
      ((ofText text).isNaN = false ↔ (Text.trim text).toList = [] ∨
        digits = "Infinity".toList ∨ (readLiteral? digits).isSome = true) := by
  rw [ofText]
  generalize (Text.trim text).toList = chars
  have zero : (0.0 : Float).isNaN = false := by rfl
  have infinite : infinity.isNaN = false ∧ (-infinity).isNaN = false := ⟨rfl, rfl⟩
  have plain : "Infinity".toList = 'I' :: "nfinity".toList := rfl
  have positive : "+Infinity".toList = '+' :: "Infinity".toList := rfl
  have negative : "-Infinity".toList = '-' :: "Infinity".toList := rfl
  cases chars with
  | nil =>
    exact ⟨[], [], rfl, .inl rfl, fun _ => ⟨by decide, by decide⟩, fun _ => .inl rfl, fun _ => zero⟩
  | cons c rest =>
    dsimp only
    rw [positive, negative]
    by_cases minus : c = '-'
    · subst minus
      refine ⟨['-'], rest, rfl, .inr (.inr rfl), nofun, ?_⟩
      have other : ¬(decide ('-' :: rest = "Infinity".toList) ||
          decide ('-' :: rest = '+' :: "Infinity".toList)) = true := by
        rw [plain]
        simp
      rw [or_iff_right (List.cons_ne_nil _ _), if_neg other]
      by_cases same : rest = "Infinity".toList
      · rw [if_pos (congrArg (List.cons '-') same)]
        exact ⟨fun _ => .inl same, fun _ => infinite.2⟩
      · rw [if_neg fun both => same (List.cons.inj both).2, or_iff_right same]
        exact isNaN_literal (.inr rfl)
    · have different : c :: rest ≠ '-' :: "Infinity".toList :=
        fun same => minus (List.cons.inj same).1
      by_cases plus : c = '+'
      · subst plus
        refine ⟨['+'], rest, rfl, .inr (.inl rfl), nofun, ?_⟩
        rw [or_iff_right (List.cons_ne_nil _ _)]
        by_cases same : rest = "Infinity".toList
        · have found : (decide ('+' :: rest = "Infinity".toList) ||
              decide ('+' :: rest = '+' :: "Infinity".toList)) = true := by
            rw [same, decide_eq_true rfl, Bool.or_true]
          rw [if_pos found]
          exact ⟨fun _ => .inl same, fun _ => infinite.1⟩
        · have other : ¬(decide ('+' :: rest = "Infinity".toList) ||
              decide ('+' :: rest = '+' :: "Infinity".toList)) = true := by
            rw [decide_eq_false fun both => same (List.cons.inj both).2, plain]
            simp
          rw [if_neg other, if_neg different, or_iff_right same]
          exact isNaN_literal (.inl rfl)
      · refine ⟨[], c :: rest, rfl, .inl rfl,
          fun _ => ⟨by simpa using minus, by simpa using plus⟩, ?_⟩
        rw [or_iff_right (List.cons_ne_nil _ _)]
        by_cases same : c :: rest = "Infinity".toList
        · rw [decide_eq_true same, Bool.true_or, if_pos rfl]
          exact ⟨fun _ => .inl same, fun _ => infinite.1⟩
        · have other : ¬(decide (c :: rest = "Infinity".toList) ||
              decide (c :: rest = '+' :: "Infinity".toList)) = true := by
            rw [decide_eq_false same, decide_eq_false fun both => plus (List.cons.inj both).1]
            decide
          rw [if_neg other, if_neg different, or_iff_right same]
          split
          · exact absurd (List.cons.inj ‹_›).1 minus
          · exact absurd (List.cons.inj ‹_›).1 plus
          · exact isNaN_literal (.inl rfl)

end

/-- A text has one sign at its start at most. -/
theorem IsSign.unique {sign other digits rest : List Char} (signed : IsSign sign)
    (signedOther : IsSign other) (first : sign = [] → StartsUnsigned digits)
    (firstOther : other = [] → StartsUnsigned rest) (same : sign ++ digits = other ++ rest) :
    sign = other ∧ digits = rest := by
  rcases signed with rfl | rfl | rfl <;> rcases signedOther with rfl | rfl | rfl
  · exact ⟨rfl, same⟩
  · rw [List.nil_append] at same
    exact absurd (by rw [same]; rfl) (first rfl).2
  · rw [List.nil_append] at same
    exact absurd (by rw [same]; rfl) (first rfl).1
  · rw [List.nil_append] at same
    exact absurd (by rw [← same]; rfl) (firstOther rfl).2
  · exact ⟨rfl, (List.cons.inj same).2⟩
  · exact absurd (List.cons.inj same).1 (by decide)
  · rw [List.nil_append] at same
    exact absurd (by rw [← same]; rfl) (firstOther rfl).1
  · exact absurd (List.cons.inj same).1 (by decide)
  · exact ⟨rfl, (List.cons.inj same).2⟩

/-- A decimal numeral starts with no sign. -/
theorem IsDecimal.unsigned {digits : List Char} (decimal : IsDecimal digits) :
    StartsUnsigned digits := by
  cases digits with
  | nil => exact ⟨by decide, by decide⟩
  | cons c rest =>
    obtain ⟨minus, plus⟩ := decimal.no_sign
    exact ⟨fun same => minus (Option.some.inj same), fun same => plus (Option.some.inj same)⟩

/-- The mark of a hexadecimal numeral starts with no sign. -/
theorem IsHexMark.unsigned {mark rest : List Char} (marked : IsHexMark mark) :
    StartsUnsigned (mark ++ rest) := by
  rcases marked with rfl | rfl <;> simp [StartsUnsigned]

/-- A hexadecimal numeral starts with the digit zero. -/
theorem IsHexMark.head {mark rest : List Char} (marked : IsHexMark mark) :
    (mark ++ rest).head? = some '0' := by
  rcases marked with rfl | rfl <;> rfl

/-- Hexadecimal marks are equally long. -/
theorem IsHexMark.unique {mark other digits rest : List Char} (marked : IsHexMark mark)
    (markedOther : IsHexMark other) (same : mark ++ digits = other ++ rest) : digits = rest := by
  rcases marked with rfl | rfl <;> rcases markedOther with rfl | rfl
  all_goals exact (List.cons.inj (List.cons.inj same).2).2

/-- A hexadecimal numeral is no decimal one. -/
theorem IsHexMark.not_decimal {mark sign digits rest : List Char} (marked : IsHexMark mark)
    (signed : IsSign sign) (decimal : IsDecimal digits) (same : sign ++ digits = mark ++ rest) :
    False := by
  obtain ⟨_, rfl⟩ := signed.unique (.inl rfl) (fun _ => decimal.unsigned)
    (fun _ => marked.unsigned) same
  rcases marked with rfl | rfl
  · exact (decimal.no_x 'x' (by simp)).1 rfl
  · exact (decimal.no_x 'X' (by simp)).2 rfl

section

variable {sign digits : List Char}

/-- Literals have the forms of numeric texts or a sign too many. -/
theorem forms_of_literal (signed : IsSign sign) (unsigned : sign = [] → StartsUnsigned digits)
    (reads : (readLiteral? digits).isSome = true) :
    (NumericText (sign ++ digits) ∧ ¬IsLargeHexadecimal (sign ++ digits)) ∨
      HasSpareSign (sign ++ digits) := by
  rcases readLiteral?_isSome_iff.mp reads with ⟨inner, decimal, rfl, signedInner, isDecimal⟩ |
    ⟨mark, plus, digits, rfl, marked, inner, word⟩
  · by_cases none : inner = []
    · subst none
      refine .inl ⟨.decimal signed isDecimal, ?_⟩
      rintro ⟨mark, rest, n, same, marked, _⟩
      exact marked.not_decimal signed isDecimal same
    · have outer : sign ≠ [] := by
        intro missing
        obtain ⟨minus, plus⟩ := unsigned missing
        rcases signedInner with rfl | rfl | rfl
        · exact none rfl
        · exact plus rfl
        · exact minus rfl
      rw [← List.append_assoc]
      exact .inr (.decimal signed signedInner ⟨outer, none⟩ isDecimal)
  · by_cases spare : sign ≠ [] ∨ plus ≠ []
    · exact .inr (.hexadecimal signed marked inner spare word)
    · rw [not_or, not_not, not_not] at spare
      obtain ⟨rfl, rfl⟩ := spare
      obtain ⟨filled, n, value, small⟩ := word
      have all : ∀ c ∈ digits, (Text.digitIn? 16 c).isSome = true := by
        intro c member
        obtain ⟨_, digit⟩ := digits_of_numeral? value c member
        rw [digit]
        rfl
      rw [List.nil_append, List.nil_append]
      refine .inl ⟨.hexadecimal marked filled all, ?_⟩
      rintro ⟨other, rest, m, same, markedOther, valueOther, large⟩
      rw [← marked.unique markedOther same, value] at valueOther
      cases valueOther
      omega

/-- Numeric texts and those with a sign too many are blank, infinities or literals. -/
theorem literal_of_forms (signed : IsSign sign) (unsigned : sign = [] → StartsUnsigned digits)
    (forms : (NumericText (sign ++ digits) ∧ ¬IsLargeHexadecimal (sign ++ digits)) ∨
      HasSpareSign (sign ++ digits)) :
    sign ++ digits = [] ∨ digits = "Infinity".toList ∨ (readLiteral? digits).isSome = true := by
  rw [readLiteral?_isSome_iff]
  generalize same : sign ++ digits = chars at forms
  rcases forms with ⟨numeric, small⟩ | spare
  · cases numeric with
    | empty => exact .inl rfl
    | infinity signedOther =>
      obtain ⟨_, rfl⟩ := signed.unique signedOther unsigned
        (fun _ => ⟨by decide, by decide⟩) same
      exact .inr (.inl rfl)
    | decimal signedOther decimal =>
      obtain ⟨_, rfl⟩ := signed.unique signedOther unsigned (fun _ => decimal.unsigned) same
      exact .inr (.inr (.inl ⟨[], _, rfl, .inl rfl, decimal⟩))
    | hexadecimal marked filled all =>
      obtain ⟨_, rfl⟩ := signed.unique (.inl rfl) unsigned (fun _ => marked.unsigned) same
      obtain ⟨n, value⟩ := Option.isSome_iff_exists.mp (numeral?_isSome all)
      have word : n < 2 ^ 64 :=
        Nat.lt_of_not_le fun large => small ⟨_, _, n, rfl, marked, value, large⟩
      exact .inr (.inr (.inr ⟨_, [], _, rfl, marked, .inl rfl, filled, n, value, word⟩))
  · cases spare with
    | decimal outer inner two decimal =>
      rw [List.append_assoc] at same
      obtain ⟨_, rfl⟩ := signed.unique outer unsigned (fun none => absurd none two.1) same
      exact .inr (.inr (.inl ⟨_, _, rfl, inner, decimal⟩))
    | hexadecimal signedOther marked inner spare word =>
      obtain ⟨_, rfl⟩ := signed.unique signedOther unsigned (fun _ => marked.unsigned) same
      exact .inr (.inr (.inr ⟨_, _, _, rfl, marked, inner, word⟩))

end

end PluginSandbox.Number

namespace PluginSandbox.Script

open Number (NumericText IsLargeHexadecimal HasSpareSign)

/-- Which texts convert to numbers.

A text converts to a number exactly if, without the blank characters at its ends, it is nothing, an
infinity or a decimal numeral with at most one sign, or a hexadecimal numeral of a number that 64
bits hold, or has a sign too many for one of the numerals: two before a decimal one, one before a
hexadecimal one, or a plus after its mark. -/
theorem Heap.numberOf_text_iff (heap : Heap) (text : String) :
    (heap.numberOf (.text text)).isNaN = false ↔
      (NumericText (Text.trim text).toList ∧ ¬IsLargeHexadecimal (Text.trim text).toList) ∨
        HasSpareSign (Text.trim text).toList := by
  obtain ⟨sign, digits, split, signed, unsigned, converts⟩ := Number.isNaN_ofText text
  change (Number.ofText text).isNaN = false ↔ _
  rw [converts, split]
  constructor
  · rintro (none | rfl | reads)
    · refine .inl ⟨by rw [none]; exact .empty, ?_⟩
      rintro ⟨mark, rest, n, same, marked, _⟩
      have head : (mark ++ rest).head? = some '0' := marked.head
      rw [← same, none] at head
      cases head
    · refine .inl ⟨.infinity signed, ?_⟩
      rintro ⟨mark, rest, n, same, marked, _⟩
      have head : (mark ++ rest).head? = some '0' := marked.head
      rw [← same] at head
      rcases signed with rfl | rfl | rfl <;> exact absurd head (by decide)
    · exact Number.forms_of_literal signed unsigned reads
  · exact Number.literal_of_forms signed unsigned

/-- A sign too many does not make a text no number, though its form is not that of one: `--5`
converts to a number. -/
theorem Heap.numberOf_two_signs :
    (({} : Heap).numberOf (.text "--5")).isNaN = false ∧
      ¬NumericText (Text.trim "--5").toList := by
  refine ⟨by rfl, ?_⟩
  have chars : (Text.trim "--5").toList = ['-'] ++ ['-', '5'] := by rfl
  rw [chars]
  generalize same : ['-'] ++ ['-', '5'] = chars
  intro numeric
  cases numeric with
  | empty => cases same
  | infinity signed =>
    rcases signed with rfl | rfl | rfl <;> exact absurd same (by decide)
  | decimal signed decimal =>
    obtain ⟨_, rfl⟩ := signed.unique (.inr (.inr rfl)) (fun _ => decimal.unsigned) nofun same.symm
    exact decimal.no_sign.1 rfl
  | @hexadecimal mark digits marked =>
    have unsigned : Number.StartsUnsigned (mark ++ digits) := marked.unsigned
    rw [← same] at unsigned
    exact unsigned.1 rfl

end PluginSandbox.Script
