import Mathlib.Algebra.Group.Nat.Defs
import PluginSandbox.Number.Reading

/-!
# Which literals can be read

Every decimal numeral has a value, however long it is. A hexadecimal literal has one unless the
number is too large.
-/
namespace PluginSandbox.Number

/-- The exponent of a numeral: nothing, or a letter, perhaps a sign, and some digits. -/
def IsExponent (chars : List Char) : Prop :=
  chars = [] ∨ ∃ letter sign digits, chars = letter :: (sign ++ digits) ∧
    (letter = 'e' ∨ letter = 'E') ∧ (sign = [] ∨ sign = ['+'] ∨ sign = ['-']) ∧
      digits ≠ [] ∧ ∀ c ∈ digits, isDigit c = true

/-- A decimal numeral: digits with a fraction or without one, or a fraction alone, and then an
exponent. -/
def IsDecimal (chars : List Char) : Prop :=
  ∃ whole fraction exponent, chars = whole ++ (fraction ++ exponent) ∧
    (∀ c ∈ whole, isDigit c = true) ∧ IsExponent exponent ∧
      (fraction = [] ∧ whole ≠ [] ∨ ∃ digits, fraction = '.' :: digits ∧
        (whole ≠ [] ∨ digits ≠ []) ∧ ∀ c ∈ digits, isDigit c = true)

/-- Digits are taken up to what does not start with one. -/
theorem span_digits {digits rest : List Char} (all : ∀ c ∈ digits, isDigit c = true)
    (ends : rest.head?.any isDigit = false) :
    (digits ++ rest).takeWhile isDigit = digits ∧ (digits ++ rest).dropWhile isDigit = rest := by
  rw [List.takeWhile_append_of_pos all, List.dropWhile_append_of_pos all]
  cases rest with
  | nil => exact ⟨List.append_nil digits, rfl⟩
  | cons c rest =>
    have other : isDigit c = false := ends
    rw [List.takeWhile_cons, List.dropWhile_cons, other]
    exact ⟨List.append_nil digits, rfl⟩

theorem IsExponent.no_digit {chars : List Char} (exponent : IsExponent chars) :
    chars.head?.any isDigit = false := by
  rcases exponent with rfl | ⟨letter, sign, digits, rfl, rfl | rfl, _⟩ <;> rfl

theorem readExponent?_isSome {chars : List Char} (exponent : IsExponent chars) :
    (readExponent? chars).isSome = true := by
  rcases exponent with rfl | ⟨letter, sign, digits, rfl, letters, signs, filled, all⟩
  · rfl
  have known : (digits.isEmpty || !digits.all isDigit) = false := by
    rw [List.all_eq_true.mpr all, Bool.not_true, Bool.or_false]
    exact List.isEmpty_eq_false_iff.mpr filled
  have value (negative : Bool) : (if digits.isEmpty || !digits.all isDigit then none
      else some (if negative then -(ofDigits digits : Int) else ofDigits digits)).isSome =
        true := by
    rw [known]
    rfl
  have unsigned {c : Char} {rest : List Char} (sign : isDigit c = false) : digits ≠ c :: rest := by
    rintro rfl
    exact Bool.false_ne_true (sign.symm.trans (all c List.mem_cons_self))
  have plain : (readExponent? ('e' :: digits)).isSome = true := by
    simp only [readExponent?]
    split
    · exact absurd rfl (unsigned rfl)
    · exact absurd rfl (unsigned rfl)
    · exact value false
  rcases letters with rfl | rfl
  · rcases signs with rfl | rfl | rfl
    · exact plain
    · exact value false
    · exact value true
  · rcases signs with rfl | rfl | rfl
    · exact plain
    · exact value false
    · exact value true

theorem readUnsigned?_isSome {chars : List Char} (decimal : IsDecimal chars) :
    (readUnsigned? chars).isSome = true := by
  obtain ⟨whole, fraction, exponent, rfl, all, ends, parts⟩ := decimal
  obtain ⟨value, same⟩ := Option.isSome_iff_exists.mp (readExponent?_isSome ends)
  rcases parts with ⟨rfl, filled⟩ | ⟨digits, rfl, filled, allDigits⟩
  · have some : whole.isEmpty = false := List.isEmpty_eq_false_iff.mpr filled
    obtain ⟨taken, dropped⟩ := span_digits all ends.no_digit
    rw [List.nil_append, readUnsigned?, taken, dropped, some]
    split
    rename_i _ fraction rest parts
    split at parts
    case h_1 =>
      rcases ends with none | ⟨_, _, _, same, rfl | rfl, _⟩
      · cases none
      · cases same
      · cases same
    case h_2 =>
      cases parts
      rw [same]
      rfl
  · have point : ('.' :: (digits ++ exponent)).head?.any isDigit = false := rfl
    obtain ⟨taken, dropped⟩ := span_digits all point
    obtain ⟨takenLater, droppedLater⟩ := span_digits allDigits ends.no_digit
    have some : (whole.isEmpty && digits.isEmpty) = false := by
      rw [Bool.and_eq_false_iff]
      exact filled.imp List.isEmpty_eq_false_iff.mpr List.isEmpty_eq_false_iff.mpr
    simp only [readUnsigned?, taken, dropped, List.cons_append, takenLater, droppedLater, some,
      same]
    rfl

/-- Nothing else is read as an exponent. -/
theorem isExponent_of_readExponent? {chars : List Char}
    (reads : (readExponent? chars).isSome = true) : IsExponent chars := by
  have known {digits : List Char} {value : Int}
      (reads : (if digits.isEmpty || !digits.all isDigit then none else some value).isSome = true) :
      digits ≠ [] ∧ ∀ c ∈ digits, isDigit c = true := by
    split at reads
    · cases reads
    · rename_i other
      rw [Bool.or_eq_true, not_or, List.isEmpty_iff, Bool.not_eq_true', Bool.not_eq_false] at other
      exact ⟨other.1, List.all_eq_true.mp other.2⟩
  have after {letter : Char} {rest : List Char} (letters : letter = 'e' ∨ letter = 'E')
      (reads : (readExponent? ('e' :: rest)).isSome = true) : IsExponent (letter :: rest) := by
    simp only [readExponent?] at reads
    split at reads
    · obtain ⟨filled, all⟩ := known reads
      exact .inr ⟨letter, ['-'], _, rfl, letters, .inr (.inr rfl), filled, all⟩
    · obtain ⟨filled, all⟩ := known reads
      exact .inr ⟨letter, ['+'], _, rfl, letters, .inr (.inl rfl), filled, all⟩
    · obtain ⟨filled, all⟩ := known reads
      exact .inr ⟨letter, [], _, rfl, letters, .inl rfl, filled, all⟩
  cases chars with
  | nil => exact .inl rfl
  | cons c rest =>
    by_cases lower : c = 'e'
    · subst lower
      exact after (.inl rfl) reads
    · by_cases upper : c = 'E'
      · subst upper
        exact after (.inr rfl) reads
      · unfold readExponent? at reads
        split at reads
        · exact .inl ‹_›
        · exact absurd (List.cons.inj ‹_›).1 lower
        · exact absurd (List.cons.inj ‹_›).1 upper
        · cases reads

/-- Nothing else is read as a decimal numeral. -/
theorem isDecimal_of_readUnsigned? {chars : List Char}
    (reads : (readUnsigned? chars).isSome = true) : IsDecimal chars := by
  have known {whole fraction rest : List Char} {value : Int → Decimal}
      (reads : (if whole.isEmpty && fraction.isEmpty then none
        else (readExponent? rest).bind fun exponent => some (value exponent)).isSome = true) :
      (whole ≠ [] ∨ fraction ≠ []) ∧ IsExponent rest := by
    split at reads
    · cases reads
    · rename_i some
      rw [Bool.and_eq_true, List.isEmpty_iff, List.isEmpty_iff,
        Decidable.not_and_iff_not_or_not] at some
      refine ⟨some, isExponent_of_readExponent? ?_⟩
      cases read : readExponent? rest with
      | none => rw [read] at reads; cases reads
      | some value => rfl
  have digits (chars : List Char) : ∀ c ∈ chars.takeWhile isDigit, isDigit c = true :=
    List.all_eq_true.mp List.all_takeWhile
  have whole : chars.takeWhile isDigit ++ chars.dropWhile isDigit = chars :=
    List.takeWhile_append_dropWhile
  unfold readUnsigned? at reads
  dsimp only at reads
  split at reads
  · rename_i later point
    obtain ⟨some, exponent⟩ := known reads
    refine ⟨_, '.' :: later.takeWhile isDigit, _, ?_, digits chars, exponent,
      .inr ⟨_, rfl, some, digits later⟩⟩
    rw [List.cons_append, List.takeWhile_append_dropWhile, ← point, whole]
  · obtain ⟨some, exponent⟩ := known reads
    have filled : chars.takeWhile isDigit ≠ [] := some.resolve_right fun none => none rfl
    exact ⟨_, [], _, whole.symm, digits chars, exponent, .inl ⟨rfl, filled⟩⟩

/-- The characters of an exponent are digits, signs and its letter. -/
theorem IsExponent.chars {chars : List Char} (exponent : IsExponent chars) :
    ∀ c ∈ chars, isDigit c = true ∨ c ∈ ['e', 'E', '+', '-'] := by
  rcases exponent with rfl | ⟨letter, sign, digits, rfl, letters, signs, _, all⟩
  · nofun
  · intro c member
    rcases List.mem_cons.mp member with rfl | later
    · rcases letters with rfl | rfl <;> exact .inr (by decide)
    · rcases List.mem_append.mp later with first | second
      · rcases signs with rfl | rfl | rfl
        · cases first
        all_goals
          obtain rfl := List.mem_singleton.mp first
          exact .inr (by decide)
      · exact .inl (all c second)

/-- The characters of a decimal numeral are digits, the point and those of an exponent. -/
theorem IsDecimal.chars {chars : List Char} (decimal : IsDecimal chars) :
    ∀ c ∈ chars, isDigit c = true ∨ c ∈ ['.', 'e', 'E', '+', '-'] := by
  obtain ⟨whole, fraction, exponent, rfl, all, ends, parts⟩ := decimal
  intro c member
  rcases List.mem_append.mp member with first | later
  · exact .inl (all c first)
  rcases List.mem_append.mp later with second | third
  · rcases parts with ⟨rfl, _⟩ | ⟨digits, rfl, _, allDigits⟩
    · cases second
    · rcases List.mem_cons.mp second with rfl | inside
      · exact .inr (by decide)
      · exact .inl (allDigits c inside)
  · exact (ends.chars c third).imp id (.tail _)

/-- No character of a decimal numeral is an x. -/
theorem IsDecimal.no_x {chars : List Char} (decimal : IsDecimal chars) :
    ∀ c ∈ chars, c ≠ 'x' ∧ c ≠ 'X' := by
  intro c member
  constructor <;> rintro rfl <;> exact absurd (decimal.chars _ member) (by decide)

/-- A decimal numeral starts with no sign. -/
theorem IsDecimal.no_sign {c : Char} {rest : List Char} (decimal : IsDecimal (c :: rest)) :
    c ≠ '-' ∧ c ≠ '+' := by
  have known : isDigit c = true ∨ c = '.' := by
    obtain ⟨whole, fraction, exponent, same, all, _, parts⟩ := decimal
    cases whole with
    | cons d whole =>
      cases same
      exact .inl (all c List.mem_cons_self)
    | nil =>
      rcases parts with ⟨_, filled⟩ | ⟨digits, rfl, _, _⟩
      · exact absurd rfl filled
      · cases same
        exact .inr rfl
  constructor <;> rintro rfl <;> exact absurd known (by decide)

/-- A decimal numeral is read without a sign. -/
theorem readDecimal?_isSome {chars : List Char} (decimal : IsDecimal chars) :
    (readDecimal? chars).isSome = true := by
  have unsigned := readUnsigned?_isSome decimal
  cases chars using readDecimal?.fun_cases with
  | case1 rest => exact absurd rfl decimal.no_sign.1
  | case2 rest => exact absurd rfl decimal.no_sign.2
  | case3 chars minus plus =>
    rw [readDecimal?, Option.isSome_map]
    · exact unsigned
    · exact minus
    · exact plus

/-- A decimal numeral has a value. -/
theorem readLiteral?_isSome {chars : List Char} (decimal : IsDecimal chars) :
    (readLiteral? chars).isSome = true := by
  have read := readDecimal?_isSome decimal
  cases chars using readLiteral?.fun_cases with
  | case1 rest => exact absurd rfl (decimal.no_x 'x' (by simp)).1
  | case2 rest => exact absurd rfl (decimal.no_x 'X' (by simp)).2
  | case3 chars lower upper =>
    rw [readLiteral?]
    · exact read
    · exact lower
    · exact upper

/-- Hexadecimal digits denote a number. -/
theorem numeral?_isSome {digits : List Char}
    (all : ∀ c ∈ digits, (Text.digitIn? 16 c).isSome = true) :
    (Text.numeral? 16 digits).isSome = true := by
  have fold (start : Option Nat) (known : start.isSome = true) :
      (digits.foldl (fun value c => do return (← value) * 16 + (← Text.digitIn? 16 c))
        start).isSome = true := by
    induction digits generalizing start with
    | nil => exact known
    | cons c rest ih =>
      obtain ⟨value, rfl⟩ := Option.isSome_iff_exists.mp known
      obtain ⟨digit, same⟩ := Option.isSome_iff_exists.mp (all c List.mem_cons_self)
      rw [List.foldl_cons, same]
      exact ih (fun d member => all d (.tail _ member)) _ rfl
  exact fold (some 0) rfl

/-- A hexadecimal literal that has no value is too large. -/
theorem large_of_readLiteral? {x : Char} {digits : List Char} (letter : x = 'x' ∨ x = 'X')
    (filled : digits ≠ []) (all : ∀ c ∈ digits, (Text.digitIn? 16 c).isSome = true)
    (refused : readLiteral? ('0' :: x :: digits) = none) :
    ∃ n, Text.numeral? 16 digits = some n ∧ 2 ^ 64 ≤ n := by
  have refused : readHexadecimal? digits = none := by
    rcases letter with rfl | rfl <;> exact refused
  obtain ⟨n, same⟩ := Option.isSome_iff_exists.mp (numeral?_isSome all)
  refine ⟨n, same, ?_⟩
  have some : digits.isEmpty = false := List.isEmpty_eq_false_iff.mpr filled
  have plain : readHexadecimal? digits =
      if n < 1 <<< 64 then Option.some (Float.ofNat n) else none := by
    simp only [readHexadecimal?]
    split
    next rest => exact absurd (all '+' List.mem_cons_self) (by decide)
    next => rw [some, same]; rfl
  rw [plain] at refused
  refine Nat.le_of_not_lt fun small => ?_
  have bound : n < 1 <<< 64 := small
  rw [if_pos bound] at refused
  cases refused

end PluginSandbox.Number
