import PluginSandbox.Proofs.Syntax.Operations

/-!
# Printed operations

What the characters of a printed operation start with, by its strength, and that they fall into
whole tokens. The beginning tells which readings of a printed operation are out of the question.
-/
namespace PluginSandbox.Syntax

/-- Whether a text starts in one of several ways. -/
def StartsIn (heads : List Head) (text : List Char) : Prop := ∃ head ∈ heads, head.Fits text

/-- Whether no blank starts where a text starts in this way. -/
def Head.isSettled : Head → Bool
  | .marks known => known ≠ [] && known ≠ ['/'] && !startsBlank known
  | .named _ | .plain | .digit => true

section

variable {head : Head} {heads others : List Head} {text : List Char}

/-- No blank starts where a name does. -/
theorem settled_of_name (name : startsName text = true) : startsBlank text = false := by
  cases text with
  | nil => cases name
  | cons c rest => exact settled_of_word (isIdentifierChar_of_start name)

/-- No blank starts where a text starts in some ways. -/
theorem Head.settled (fits : head.Fits text) (settled : head.isSettled = true) :
    startsBlank text = false := by
  cases head with
  | marks known =>
    obtain ⟨_, _, rest, rfl⟩ := fits
    simp only [isSettled, Bool.and_eq_true, decide_eq_true_eq, ne_eq, Bool.not_eq_true'] at settled
    rw [startsBlank_append settled.1.1 settled.1.2, settled.2]
  | named word =>
    refine settled_of_name ?_
    obtain ⟨rfl, starts⟩ := fits
    cases text with
    | nil => cases starts
    | cons c rest =>
      rw [firstWord, List.takeWhile_cons] at starts
      split at starts
      · exact starts
      · cases starts
  | plain => exact settled_of_name fits.1
  | digit =>
    obtain ⟨c, rest, rfl, digit⟩ := fits
    have words : ∀ d ∈ digits, isIdentifierChar d = true := forall_of_all (by decide)
    exact settled_of_word (words c digit)

/-- More ways to start allow more texts. -/
theorem StartsIn.mono (starts : StartsIn heads text) (all : heads ⊆ others) :
    StartsIn others text := by
  obtain ⟨head, member, fits⟩ := starts
  exact ⟨head, all member, fits⟩

/-- No blank starts where a text starts in some ways. -/
theorem StartsIn.settled (starts : StartsIn heads text)
    (settled : heads.all Head.isSettled = true) : startsBlank text = false := by
  obtain ⟨head, member, fits⟩ := starts
  exact head.settled fits (List.all_eq_true.mp settled head member)

/-- An expression that opens with none of several beginnings rejects the texts with them. -/
theorem Rejects.of_heads {around : Peg.Surroundings} {e : Peg.Expression Rule}
    (starts : StartsIn heads text)
    (shut : (heads.all fun head => head.isSettled && !head.opens 64 e) = true)
    (ranked : e.isRanked ranking = true) (filled : e.isNullable ranking = false) :
    Rejects around (.once e) text := by
  obtain ⟨head, member, fits⟩ := starts
  have both := List.all_eq_true.mp shut head member
  rw [Bool.and_eq_true, Bool.not_eq_true'] at both
  exact .of_head head fits (head.settled fits both.1) ranked filled both.2

end

/-- How an access, a call or anything stronger may start, if it starts with no variable. -/
def closedHeads : List Head :=
  [.marks ['('], .marks ['['], .marks ['"'], .marks ['\x60'], .digit, .named "this".toList,
    .named "null".toList, .named "true".toList, .named "false".toList]

/-- How an access, a call or anything stronger may start. -/
def objectHeads : List Head := closedHeads ++ [.plain]

/-- How a change by one may start, besides. -/
def updateHeads : List Head := [.marks "++".toList, .marks "--".toList]

/-- How a prefix operation may start, besides. -/
def unaryHeads : List Head :=
  [.marks ['-'], .marks ['+'], .marks ['!'], .marks ['~'], .named "typeof".toList,
    .named "void".toList, .named "delete".toList, .named "await".toList]

/-- How a printed operation of at least a strength may start. -/
def headsFrom (strength : Nat) : List Head :=
  if callStrength ≤ strength then objectHeads
  else if updateStrength ≤ strength then updateHeads ++ objectHeads
  else unaryHeads ++ updateHeads ++ objectHeads

/-- Every operation may start as a strong one does. -/
theorem objectHeads_subset (strength : Nat) : objectHeads ⊆ headsFrom strength := by
  rw [headsFrom]
  split
  case isTrue => exact List.Subset.refl _
  case isFalse =>
    split
    case isTrue => exact List.subset_append_right _ _
    case isFalse => exact List.subset_append_right _ _

/-- A weaker operation may start in more ways. -/
theorem headsFrom_subset {weak strong : Nat} (le : weak ≤ strong) :
    headsFrom strong ⊆ headsFrom weak := by
  by_cases call : callStrength ≤ strong
  · rw [headsFrom, if_pos call]
    exact objectHeads_subset weak
  · have weakCall : ¬ callStrength ≤ weak := fun other => call (Nat.le_trans other le)
    by_cases update : updateStrength ≤ strong
    · rw [headsFrom, if_neg call, if_pos update, headsFrom, if_neg weakCall]
      split
      case isTrue => exact List.Subset.refl _
      case isFalse =>
        rw [List.append_assoc]
        exact List.subset_append_right _ _
    · have weakUpdate : ¬ updateStrength ≤ weak := fun other => update (Nat.le_trans other le)
      rw [headsFrom, if_neg call, if_neg update, headsFrom, if_neg weakCall, if_neg weakUpdate]
      exact List.Subset.refl _

section

variable {e : Expr} {rest : List Char}

/-- The characters of a name start one and go on with it. -/
theorem isIdentifierName_word {name : String} (named : isIdentifierName name = true) :
    startsName name.toList = true ∧ name.toList.all isIdentifierChar = true := by
  rw [isIdentifierName] at named
  cases spelling : name.toList with
  | nil =>
    rw [spelling] at named
    cases named
  | cons c others =>
    rw [spelling, Bool.and_eq_true] at named
    rw [List.all_cons, isIdentifierChar_of_start named.1, named.2]
    exact ⟨named.1, rfl⟩

/-- The decimal digits are known. -/
theorem mem_digits {c : Char} (digit : c.isDigit = true) : c ∈ digits := by
  have listed : ∀ n < 128, (Char.ofNat n).isDigit = true → digits.contains (Char.ofNat n) = true := by
    decide
  have small : c.toNat < 128 := by
    simp only [Char.isDigit, Bool.and_eq_true, decide_eq_true_eq] at digit
    exact Nat.lt_of_le_of_lt (UInt32.le_iff_toNat_le.mp digit.2) (by decide)
  have found := listed c.toNat small
  rw [Char.ofNat_toNat] at found
  exact List.contains_iff_mem.mp (found digit)

/-- A word that ends is how a text may start. -/
theorem Head.named_fits {word : List Char} (isWord : word.all isIdentifierChar = true)
    (starts : startsName word = true) (ends : startsWord rest = false) :
    (Head.named word).Fits (word ++ rest) :=
  ⟨firstWord_append isWord ends, starts⟩

/-- Marks are how a text may start. -/
theorem Head.marks_fits {known : List Char} (marks : startsWord known = false)
    (filled : known ≠ []) (rest : List Char) : (Head.marks known).Fits (known ++ rest) :=
  ⟨marks, filled, List.prefix_append _ _⟩

/-- A text that starts as a strong operation does starts as any operation may. -/
theorem startsIn_object (head : Head) {text : List Char} (member : head ∈ objectHeads)
    (fits : head.Fits text) (needed : Nat) : StartsIn (headsFrom needed) text :=
  ⟨head, objectHeads_subset needed member, fits⟩

/-- An operation in parentheses starts with one. -/
theorem startsIn_wrapped (needed : Nat) (e : Expr) (rest : List Char) :
    StartsIn (headsFrom needed) (inParentheses e.characters ++ rest) :=
  startsIn_object (.marks ['(']) (by decide)
    (Head.marks_fits rfl (by decide) (e.characters ++ [')'] ++ rest)) needed

/-- Where a strength is needed, an operation starts as one of that strength. -/
theorem startsIn_wrappedIf {needed : Nat} {wrapped : Bool}
    (strong : wrapped = false → needed ≤ e.strength)
    (starts : StartsIn (headsFrom e.strength) (e.characters ++ rest)) :
    StartsIn (headsFrom needed) (e.wrappedIf wrapped ++ rest) := by
  cases wrapped with
  | true => exact startsIn_wrapped needed e rest
  | false => exact starts.mono (headsFrom_subset (strong rfl))

/-- An object that is not in parentheses is a call or stronger. -/
theorem strength_of_object (bare : e.isWrappedObject = false) : callStrength ≤ e.strength := by
  unfold Expr.isWrappedObject at bare
  split at bare
  · cases bare
  · exact Nat.not_lt.mp (of_decide_eq_false bare)

/-- An operand that is not in parentheses is as strong as it needs to be. -/
theorem strength_of_bare {strength needed : Nat} (bare : decide (strength < needed) = false) :
    needed ≤ strength :=
  Nat.not_lt.mp (of_decide_eq_false bare)

/-- The characters of a variable form a name that is not reserved. -/
theorem isVariable_word {name : String} (named : isVariable name = true) :
    startsName name.toList = true ∧ name.toList.all isIdentifierChar = true ∧
      isReserved name.toList = false := by
  rw [isVariable, Bool.and_eq_true, Bool.not_eq_true'] at named
  obtain ⟨isName, free⟩ := named
  exact ⟨(isIdentifierName_word isName).1, (isIdentifierName_word isName).2, free⟩

/-- A word for a constant starts one. -/
theorem startsIn_word (word : String) (listed : .named word.toList ∈ closedHeads)
    (isWord : word.toList.all isIdentifierChar = true) (starts : startsName word.toList = true)
    (ends : startsWord rest = false) : StartsIn closedHeads (word.toList ++ rest) :=
  ⟨_, listed, Head.named_fits isWord starts ends⟩

/-- The characters of a truth value. -/
theorem characters_boolean (value : Bool) :
    (Expr.literal (.boolean value)).characters = (if value then "true" else "false").toList := by
  rw [Expr.characters, Expr.render, Literal.render]

/-- A word starts a truth value. -/
theorem startsIn_boolean (value : Bool) (ends : startsWord rest = false) :
    StartsIn closedHeads ((Expr.literal (.boolean value)).characters ++ rest) := by
  rw [characters_boolean]
  cases value with
  | true => exact startsIn_word "true" (by decide) (by decide) rfl ends
  | false => exact startsIn_word "false" (by decide) (by decide) rfl ends

/-- A quote starts a text. -/
theorem startsIn_text (value : String) (rest : List Char) :
    StartsIn closedHeads ((Expr.literal (.text value)).characters ++ rest) := by
  rw [characters_text]
  exact ⟨.marks ['"'], by decide, Head.marks_fits rfl (by decide) _⟩

/-- A digit starts a number. -/
theorem startsIn_number {n : Nat} (small : n < 2 ^ 53) (rest : List Char) :
    StartsIn closedHeads ((Expr.literal (.number (Float.ofNat n))).characters ++ rest) := by
  obtain ⟨filled, all⟩ := Number.digitsOf_all n
  rw [characters_number small]
  cases spelling : Number.digitsOf n with
  | nil => exact absurd spelling filled
  | cons c others =>
    rw [spelling, List.all_cons, Bool.and_eq_true] at all
    exact ⟨.digit, by decide, c, _, rfl, mem_digits all.1⟩

/-- A tick starts a template. -/
theorem startsIn_template (quasis : List String) (expressions : List Expr) (rest : List Char) :
    StartsIn closedHeads ((Expr.template quasis expressions).characters ++ rest) := by
  rw [characters_template]
  exact ⟨.marks ['\x60'], by decide, Head.marks_fits rfl (by decide) _⟩

/-- A bracket starts a list. -/
theorem startsIn_array (elements : List Element) (rest : List Char) :
    StartsIn closedHeads ((Expr.array elements).characters ++ rest) := by
  rw [characters_array]
  exact ⟨.marks ['['], by decide, Head.marks_fits rfl (by decide) _⟩

/-- A prefix operator starts a prefix operation. -/
theorem startsIn_unary (operator : UnaryOperator) (operand : Expr) (rest : List Char) :
    StartsIn unaryHeads ((Expr.unary operator operand).characters ++ rest) := by
  rw [characters_unary]
  simp only [List.append_assoc]
  cases operator with
  | minus => exact ⟨.marks ['-'], by decide, Head.marks_fits rfl (by decide) _⟩
  | plus => exact ⟨.marks ['+'], by decide, Head.marks_fits rfl (by decide) _⟩
  | logicalNot => exact ⟨.marks ['!'], by decide, Head.marks_fits rfl (by decide) _⟩
  | bitwiseNot => exact ⟨.marks ['~'], by decide, Head.marks_fits rfl (by decide) _⟩
  | typeOf => exact ⟨.named "typeof".toList, by decide, Head.named_fits (by decide) rfl rfl⟩
  | void => exact ⟨.named "void".toList, by decide, Head.named_fits (by decide) rfl rfl⟩
  | delete => exact ⟨.named "delete".toList, by decide, Head.named_fits (by decide) rfl rfl⟩

/-- A word starts a wait. -/
theorem startsIn_await (operand : Expr) (rest : List Char) :
    StartsIn unaryHeads ((Expr.await operand).characters ++ rest) := by
  rw [characters_await, List.append_assoc]
  have fits : (Head.named "await".toList).Fits ("await".toList ++ ' ' ::
      (operand.wrappedIf (operand.strength < unaryStrength) ++ rest)) :=
    Head.named_fits (by decide) rfl rfl
  exact ⟨_, by decide, fits⟩

/-- Two marks start a change by one before its target. -/
theorem startsIn_update (operator : UpdateOperator) {target : Expr}
    (writable : target.isWritable = true) (rest : List Char) :
    StartsIn updateHeads ((Expr.update operator true target).characters ++ rest) := by
  rw [characters_update operator true writable, if_pos rfl, List.append_assoc]
  cases operator with
  | increment => exact ⟨.marks "++".toList, by decide, Head.marks_fits rfl (by decide) _⟩
  | decrement => exact ⟨.marks "--".toList, by decide, Head.marks_fits rfl (by decide) _⟩

/-- A printed operation starts as its strength tells. -/
theorem Expr.IsOperation.startsIn (operation : e.IsOperation) (ends : startsWord rest = false) :
    StartsIn (headsFrom e.strength) (e.characters ++ rest) := by
  have closed {needed : Nat} {text : List Char} (starts : StartsIn closedHeads text) :
      StartsIn (headsFrom needed) text :=
    starts.mono (List.Subset.trans (List.subset_append_left _ _) (objectHeads_subset needed))
  induction operation generalizing rest with
  | @identifier name named =>
    obtain ⟨starts, isWord, free⟩ := isVariable_word named
    refine startsIn_object .plain (by decide) ⟨startsName_append rest starts, ?_⟩ _
    rw [firstWord_append isWord ends, free]
  | this => exact closed (startsIn_word "this" (by decide) (by decide) rfl ends)
  | null => exact closed (startsIn_word "null" (by decide) (by decide) rfl ends)
  | boolean value => exact closed (startsIn_boolean value ends)
  | text value => exact closed (startsIn_text value rest)
  | number small => exact closed (startsIn_number small rest)
  | template pieces parts => exact closed (startsIn_template _ _ rest)
  | array parts => exact closed (startsIn_array _ rest)
  | unary operator part =>
    exact (startsIn_unary operator _ rest).mono
      (List.Subset.trans (List.subset_append_left _ _) (List.subset_append_left _ _))
  | await part =>
    exact (startsIn_await _ rest).mono
      (List.Subset.trans (List.subset_append_left _ _) (List.subset_append_left _ _))
  | update operator isPrefix writable part ih =>
    cases isPrefix with
    | true => exact (startsIn_update operator writable rest).mono (List.subset_append_left _ _)
    | false =>
      rw [characters_update operator false writable, if_neg Bool.false_ne_true, List.append_assoc]
      have strong : updateStrength ≤ _ :=
        Nat.le_trans (Nat.le_succ _) (strength_of_isWritable writable)
      exact (ih (by cases operator <;> rfl)).mono (headsFrom_subset strong)
  | @operation operator left right first second firstIH secondIH =>
    rw [characters_apply, List.append_assoc, List.append_assoc, strength_apply]
    have le : operator.strength ≤ operator.leftNeed := by
      have need := operator.leftNeed_cases
      omega
    exact (startsIn_wrappedIf strength_of_bare (firstIH rfl)).mono (headsFrom_subset le)
  | conditional first second third firstIH =>
    rw [characters_conditional, List.append_assoc, List.append_assoc]
    exact (startsIn_wrappedIf strength_of_bare (firstIH rfl)).mono
      (headsFrom_subset (Nat.le_succ conditionalStrength))
  | assign operator writable first second firstIH =>
    rw [characters_assign operator _ writable, List.append_assoc, List.append_assoc]
    have strong : assignmentStrength ≤ _ :=
      Nat.le_trans (by decide) (strength_of_isWritable writable)
    exact (firstIH rfl).mono (headsFrom_subset strong)
  | @member object name optional part named ih =>
    rw [show (Expr.member object name optional).characters = _ from
      characters_suffix (.member name optional) object, List.append_assoc]
    exact startsIn_wrappedIf strength_of_object (ih (by cases optional <;> rfl))
  | @index object key optional first second firstIH =>
    rw [show (Expr.index object key optional).characters = _ from
      characters_suffix (.index key optional) object, List.append_assoc]
    exact startsIn_wrappedIf strength_of_object (firstIH (by cases optional <;> rfl))
  | @call callee arguments optional first parts firstIH =>
    rw [show (Expr.call callee arguments optional).characters = _ from
      characters_suffix (.call arguments optional) callee, List.append_assoc]
    exact startsIn_wrappedIf strength_of_object (firstIH (by cases optional <;> rfl))

end

end PluginSandbox.Syntax
