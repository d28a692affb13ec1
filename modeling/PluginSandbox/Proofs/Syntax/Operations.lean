import PluginSandbox.Proofs.Number.Naturals
import PluginSandbox.Proofs.Syntax.Escapes
import PluginSandbox.Proofs.Syntax.Grouping
import PluginSandbox.Proofs.Syntax.Suffixes
import PluginSandbox.Syntax.Assembly

/-!
# Operations

Expressions that hold no functions, objects or constructions, only operators, accesses, calls and
what they are applied to, and the characters that they are printed as. Where an expression is an
operand, it is printed alone or in parentheses, and the same few cases describe every operator.
-/
namespace PluginSandbox.Syntax

/-- The expression of an item of a list. -/
def Element.value : Element → Expr
  | .item value | .spread value => value

/-- The operation of an infix operator. -/
def InfixOperator.apply : InfixOperator → Expr → Expr → Expr
  | .binary operator, left, right => .binary operator left right
  | .logical operator, left, right => .logical operator left right

/-- A name that a variable may have. -/
def isVariable (name : String) : Bool :=
  isIdentifierName name && !isReserved name.toList

/-- An expression is built from variables, constants, templates, lists and operators alone. -/
inductive Expr.IsOperation : Expr → Prop where
  /-- A variable. -/
  | identifier {name} (named : isVariable name = true) : IsOperation (.identifier name)
  /-- The receiver of the running call. -/
  | this : IsOperation .this
  /-- The null value. -/
  | null : IsOperation (.literal .null)
  /-- A truth value. -/
  | boolean (value : Bool) : IsOperation (.literal (.boolean value))
  /-- A text. -/
  | text (value : String) : IsOperation (.literal (.text value))
  /-- A natural number that is a double without rounding. -/
  | number {n : Nat} (small : n < 2 ^ 53) : IsOperation (.literal (.number (Float.ofNat n)))
  /-- A template. -/
  | template {quasis expressions} (pieces : quasis.length = expressions.length + 1)
      (parts : ∀ e ∈ expressions, IsOperation e) : IsOperation (.template quasis expressions)
  /-- A list of items. -/
  | array {elements} (parts : ∀ element ∈ elements, IsOperation element.value) :
    IsOperation (.array elements)
  /-- An operator before its operand. -/
  | unary (operator : UnaryOperator) {operand} (part : IsOperation operand) :
    IsOperation (.unary operator operand)
  /-- A wait for a value. -/
  | await {operand} (part : IsOperation operand) : IsOperation (.await operand)
  /-- A change by one. -/
  | update (operator : UpdateOperator) (isPrefix : Bool) {target}
      (writable : target.isWritable = true) (part : IsOperation target) :
    IsOperation (.update operator isPrefix target)
  /-- An operator between two operands. -/
  | operation (operator : InfixOperator) {left right} (first : IsOperation left)
      (second : IsOperation right) : IsOperation (operator.apply left right)
  /-- A choice between two expressions. -/
  | conditional {test whenTrue whenFalse} (first : IsOperation test)
      (second : IsOperation whenTrue) (third : IsOperation whenFalse) :
    IsOperation (.conditional test whenTrue whenFalse)
  /-- A write to a variable or a property. -/
  | assign (operator : AssignmentOperator) {target value}
      (writable : target.isWritable = true) (first : IsOperation target)
      (second : IsOperation value) : IsOperation (.assign operator target value)
  /-- The property with a fixed name. -/
  | member {object name} (optional : Bool) (part : IsOperation object)
      (named : isIdentifierName name = true) : IsOperation (.member object name optional)
  /-- The property whose key is computed. -/
  | index {object key} (optional : Bool) (first : IsOperation object)
      (second : IsOperation key) : IsOperation (.index object key optional)
  /-- A call. -/
  | call {callee arguments} (optional : Bool) (first : IsOperation callee)
      (parts : ∀ element ∈ arguments, IsOperation element.value) :
    IsOperation (.call callee arguments optional)

/-- The characters that an expression is printed as. -/
def Expr.characters (e : Expr) : List Char := (e.render 0).toList

/-- Characters in parentheses. -/
def inParentheses (characters : List Char) : List Char := '(' :: characters ++ [')']

/-- The characters of an expression, perhaps in parentheses. -/
def Expr.wrappedIf (wrapped : Bool) (e : Expr) : List Char :=
  if wrapped then inParentheses e.characters else e.characters

/-- Whether an expression stands in parentheses before a dot, a bracket or an argument list. -/
def Expr.isWrappedObject : Expr → Bool
  | .literal (.number _) => true
  | e => e.strength < callStrength

/-- Whether a prefix operator has its operand in parentheses. -/
def UnaryOperator.wraps (operator : UnaryOperator) (operand : Expr) : Bool :=
  operand.strength < unaryStrength ||
    ((operator = .minus || operator = .plus) &&
      operator.spelling.toList.isPrefixOf operand.characters)

/-- The blank between a prefix operator and its operand, for those that are words. -/
def UnaryOperator.gap (operator : UnaryOperator) : List Char :=
  if operator.isWord then [' '] else []

/-- The marks before an access or a call that may give up. -/
def optionalMark (optional : Bool) : List Char := if optional then ['?', '.'] else []

/-- The characters of an item of a list. -/
def Element.characters : Element → List Char
  | .item value => value.characters
  | .spread source => '.' :: '.' :: '.' :: source.characters

/-- The characters of the items after the first one of a list. -/
def laterCharacters : List Element → List Char
  | [] => []
  | element :: others => ',' :: ' ' :: element.characters ++ laterCharacters others

/-- The characters of the items of a list. -/
def listCharacters : List Element → List Char
  | [] => []
  | element :: others => element.characters ++ laterCharacters others

/-- Where a strength is needed, a weaker expression stands in parentheses. -/
theorem toList_atLeast (needed : Nat) (e : Expr) :
    (e.atLeast needed (e.render 0)).toList = e.wrappedIf (e.strength < needed) := by
  rw [Expr.atLeast, Expr.wrappedIf]
  split
  case isTrue weak =>
    rw [if_pos (decide_eq_true weak), parenthesized]
    simp only [String.toList_append]
    rfl
  case isFalse strong => rw [if_neg (by simpa using strong)]; rfl

/-- The characters of a wait. -/
theorem characters_await (operand : Expr) :
    (Expr.await operand).characters =
      "await ".toList ++ operand.wrappedIf (operand.strength < unaryStrength) := by
  rw [Expr.characters, Expr.render, String.toList_append, toList_atLeast]

namespace Suffix

/-- The characters of an access or a call after its object. -/
def characters : Suffix → List Char
  | .member name optional => (if optional then ['?', '.'] else ['.']) ++ name.toList
  | .index key optional => optionalMark optional ++ ('[' :: key.characters ++ [']'])
  | .call arguments optional => optionalMark optional ++ inParentheses (listCharacters arguments)

end Suffix

/-- The characters between the ticks of a template. -/
def templateCharacters : List String → List Expr → List Char
  | piece :: pieces, value :: values =>
    escapeTemplateChars piece.toList ++ '$' :: '\x7b' :: value.characters
      ++ '\x7d' :: templateCharacters pieces values
  | piece :: pieces, [] => escapeTemplateChars piece.toList ++ templateCharacters pieces []
  | [], _ => []

section

variable {e : Expr}

/-- Before a dot, a bracket or an argument list, numbers stand in parentheses too. -/
theorem toList_asObject (e : Expr) :
    (e.asObject (e.render 0)).toList = e.wrappedIf e.isWrappedObject := by
  cases e with
  | literal value =>
    cases value with
    | number value =>
      simp only [Expr.asObject, parenthesized, String.toList_append]
      rfl
    | _ => exact toList_atLeast _ _
  | _ => exact toList_atLeast _ _

/-- What can be written to stands without parentheses. -/
theorem strength_of_isWritable (writable : e.isWritable = true) : callStrength ≤ e.strength := by
  unfold Expr.isWritable at writable
  split at writable
  · exact Nat.le_succ callStrength
  · exact Nat.le_refl callStrength
  · exact Nat.le_refl callStrength
  · cases writable

/-- The strength of an operation is that of its operator. -/
theorem strength_apply (operator : InfixOperator) (left right : Expr) :
    (operator.apply left right).strength = operator.strength := by
  cases operator <;> rfl

/-- Only a nullish operation has its strength. -/
theorem strength_of_isNullish (nullish : e.isNullish = true) : e.strength = 3 := by
  unfold Expr.isNullish at nullish
  split at nullish
  · rfl
  · cases nullish

/-- An operand of an infix operator stands in parentheses if it is weaker than the operator
needs. -/
theorem characters_apply (operator : InfixOperator) (left right : Expr) :
    (operator.apply left right).characters =
      left.wrappedIf (left.strength < operator.leftNeed) ++ ' ' :: operator.spelling.toList ++
        ' ' :: right.wrappedIf (right.strength < operator.rightNeed) := by
  have whole : (operator.apply left right).render 0 =
      left.atLeast operator.leftNeed (left.render 0) ++ " " ++ operator.spelling ++ " " ++
        right.atLeast operator.rightNeed (right.render 0) := by
    cases operator with
    | binary operator =>
      have needs : (if operator = .exponent then (unaryStrength + 1, operator.strength)
          else (operator.strength, operator.strength + 1)) =
            (InfixOperator.leftNeed (.binary operator), InfixOperator.rightNeed (.binary operator)) := by
        cases operator <;> rfl
      rw [InfixOperator.apply, Expr.render, renderBinary, needs]
      rfl
    | logical operator =>
      have needs : (if operator = .nullish then (LogicalOperator.strength .nullish + 3,
          LogicalOperator.strength .nullish + 3) else (operator.strength, operator.strength + 1)) =
            (InfixOperator.leftNeed (.logical operator),
              InfixOperator.rightNeed (.logical operator)) := by
        cases operator <;> rfl
      have nullish (e : Expr) (needed : Nat) (more : 3 < needed) (weak : e.isNullish = true) :
          e.atLeast needed (e.render 0) = parenthesized (e.render 0) := by
        rw [Expr.atLeast, if_pos (strength_of_isNullish weak ▸ more)]
      have first : (if operator ≠ .nullish ∧ left.isNullish then parenthesized (left.render 0)
          else left.atLeast (InfixOperator.leftNeed (.logical operator)) (left.render 0)) =
            left.atLeast (InfixOperator.leftNeed (.logical operator)) (left.render 0) := by
        split
        case isTrue mixed => exact (nullish left _ (by cases operator <;> decide) mixed.2).symm
        case isFalse => rfl
      have second : (if right.isNullish then parenthesized (right.render 0)
          else right.atLeast (InfixOperator.rightNeed (.logical operator)) (right.render 0)) =
            right.atLeast (InfixOperator.rightNeed (.logical operator)) (right.render 0) := by
        split
        case isTrue mixed => exact (nullish right _ (by cases operator <;> decide) mixed).symm
        case isFalse => rfl
      rw [InfixOperator.apply, Expr.render, renderLogical, needs]
      dsimp only
      rw [first, second]
      rfl
  rw [Expr.characters, whole]
  simp only [String.toList_append, toList_atLeast, List.append_assoc]
  rfl

/-- A sign in parentheses would start with the parenthesis. -/
theorem not_starts_wrapped {operator : UnaryOperator} (e : Expr)
    (starts : operator.spelling.toList.isPrefixOf (inParentheses e.characters) = true) :
    operator.isWord = true := by
  cases operator <;> first | rfl | cases starts

/-- The characters of a prefix operation. -/
theorem characters_unary (operator : UnaryOperator) (operand : Expr) :
    (Expr.unary operator operand).characters =
      operator.spelling.toList ++ operator.gap ++ operand.wrappedIf (operator.wraps operand) := by
  rw [Expr.characters, Expr.render, renderUnary, UnaryOperator.gap, UnaryOperator.wraps]
  by_cases word : operator.isWord = true
  · have sign : (decide (operator = .minus) || decide (operator = .plus)) = false := by
      cases operator <;> first | rfl | cases word
    rw [if_pos word, if_pos word, sign, Bool.false_and, Bool.or_false]
    simp only [String.toList_append, toList_atLeast]
    rfl
  · rw [if_neg word, if_neg word, List.append_nil]
    have starts_iff : operator.spelling.isPrefixOf
        (operand.atLeast unaryStrength (operand.render 0)) =
          operator.spelling.toList.isPrefixOf
            (operand.wrappedIf (operand.strength < unaryStrength)) := by
      rw [Bool.eq_iff_iff, List.isPrefixOf_iff_prefix, ← toList_atLeast]
      exact String.startsWith_string_iff
    rw [starts_iff]
    by_cases weak : operand.strength < unaryStrength
    · have apart : operator.spelling.toList.isPrefixOf (inParentheses operand.characters) = false :=
        eq_false_of_ne_true fun starts => word (not_starts_wrapped operand starts)
      rw [decide_eq_true weak, Bool.true_or, Expr.wrappedIf, if_pos rfl, apart]
      rw [if_neg (by simp), String.toList_append, toList_atLeast, decide_eq_true weak]
      rfl
    · rw [decide_eq_false weak, Bool.false_or, Expr.wrappedIf, if_neg Bool.false_ne_true]
      split
      case isTrue clash =>
        have both : ((decide (operator = .minus) || decide (operator = .plus)) &&
            operator.spelling.toList.isPrefixOf operand.characters) = true := by
          simpa using clash
        rw [both, String.toList_append, parenthesized, String.toList_append, String.toList_append,
          toList_atLeast, decide_eq_false weak]
        rfl
      case isFalse clash =>
        have none : ((decide (operator = .minus) || decide (operator = .plus)) &&
            operator.spelling.toList.isPrefixOf operand.characters) = false :=
          eq_false_of_ne_true fun both => clash (by simpa using both)
        rw [none, String.toList_append, toList_atLeast, decide_eq_false weak]

/-- The characters of a change by one. -/
theorem characters_update (operator : UpdateOperator) (isPrefix : Bool) {target : Expr}
    (writable : target.isWritable = true) :
    (Expr.update operator isPrefix target).characters =
      if isPrefix then operator.spelling.toList ++ target.characters
      else target.characters ++ operator.spelling.toList := by
  have strong : ¬ target.strength < callStrength :=
    Nat.not_lt.mpr (strength_of_isWritable writable)
  rw [Expr.characters, Expr.render, Expr.atLeast, if_neg strong]
  cases isPrefix <;> exact String.toList_append

/-- The characters of a choice. -/
theorem characters_conditional (test whenTrue whenFalse : Expr) :
    (Expr.conditional test whenTrue whenFalse).characters =
      test.wrappedIf (test.strength < 3) ++ ' ' :: '?' :: ' ' :: whenTrue.characters ++
        ' ' :: ':' :: ' ' :: whenFalse.characters := by
  rw [Expr.characters, Expr.render]
  simp only [String.toList_append, toList_atLeast, List.append_assoc]
  rfl

/-- The characters of a write. -/
theorem characters_assign (operator : AssignmentOperator) {target : Expr} (value : Expr)
    (writable : target.isWritable = true) :
    (Expr.assign operator target value).characters =
      target.characters ++ ' ' :: operator.spelling.toList ++ ' ' :: value.characters := by
  have strong : ¬ target.strength < callStrength :=
    Nat.not_lt.mpr (strength_of_isWritable writable)
  rw [Expr.characters, Expr.render, Expr.atLeast, if_neg strong]
  simp only [String.toList_append, List.append_assoc]
  rfl

/-- The mark of an access that may give up. -/
theorem toList_optionalMark (optional : Bool) :
    (if optional then "?." else "").toList = optionalMark optional := by
  cases optional <;> rfl

/-- The characters of items with commas between them. -/
theorem toList_commaList (elements : List Element) :
    (commaList (Element.renderAll 0 elements)).toList = listCharacters elements := by
  have texts : (Element.renderAll 0 elements).map String.toList =
      elements.map Element.characters := by
    induction elements with
    | nil => rfl
    | cons element others ih =>
      cases element with
      | item value => rw [Element.renderAll, List.map_cons, List.map_cons, ih]; rfl
      | spread source =>
        rw [Element.renderAll, List.map_cons, List.map_cons, ih, String.toList_append]
        rfl
  have later (element : Element) (others : List Element) :
      [',', ' '].intercalate ((element :: others).map Element.characters) =
        element.characters ++ laterCharacters others := by
    induction others generalizing element with
    | nil => simp [laterCharacters]
    | cons other others ih =>
      rw [List.map_cons, List.map_cons, List.intercalate_cons_cons, ← List.map_cons, ih,
        laterCharacters, List.append_assoc]
      rfl
  rw [commaList, String.toList_intercalate, texts]
  cases elements with
  | nil => rfl
  | cons element others => exact later element others

/-- The characters of an access or a call come after those of its object. -/
theorem characters_suffix (suffix : Suffix) (object : Expr) :
    (suffix.apply object).characters =
      object.wrappedIf object.isWrappedObject ++ suffix.characters := by
  cases suffix with
  | member name optional =>
    rw [Suffix.apply, Expr.characters, Expr.render]
    cases optional <;> simp only [String.toList_append, toList_asObject, List.append_assoc] <;> rfl
  | index key optional =>
    rw [Suffix.apply, Expr.characters, Expr.render]
    simp only [String.toList_append, toList_asObject, toList_optionalMark, List.append_assoc]
    rfl
  | call arguments optional =>
    rw [Suffix.apply, Expr.characters, Expr.render]
    simp only [String.toList_append, toList_asObject, toList_optionalMark, parenthesized,
      toList_commaList, List.append_assoc]
    rfl

/-- The characters of a list of items. -/
theorem characters_array (elements : List Element) :
    (Expr.array elements).characters = '[' :: listCharacters elements ++ [']'] := by
  rw [Expr.characters, Expr.render]
  simp only [String.toList_append, toList_commaList]
  rfl

/-- The characters of a template. -/
theorem characters_template (quasis : List String) (expressions : List Expr) :
    (Expr.template quasis expressions).characters =
      '\x60' :: templateCharacters quasis expressions ++ ['\x60'] := by
  have body : (templateBody quasis (Expr.renderAll 0 expressions)).toList =
      templateCharacters quasis expressions := by
    induction quasis generalizing expressions with
    | nil => cases expressions <;> rfl
    | cons piece pieces ih =>
      cases expressions with
      | nil =>
        have rest := ih []
        rw [Expr.renderAll] at rest ⊢
        rw [templateBody, templateCharacters, String.toList_append, rest, escapeTemplate,
          String.toList_ofList]
      | cons value values =>
        have rest := ih values
        rw [Expr.renderAll, templateBody, templateCharacters]
        simp only [String.toList_append, rest, escapeTemplate, String.toList_ofList,
          List.append_assoc]
        rfl
  rw [Expr.characters, Expr.render, String.toList_append, String.toList_append, body]
  rfl

/-- The characters of a number. -/
theorem characters_number {n : Nat} (small : n < 2 ^ 53) :
    (Expr.literal (.number (Float.ofNat n))).characters = Number.digitsOf n := by
  rw [Expr.characters, Expr.render, Literal.render, Number.toText_ofNat small,
    String.toList_ofList]

/-- The characters of a text. -/
theorem characters_text (value : String) :
    (Expr.literal (.text value)).characters = Text.Quoted.encodeChars value.toList := by
  rw [Expr.characters, Expr.render, Literal.render, Text.Quoted.encode, String.toList_ofList]

end

end PluginSandbox.Syntax
