import PluginSandbox.Proofs.Peg.Progress
import PluginSandbox.Syntax.Grammar

/-!
# The ranks of the rules

No rule of the grammar of scripts starts with itself, however far its beginning is followed: a
rank that decreases from a rule to the rules it starts with shows it. So every text is matched
within the fuel that parsing gives, and every rule has a result at every place.
-/
namespace PluginSandbox.Syntax

open Peg (Place)

/-- The depth of the search for a rule before it takes a character. -/
def Rule.rank : Rule → Nat
  | .identifierStart | .identifierChar | .booleanLiteral | .string => 3
  | .postfixOperator | .declarationKind | .ifStatement | .whileStatement | .forStatement | .forInStatement
    | .forOfStatement | .switchStatement | .returnStatement | .throwStatement | .breakStatement
    | .continueStatement | .tryStatement | .catchClause | .finallyClause | .importDeclaration
    | .typeOnlyMarker | .specifierTypeMarker | .moduleSpecifier | .exportDefault
    | .exportAssignment | .exportAll | .exportNamed | .exportDeclaration | .typeAssertion
    | .newExpression | .interfaceType | .typeAlias => 4
  | .identifierName | .functionDeclaration | .functionExpression | .typeOperator | .functionType => 5
  | .number | .variableDeclaration | .switchCase => 6
  | .doubleQuoted | .singleQuoted | .exportSpecifier | .typeDeclaration => 7
  | .templateChars | .variableStatement | .importSpecifier | .typeReference => 8
  | .assignmentOperator | .callSuffix => 9
  | .unaryOperatorStart | .propertyName => 10
  | .aliasedBindingProperty | .prefixOperator | .keyValueProperty | .methodSignature
    | .propertySignature => 12
  | .methodProperty => 13
  | .primaryType | .typeMember => 16
  | .postfixType => 18
  | .intersectionType => 20
  | .typeExpression => 23
  | .binaryOperator => 24
  | .reservedWord => 40
  | .identifier => 43
  | .defaultImport | .shorthandProperty => 44
  | .bindingTarget | .shorthandBindingProperty | .arrowParameters | .typeParameter => 45
  | .variableDeclarator | .bindingElement => 47
  | .parameter | .importClause | .objectPatternProperty | .arrowFunction | .objectProperty => 48
  | .arrayPatternElement => 49
  | .primaryExpression => 54
  | .leftHandSideExpression => 57
  | .postfixExpression => 59
  | .unaryExpression => 61
  | .binaryOperand => 64
  | .binaryExpression => 66
  | .conditionalExpression => 68
  | .assignmentExpression => 71
  | .expression => 72
  | .forTest | .forUpdate | .listElement => 73
  | .expressionStatement | .forInit => 74
  | .statement => 91
  | .script => 95
  | .moduleItem => 98
  | .moduleSource => 102
  | _ => 2

/-- No rank is higher than that of modules. -/
theorem Rule.rank_le (rule : Rule) : rule.rank ≤ 102 := by
  cases rule <;> exact Nat.le_of_ble_eq_true rfl

/-- Whether a rule may match without taking characters. -/
def Rule.mayBeEmpty : Rule → Bool
  | .endOfText | .moduleSource | .script | .doubleQuoted | .singleQuoted => true
  | _ => false

/-- The ranking of the rules. -/
def ranking : Peg.Ranking Rule := ⟨Rule.rank, Rule.mayBeEmpty, 128⟩

/-- The end of a comment comes after its characters. -/
theorem blockCommentEnd_takes (rest : List Char) (offset : Nat) (stop : Place)
    (ends : blockCommentEnd rest offset = some stop) :
    ∃ text, Place.Takes ⟨rest, offset⟩ text stop := by
  induction rest, offset using blockCommentEnd.induct with
  | case1 offset => cases ends
  | case2 rest offset =>
    rw [blockCommentEnd] at ends
    cases ends
    exact ⟨['*', '/'], rfl, rfl⟩
  | case3 c rest offset other ih =>
    rw [blockCommentEnd] at ends
    · obtain ⟨text, takes⟩ := ih ends
      exact ⟨_, (Place.Takes.next rfl).trans takes⟩
    · exact other

/-- The end of a line comes after its characters. -/
theorem lineCommentEnd_takes (rest : List Char) (offset : Nat) :
    ∃ text, Place.Takes ⟨rest, offset⟩ text (lineCommentEnd rest offset) := by
  induction rest generalizing offset with
  | nil => exact ⟨[], .refl _⟩
  | cons c rest ih =>
    rw [lineCommentEnd]
    split
    case isTrue => exact ⟨[], .refl _⟩
    case isFalse =>
      obtain ⟨text, takes⟩ := ih (offset + c.utf8Size)
      exact ⟨_, (Place.Takes.next rfl).trans takes⟩

/-- Blanks and comments are passed over forward. -/
theorem skipSpace_takes (fuel : Nat) (place : Place) :
    ∃ text, place.Takes text (skipSpace fuel place) := by
  induction fuel generalizing place with
  | zero => exact ⟨[], .refl _⟩
  | succ fuel ih =>
    obtain ⟨rest, offset⟩ := place
    unfold skipSpace
    split
    case h_1 rest' =>
      cases ends : blockCommentEnd rest' (offset + 2) with
      | none => exact ⟨[], .refl _⟩
      | some stop =>
        obtain ⟨comment, takes⟩ := blockCommentEnd_takes rest' _ stop ends
        obtain ⟨text, more⟩ := ih stop
        have opening : Place.Takes ⟨'/' :: '*' :: rest', offset⟩ ['/', '*'] ⟨rest', offset + 2⟩ :=
          ⟨rfl, rfl⟩
        exact ⟨_, (opening.trans takes).trans more⟩
    case h_2 rest' =>
      obtain ⟨comment, takes⟩ := lineCommentEnd_takes rest' (offset + 2)
      obtain ⟨text, more⟩ := ih (lineCommentEnd rest' (offset + 2))
      have opening : Place.Takes ⟨'/' :: '/' :: rest', offset⟩ ['/', '/'] ⟨rest', offset + 2⟩ :=
        ⟨rfl, rfl⟩
      exact ⟨_, (opening.trans takes).trans more⟩
    case h_3 c rest' _ _ =>
      split
      case isTrue =>
        obtain ⟨text, more⟩ := ih ⟨rest', offset + c.utf8Size⟩
        exact ⟨_, (Place.Takes.next rfl).trans more⟩
      case isFalse => exact ⟨[], .refl _⟩
    case h_4 => exact ⟨[], .refl _⟩

/-- The ranking fits the grammar. -/
theorem ranking_fits : ranking.Fits grammar where
  forward place := skipSpace_takes _ place
  rank rule := by
    cases rule with
    | keyword word => cases word <;> decide
    | operator op => rcases op with op | op <;> cases op <;> decide
    | _ => decide +kernel
  mayBeEmpty rule := by
    cases rule with
    | keyword word => cases word <;> decide
    | operator op => rcases op with op | op <;> cases op <;> decide
    | _ => decide
  ranked rule := by
    cases rule with
    | keyword word => cases word <;> decide
    | operator op => rcases op with op | op <;> cases op <;> decide
    | _ => decide

end PluginSandbox.Syntax
