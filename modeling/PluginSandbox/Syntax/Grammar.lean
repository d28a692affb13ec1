import PluginSandbox.Peg.Attempts
import PluginSandbox.Syntax.Rule
import PluginSandbox.Text.Hexadecimal

/-!
# The grammar

The grammar of scripts and modules. It accepts type annotations, type declarations and type
assertions; they leave no trace in the syntax tree. A unary operation is no left operand of a
power, because it would be unclear which of the two comes first.
-/
namespace PluginSandbox.Syntax

open Peg (Place)
open Peg.Expression (inOrder firstOf many maybe ahead notAhead atLeastOnce separated anyChar)

/-- The characters between tokens that are no comments. -/
def isSpace (c : Char) : Bool :=
  c = ' ' || c = '\t' || c = '\r' || c = '\n' || c = '\ufeff' || c = '\u00a0'

/-- The end of a comment that runs up to `*/`, if it has one. -/
def blockCommentEnd : List Char → Nat → Option Place
  | [], _ => none
  | '*' :: '/' :: rest, offset => some ⟨rest, offset + 2⟩
  | c :: rest, offset => blockCommentEnd rest (offset + c.utf8Size)

/-- The end of a comment that runs to the end of its line. -/
def lineCommentEnd : List Char → Nat → Place
  | [], offset => ⟨[], offset⟩
  | c :: rest, offset =>
    if c = '\n' then ⟨c :: rest, offset⟩ else lineCommentEnd rest (offset + c.utf8Size)

/-- The place after at most `fuel` blanks and comments. -/
def skipSpace : Nat → Place → Place
  | 0, place => place
  | fuel + 1, ⟨rest, offset⟩ =>
    match rest with
    | '/' :: '*' :: rest' =>
      match blockCommentEnd rest' (offset + 2) with
      | some place => skipSpace fuel place
      | none => ⟨rest, offset⟩
    | '/' :: '/' :: rest' => skipSpace fuel (lineCommentEnd rest' (offset + 2))
    | c :: rest' =>
      if isSpace c then skipSpace fuel ⟨rest', offset + c.utf8Size⟩ else ⟨rest, offset⟩
    | [] => ⟨rest, offset⟩

/-- The infix operators in the order in which they are tried: an operator comes before those
that its spelling starts with. -/
def infixOperators : List InfixOperator :=
  [.logical .nullish, .logical .or, .logical .and, .binary .bitOr, .binary .bitXor,
    .binary .bitAnd, .binary .strictEqual, .binary .strictUnequal, .binary .looseEqual,
    .binary .looseUnequal, .binary .lessEqual, .binary .greaterEqual, .binary .less,
    .binary .greater, .binary .instanceOf, .binary .isIn, .binary .add, .binary .subtract,
    .binary .exponent, .binary .multiply, .binary .divide, .binary .modulo]

namespace Rule

/-- A letter. -/
def letter : Peg.Expression Rule := .oneOf Char.isAlpha

/-- A letter or a decimal digit. -/
def letterOrDigit : Peg.Expression Rule := .oneOf Char.isAlphanum

/-- A decimal digit. -/
def digit : Peg.Expression Rule := .oneOf Char.isDigit

/-- A hexadecimal digit. -/
def hexDigit : Peg.Expression Rule := .oneOf fun c => (Text.digitIn? 16 c).isSome

/-- One of several words that is not the beginning of a longer one. -/
def word (spellings : List String) : Peg.Expression Rule :=
  inOrder [firstOf (spellings.map fun spelling => .literal spelling.toList),
    notAhead identifierChar]

/-- Items with commas between them and perhaps one after them, or nothing. -/
def listOf (item : Rule) : Peg.Expression Rule :=
  maybe (inOrder [separated "," item, maybe ","])

/-- What a rule matches. -/
def body : Rule → Peg.Expression Rule
  | .endOfText => .atEnd
  | .moduleSource => inOrder [.atStart, many moduleItem, endOfText]
  | .script => inOrder [.atStart, many statement, endOfText]
  | .moduleItem =>
    firstOf [importDeclaration, exportDefault, exportAssignment, exportAll, exportNamed,
      exportDeclaration, statement]
  | .identifierStart => firstOf [letter, "_", "$"]
  | .identifierChar => firstOf [letterOrDigit, "_", "$"]
  | .reservedWord =>
    word ["await", "break", "case", "catch", "class", "const", "continue", "debugger", "default",
      "delete", "do", "else", "enum", "export", "extends", "false", "finally", "for", "function",
      "if", "import", "instanceof", "in", "let", "new", "null", "return", "super", "switch",
      "this", "throw", "true", "try", "typeof", "var", "void", "while", "with", "yield"]
  | .identifier => inOrder [notAhead reservedWord, identifierStart, many identifierChar]
  | .identifierName => inOrder [identifierStart, many identifierChar]
  | .keyword key => word [key.spelling]
  | .nullLiteral => word ["null"]
  | .booleanLiteral => word ["true", "false"]
  | .thisExpression => word ["this"]
  | .number =>
    firstOf [inOrder ["0", firstOf ["x", "X"], atLeastOnce hexDigit],
      inOrder [
        firstOf [inOrder [atLeastOnce digit, maybe (inOrder [".", many digit])],
          inOrder [".", atLeastOnce digit]],
        maybe (inOrder [firstOf ["e", "E"], maybe (firstOf ["+", "-"]), atLeastOnce digit])]]
  | .string => firstOf [inOrder ["\"", doubleQuoted, "\""], inOrder ["'", singleQuoted, "'"]]
  | .doubleQuoted =>
    many (firstOf [inOrder ["\\", anyChar],
      inOrder [notAhead (firstOf ["\"", "\\", "\n"]), anyChar]])
  | .singleQuoted =>
    many (firstOf [inOrder ["\\", anyChar],
      inOrder [notAhead (firstOf ["'", "\\", "\n"]), anyChar]])
  | .templateLiteral => inOrder ["`", many (firstOf [templateChars, templateSubstitution]), "`"]
  | .templateChars =>
    atLeastOnce (firstOf [inOrder ["\\", anyChar], inOrder ["$", notAhead "\x7b"],
      inOrder [notAhead (firstOf ["`", "\\", "$"]), anyChar]])
  | .templateSubstitution => inOrder ["$\x7b", expression, "\x7d"]
  | .statement =>
    firstOf [blockStatement, variableStatement, functionDeclaration, ifStatement, forOfStatement,
      forInStatement, forStatement, whileStatement, switchStatement, returnStatement,
      throwStatement, tryStatement, breakStatement, continueStatement, typeDeclaration,
      emptyStatement, expressionStatement]
  | .blockStatement => inOrder ["\x7b", many statement, "\x7d"]
  | .emptyStatement => ";"
  | .expressionStatement => inOrder [expression, maybe ";"]
  | .declarationKind => word ["const", "let", "var"]
  | .variableStatement => inOrder [variableDeclaration, maybe ";"]
  | .variableDeclaration => inOrder [declarationKind, separated "," variableDeclarator]
  | .variableDeclarator =>
    inOrder [bindingTarget, maybe definiteMarker, maybe typeAscription, maybe initializer]
  | .definiteMarker => "!"
  | .initializer => inOrder ["=", notAhead (firstOf ["=", ">"]), assignmentExpression]
  | .functionDeclaration =>
    inOrder [maybe (keyword .async), keyword .function, identifier, maybe typeParameters,
      formalParameters, maybe typeAscription, functionBody]
  | .functionBody => inOrder ["\x7b", many statement, "\x7d"]
  | .formalParameters => inOrder ["(", listOf parameter, ")"]
  | .parameter =>
    inOrder [maybe restMarker, bindingTarget, maybe optionalMarker, maybe typeAscription,
      maybe initializer]
  | .restMarker => "..."
  | .optionalMarker => "?"
  | .ifStatement =>
    inOrder [keyword .if, "(", expression, ")", statement,
      maybe (inOrder [keyword .else, statement])]
  | .whileStatement => inOrder [keyword .while, "(", expression, ")", statement]
  | .forStatement =>
    inOrder [keyword .for, "(", maybe forInit, ";", maybe forTest, ";", maybe forUpdate, ")",
      statement]
  | .forInit => firstOf [variableDeclaration, expression]
  | .forTest => expression
  | .forUpdate => expression
  | .forInStatement =>
    inOrder [keyword .for, "(", declarationKind, bindingTarget, keyword .in, expression, ")",
      statement]
  | .forOfStatement =>
    inOrder [keyword .for, "(", declarationKind, bindingTarget, keyword .of, assignmentExpression,
      ")", statement]
  | .switchStatement =>
    inOrder [keyword .switch, "(", expression, ")", "\x7b", many switchCase, "\x7d"]
  | .switchCase =>
    inOrder [firstOf [inOrder [keyword .case, expression], keyword .default], ":", many statement]
  | .returnStatement => inOrder [keyword .return, maybe expression, maybe ";"]
  | .throwStatement => inOrder [keyword .throw, expression, maybe ";"]
  | .breakStatement => inOrder [keyword .break, maybe ";"]
  | .continueStatement => inOrder [keyword .continue, maybe ";"]
  | .tryStatement =>
    inOrder [keyword .try, blockStatement, maybe catchClause, maybe finallyClause]
  | .catchClause =>
    inOrder [keyword .catch, maybe (inOrder ["(", bindingTarget, maybe typeAscription, ")"]),
      blockStatement]
  | .finallyClause => inOrder [keyword .finally, blockStatement]
  | .importDeclaration =>
    inOrder [keyword .import, maybe (inOrder [maybe typeOnlyMarker, importClause, keyword .from]),
      moduleSpecifier, maybe ";"]
  | .typeOnlyMarker => inOrder [keyword .type, notAhead (inOrder [keyword .from, string])]
  | .importClause =>
    firstOf [namespaceImport, namedImports,
      inOrder [defaultImport, maybe (inOrder [",", firstOf [namespaceImport, namedImports]])]]
  | .defaultImport => identifier
  | .namespaceImport => inOrder ["*", keyword .as, identifier]
  | .namedImports => inOrder ["\x7b", listOf importSpecifier, "\x7d"]
  | .importSpecifier =>
    inOrder [maybe specifierTypeMarker, identifierName, maybe (inOrder [keyword .as, identifier])]
  | .specifierTypeMarker =>
    inOrder [keyword .type, ahead identifierName,
      notAhead (inOrder [keyword .as, identifier, firstOf [",", "\x7d"]])]
  | .moduleSpecifier => string
  | .exportDefault =>
    inOrder [keyword .export, keyword .default,
      firstOf [interfaceType, functionDeclaration, inOrder [assignmentExpression, maybe ";"]]]
  | .exportAssignment => inOrder [keyword .export, "=", assignmentExpression, maybe ";"]
  | .exportAll =>
    inOrder [keyword .export, "*", maybe (inOrder [keyword .as, identifierName]), keyword .from,
      moduleSpecifier, maybe ";"]
  | .exportNamed =>
    inOrder [keyword .export, maybe typeOnlyMarker, exportClause,
      maybe (inOrder [keyword .from, moduleSpecifier]), maybe ";"]
  | .exportClause => inOrder ["\x7b", listOf exportSpecifier, "\x7d"]
  | .exportSpecifier => inOrder [identifierName, maybe (inOrder [keyword .as, identifierName])]
  | .exportDeclaration =>
    inOrder [keyword .export, firstOf [variableStatement, functionDeclaration, typeDeclaration]]
  | .bindingTarget => firstOf [identifier, objectPattern, arrayPattern]
  | .objectPattern => inOrder ["\x7b", listOf objectPatternProperty, "\x7d"]
  | .objectPatternProperty =>
    firstOf [restElement, aliasedBindingProperty, shorthandBindingProperty]
  | .aliasedBindingProperty => inOrder [propertyName, ":", bindingElement]
  | .shorthandBindingProperty => inOrder [identifier, maybe initializer]
  | .bindingElement => inOrder [bindingTarget, maybe initializer]
  | .restElement => inOrder ["...", bindingTarget]
  | .arrayPattern => inOrder ["[", listOf arrayPatternElement, "]"]
  | .arrayPatternElement => firstOf [restElement, bindingElement]
  | .expression => assignmentExpression
  | .assignmentExpression =>
    firstOf [arrowFunction,
      inOrder [conditionalExpression, maybe (inOrder [assignmentOperator, assignmentExpression])]]
  | .assignmentOperator =>
    firstOf [inOrder ["=", notAhead (firstOf ["=", ">"])], "+=", "-=", "*=", "/=", "%=", "||=",
      "&&=", "??="]
  | .arrowFunction =>
    inOrder [maybe (keyword .async), arrowParameters, maybe typeAscription, "=>",
      firstOf [functionBody, assignmentExpression]]
  | .arrowParameters => firstOf [identifier, formalParameters]
  | .conditionalExpression =>
    inOrder [binaryExpression,
      maybe (inOrder ["?", assignmentExpression, ":", assignmentExpression])]
  | .binaryExpression => separated binaryOperator binaryOperand
  | .binaryOperand =>
    firstOf [inOrder [notAhead unaryOperatorStart, unaryExpression],
      inOrder [unaryExpression, notAhead (operator (.binary .exponent))]]
  | .unaryOperatorStart =>
    firstOf [inOrder ["-", notAhead "-"], inOrder ["+", notAhead "+"], "!", "~", keyword .typeof,
      keyword .void, keyword .delete, keyword .await]
  | .binaryOperator => firstOf (infixOperators.map fun op => operator op)
  | .operator (.binary .instanceOf) => word [BinaryOperator.spelling .instanceOf]
  | .operator (.binary .isIn) => word [BinaryOperator.spelling .isIn]
  | .operator op => op.spelling
  | .unaryExpression => inOrder [many prefixOperator, postfixExpression]
  | .prefixOperator =>
    firstOf [preIncrement, preDecrement, logicalNot, negate, unaryPlus, bitwiseNot,
      keyword .typeof, keyword .void, keyword .delete, keyword .await]
  | .preIncrement => "++"
  | .preDecrement => "--"
  | .logicalNot => "!"
  | .negate => "-"
  | .unaryPlus => "+"
  | .bitwiseNot => "~"
  | .postfixExpression =>
    inOrder [leftHandSideExpression, maybe postfixOperator, many typeAssertion]
  | .postfixOperator => firstOf [postIncrement, postDecrement]
  | .postIncrement => "++"
  | .postDecrement => "--"
  | .typeAssertion => inOrder [keyword .as, typeExpression]
  | .leftHandSideExpression =>
    inOrder [firstOf [newExpression, primaryExpression], many callSuffix]
  | .callSuffix =>
    firstOf [arguments, memberDot, optionalCall, optionalBracket, optionalMember, memberBracket,
      nonNullAssertion]
  | .arguments => inOrder ["(", listOf listElement, ")"]
  | .memberDot => inOrder [".", identifierName]
  | .optionalMember => inOrder ["?.", identifierName]
  | .optionalCall => inOrder ["?.", arguments]
  | .optionalBracket => inOrder ["?.", "[", expression, "]"]
  | .memberBracket => inOrder ["[", expression, "]"]
  | .nonNullAssertion => inOrder ["!", notAhead "="]
  | .newExpression =>
    inOrder [keyword .new, primaryExpression, many (firstOf [memberDot, memberBracket]),
      maybe arguments]
  | .primaryExpression =>
    firstOf [functionExpression, thisExpression, nullLiteral, booleanLiteral, number, string,
      templateLiteral, arrayLiteral, objectLiteral, parenthesizedExpression, identifier]
  | .parenthesizedExpression => inOrder ["(", expression, ")"]
  | .functionExpression =>
    inOrder [maybe (keyword .async), keyword .function, maybe identifier, maybe typeParameters,
      formalParameters, maybe typeAscription, functionBody]
  | .arrayLiteral => inOrder ["[", listOf listElement, "]"]
  | .listElement => firstOf [spreadElement, assignmentExpression]
  | .spreadElement => inOrder ["...", assignmentExpression]
  | .objectLiteral => inOrder ["\x7b", listOf objectProperty, "\x7d"]
  | .objectProperty =>
    firstOf [spreadElement, methodProperty, keyValueProperty, shorthandProperty]
  | .methodProperty =>
    inOrder [maybe (keyword .async), propertyName, maybe typeParameters, formalParameters,
      maybe typeAscription, functionBody]
  | .keyValueProperty => inOrder [propertyName, ":", assignmentExpression]
  | .shorthandProperty => identifier
  | .propertyName => firstOf [identifierName, string, number, computedPropertyName]
  | .computedPropertyName => inOrder ["[", assignmentExpression, "]"]
  | .typeAscription => inOrder [":", typeExpression]
  | .typeParameters => inOrder ["<", separated "," typeParameter, ">"]
  | .typeParameter =>
    inOrder [identifier, maybe (inOrder [keyword .extends, typeExpression]),
      maybe (inOrder ["=", typeExpression])]
  | .typeDeclaration => inOrder [maybe (keyword .declare), firstOf [interfaceType, typeAlias]]
  | .interfaceType =>
    inOrder [keyword .interface, identifier, maybe typeParameters,
      maybe (inOrder [keyword .extends, separated "," typeExpression]), objectType]
  | .typeAlias =>
    inOrder [keyword .type, identifier, maybe typeParameters, "=", typeExpression, maybe ";"]
  | .typeExpression => inOrder [maybe "|", separated "|" intersectionType]
  | .intersectionType => separated "&" postfixType
  | .postfixType => inOrder [primaryType, many (inOrder ["[", "]"])]
  | .primaryType =>
    firstOf [functionType, objectType, tupleType, inOrder ["(", typeExpression, ")"], string,
      number, inOrder [typeOperator, postfixType], typeReference]
  | .typeOperator => word ["keyof", "typeof", "readonly", "unique"]
  | .functionType => inOrder [maybe typeParameters, formalParameters, "=>", typeExpression]
  | .tupleType => inOrder ["[", listOf typeExpression, "]"]
  | .typeReference => inOrder [separated "." identifierName, maybe typeArguments]
  | .typeArguments => inOrder ["<", separated "," typeExpression, ">"]
  | .objectType =>
    inOrder ["\x7b", many (inOrder [typeMember, maybe (firstOf [";", ","])]), "\x7d"]
  | .typeMember =>
    inOrder [maybe typeOperator, firstOf [indexSignature, methodSignature, propertySignature]]
  | .indexSignature => inOrder ["[", identifier, ":", typeExpression, "]", ":", typeExpression]
  | .methodSignature =>
    inOrder [propertyName, maybe optionalMarker, maybe typeParameters, formalParameters,
      maybe typeAscription]
  | .propertySignature => inOrder [propertyName, maybe optionalMarker, typeAscription]

/-- How a rule treats blanks and whether it shows. -/
def kind : Rule → Peg.RuleKind
  | .moduleItem | .identifierStart | .identifierChar | .statement | .importClause
  | .bindingTarget | .objectPatternProperty | .arrayPatternElement | .binaryOperand
  | .unaryOperatorStart | .binaryOperator | .prefixOperator | .postfixOperator | .callSuffix
  | .primaryExpression | .listElement | .objectProperty | .intersectionType | .postfixType
  | .primaryType | .functionType | .tupleType | .typeReference | .typeArguments | .objectType
  | .typeMember | .indexSignature | .methodSignature | .propertySignature
    => .hidden
  | .reservedWord | .identifier | .identifierName | .nullLiteral | .booleanLiteral
  | .thisExpression | .number | .doubleQuoted | .singleQuoted | .templateChars
  | .declarationKind | .assignmentOperator | .typeOperator
    => .atomic
  | .keyword _ | .operator (.binary .instanceOf) | .operator (.binary .isIn) => .atomic
  | .string | .templateLiteral => .compact
  | .templateSubstitution => .spaced
  | _ => .plain

end Rule

/-- The grammar of scripts and modules. -/
def grammar : Peg.Grammar Rule where
  kind := Rule.kind
  body := Rule.body
  skipBlanks place := skipSpace (place.rest.length + 1) place

end PluginSandbox.Syntax
