import PluginSandbox.Syntax.Operator

/-!
# Rules of the grammar

The rules of the grammar of scripts and modules, and the names under which error messages and
listings show them.
-/
namespace PluginSandbox.Syntax

/-- The words that have a meaning of their own in some place. -/
inductive Keyword where
  | as | async | await | break | case | catch | continue | declare | default | delete | else
  | export | extends | finally | for | from | function | if | import | in | interface | new | of
  | return | switch | throw | try | type | typeof | void | while
  deriving DecidableEq, Repr

/-- The spelling of a word. -/
def Keyword.spelling : Keyword → String
  | .as => "as"
  | .async => "async"
  | .await => "await"
  | .break => "break"
  | .case => "case"
  | .catch => "catch"
  | .continue => "continue"
  | .declare => "declare"
  | .default => "default"
  | .delete => "delete"
  | .else => "else"
  | .export => "export"
  | .extends => "extends"
  | .finally => "finally"
  | .for => "for"
  | .from => "from"
  | .function => "function"
  | .if => "if"
  | .import => "import"
  | .in => "in"
  | .interface => "interface"
  | .new => "new"
  | .of => "of"
  | .return => "return"
  | .switch => "switch"
  | .throw => "throw"
  | .try => "try"
  | .type => "type"
  | .typeof => "typeof"
  | .void => "void"
  | .while => "while"

/-- The rules of the grammar. -/
inductive Rule where
  | endOfText | moduleSource | script | moduleItem | identifierStart | identifierChar
  | reservedWord | identifier | identifierName | keyword (word : Keyword) | nullLiteral
  | booleanLiteral | thisExpression | number | string | doubleQuoted | singleQuoted
  | templateLiteral | templateChars | templateSubstitution | statement | blockStatement
  | emptyStatement | expressionStatement | declarationKind | variableStatement
  | variableDeclaration | variableDeclarator | definiteMarker | initializer | functionDeclaration
  | functionBody | formalParameters | parameter | restMarker | optionalMarker | ifStatement
  | whileStatement | forStatement | forInit | forTest | forUpdate | forInStatement
  | forOfStatement | switchStatement | switchCase | returnStatement | throwStatement
  | breakStatement | continueStatement | tryStatement | catchClause | finallyClause
  | importDeclaration | typeOnlyMarker | importClause | defaultImport | namespaceImport
  | namedImports | importSpecifier | specifierTypeMarker | moduleSpecifier | exportDefault
  | exportAssignment | exportAll | exportNamed | exportClause | exportSpecifier
  | exportDeclaration | bindingTarget | objectPattern | objectPatternProperty
  | aliasedBindingProperty | shorthandBindingProperty | bindingElement | restElement
  | arrayPattern | arrayPatternElement | expression | assignmentExpression | assignmentOperator
  | arrowFunction | arrowParameters | conditionalExpression | binaryExpression | binaryOperand
  | unaryOperatorStart | binaryOperator | operator (op : InfixOperator) | unaryExpression
  | prefixOperator | preIncrement | preDecrement | logicalNot | negate | unaryPlus | bitwiseNot
  | postfixExpression | postfixOperator | postIncrement | postDecrement | typeAssertion
  | leftHandSideExpression | callSuffix | arguments | memberDot | optionalMember | optionalCall
  | optionalBracket | memberBracket | nonNullAssertion | newExpression | primaryExpression
  | parenthesizedExpression | functionExpression | arrayLiteral | listElement | spreadElement
  | objectLiteral | objectProperty | methodProperty | keyValueProperty | shorthandProperty
  | propertyName | computedPropertyName | typeAscription | typeParameters | typeParameter
  | typeDeclaration | interfaceType | typeAlias | typeExpression | intersectionType | postfixType
  | primaryType | typeOperator | functionType | tupleType | typeReference | typeArguments
  | objectType | typeMember | indexSignature | methodSignature | propertySignature
  deriving DecidableEq, Repr

/-- The rules that show in messages and listings, in the order in which messages list them,
with their names. -/
def Rule.names : List (Rule × String) := [
  (.endOfText, "EOI"), (.moduleSource, "module"), (.script, "function_body_script"),
  (.reservedWord, "reserved_word"), (.identifier, "identifier"),
  (.identifierName, "identifier_name"), (.keyword .as, "kw_as"), (.keyword .async, "kw_async"),
  (.keyword .await, "kw_await"), (.keyword .break, "kw_break"), (.keyword .case, "kw_case"),
  (.keyword .catch, "kw_catch"), (.keyword .continue, "kw_continue"),
  (.keyword .declare, "kw_declare"), (.keyword .default, "kw_default"),
  (.keyword .delete, "kw_delete"), (.keyword .else, "kw_else"), (.keyword .export, "kw_export"),
  (.keyword .extends, "kw_extends"), (.keyword .finally, "kw_finally"), (.keyword .for, "kw_for"),
  (.keyword .from, "kw_from"), (.keyword .function, "kw_function"), (.keyword .if, "kw_if"),
  (.keyword .import, "kw_import"), (.keyword .in, "kw_in"), (.keyword .interface, "kw_interface"),
  (.keyword .new, "kw_new"), (.keyword .of, "kw_of"), (.keyword .return, "kw_return"),
  (.keyword .switch, "kw_switch"), (.keyword .throw, "kw_throw"), (.keyword .try, "kw_try"),
  (.keyword .type, "kw_type"), (.keyword .typeof, "kw_typeof"), (.keyword .void, "kw_void"),
  (.keyword .while, "kw_while"), (.nullLiteral, "null_literal"),
  (.booleanLiteral, "boolean_literal"), (.thisExpression, "this_expression"), (.number, "number"),
  (.string, "string"), (.doubleQuoted, "string_double"), (.singleQuoted, "string_single"),
  (.templateLiteral, "template_literal"), (.templateChars, "template_chars"),
  (.templateSubstitution, "template_substitution"), (.blockStatement, "block_statement"),
  (.emptyStatement, "empty_statement"), (.expressionStatement, "expression_statement"),
  (.declarationKind, "var_kind"), (.variableStatement, "variable_statement"),
  (.variableDeclaration, "variable_declaration"), (.variableDeclarator, "variable_declarator"),
  (.definiteMarker, "definite_marker"), (.initializer, "initializer"),
  (.functionDeclaration, "function_declaration"), (.functionBody, "function_body"),
  (.formalParameters, "formal_parameters"), (.parameter, "parameter"),
  (.restMarker, "rest_marker"), (.optionalMarker, "optional_marker"),
  (.ifStatement, "if_statement"), (.whileStatement, "while_statement"),
  (.forStatement, "for_statement"), (.forInit, "for_init"), (.forTest, "for_test"),
  (.forUpdate, "for_update"), (.forInStatement, "for_in_statement"),
  (.forOfStatement, "for_of_statement"), (.switchStatement, "switch_statement"),
  (.switchCase, "switch_case"), (.returnStatement, "return_statement"),
  (.throwStatement, "throw_statement"), (.breakStatement, "break_statement"),
  (.continueStatement, "continue_statement"), (.tryStatement, "try_statement"),
  (.catchClause, "catch_clause"), (.finallyClause, "finally_clause"),
  (.importDeclaration, "import_declaration"), (.typeOnlyMarker, "type_only_marker"),
  (.defaultImport, "default_import"), (.namespaceImport, "namespace_import"),
  (.namedImports, "named_imports"), (.importSpecifier, "import_specifier"),
  (.specifierTypeMarker, "specifier_type_marker"), (.moduleSpecifier, "module_specifier"),
  (.exportDefault, "export_default"), (.exportAssignment, "export_assignment"),
  (.exportAll, "export_all"), (.exportNamed, "export_named"), (.exportClause, "export_clause"),
  (.exportSpecifier, "export_specifier"), (.exportDeclaration, "export_declaration"),
  (.objectPattern, "object_pattern"), (.aliasedBindingProperty, "aliased_binding_property"),
  (.shorthandBindingProperty, "shorthand_binding_property"), (.bindingElement, "binding_element"),
  (.restElement, "rest_element"), (.arrayPattern, "array_pattern"), (.expression, "expression"),
  (.assignmentExpression, "assignment_expression"), (.assignmentOperator, "assignment_operator"),
  (.arrowFunction, "arrow_function"), (.arrowParameters, "arrow_parameters"),
  (.conditionalExpression, "conditional_expression"), (.binaryExpression, "binary_expression"),
  (.operator (.logical .nullish), "nullish"), (.operator (.logical .or), "logical_or"),
  (.operator (.logical .and), "logical_and"), (.operator (.binary .bitOr), "bit_or"),
  (.operator (.binary .bitXor), "bit_xor"), (.operator (.binary .bitAnd), "bit_and"),
  (.operator (.binary .strictEqual), "strict_eq"),
  (.operator (.binary .strictUnequal), "strict_ne"),
  (.operator (.binary .looseEqual), "loose_eq"), (.operator (.binary .looseUnequal), "loose_ne"),
  (.operator (.binary .lessEqual), "le"), (.operator (.binary .greaterEqual), "ge"),
  (.operator (.binary .less), "lt"), (.operator (.binary .greater), "gt"),
  (.operator (.binary .instanceOf), "op_instanceof"), (.operator (.binary .isIn), "op_in"),
  (.operator (.binary .add), "add"), (.operator (.binary .subtract), "sub"),
  (.operator (.binary .exponent), "exponent"), (.operator (.binary .multiply), "mul"),
  (.operator (.binary .divide), "div"), (.operator (.binary .modulo), "rem"),
  (.unaryExpression, "unary_expression"), (.preIncrement, "pre_increment"),
  (.preDecrement, "pre_decrement"), (.logicalNot, "logical_not"), (.negate, "negate"),
  (.unaryPlus, "unary_plus"), (.bitwiseNot, "bitwise_not"),
  (.postfixExpression, "postfix_expression"), (.postIncrement, "post_increment"),
  (.postDecrement, "post_decrement"), (.typeAssertion, "ts_as_suffix"),
  (.leftHandSideExpression, "left_hand_side_expression"), (.arguments, "arguments"),
  (.memberDot, "member_dot"), (.optionalMember, "optional_member"),
  (.optionalCall, "optional_call"), (.optionalBracket, "optional_bracket"),
  (.memberBracket, "member_bracket"), (.nonNullAssertion, "non_null_assertion"),
  (.newExpression, "new_expression"), (.parenthesizedExpression, "parenthesized_expression"),
  (.functionExpression, "function_expression"), (.arrayLiteral, "array_literal"),
  (.spreadElement, "spread_element"), (.objectLiteral, "object_literal"),
  (.methodProperty, "method_property"), (.keyValueProperty, "key_value_property"),
  (.shorthandProperty, "shorthand_property"), (.propertyName, "property_name"),
  (.computedPropertyName, "computed_property_name"), (.typeAscription, "type_annotation"),
  (.typeParameters, "type_parameters"), (.typeParameter, "type_parameter"),
  (.typeDeclaration, "ts_declaration"), (.interfaceType, "ts_interface"),
  (.typeAlias, "ts_type_alias"), (.typeExpression, "ts_type"),
  (.typeOperator, "ts_type_operator")]

/-- The name of a rule. Rules that never show have none. -/
def Rule.name (rule : Rule) : String :=
  ((Rule.names.find? fun entry => entry.1 = rule).map (·.2)).getD ""

end PluginSandbox.Syntax
