import PluginSandbox.Syntax.Operator

/-!
# Syntax trees

The trees that scripts and modules are read as. They hold no positions: two texts that differ
in blanks, comments, type annotations and superfluous parentheses have the same tree.
-/
namespace PluginSandbox.Syntax

/-- A constant in a script. -/
inductive Literal where
  /-- The null value. -/
  | null
  /-- A truth value. -/
  | boolean (value : Bool)
  /-- A text, with its escapes resolved. -/
  | text (value : String)
  /-- A number. -/
  | number (value : Float)

/-- How a variable is declared. -/
inductive DeclarationKind where
  | var | let | const
  deriving DecidableEq, Repr

/-- The word that starts a declaration. -/
def DeclarationKind.spelling : DeclarationKind → String
  | .var => "var"
  | .let => "let"
  | .const => "const"

mutual

/-- An expression. -/
inductive Expr where
  /-- A constant. -/
  | literal (value : Literal)
  /-- A variable. -/
  | identifier (name : String)
  /-- The receiver of the running call. -/
  | this
  /-- A template: pieces of text with expressions between them. -/
  | template (quasis : List String) (expressions : List Expr)
  /-- A list of items. -/
  | array (elements : List Element)
  /-- An object built from its properties. -/
  | object (properties : List Property)
  /-- A function. -/
  | function (definition : Function)
  /-- A function that keeps the receiver of its surroundings. -/
  | arrow (definition : Function)
  /-- An operator before its operand. -/
  | unary (operator : UnaryOperator) (operand : Expr)
  /-- A change by one, before or after the value is taken. -/
  | update (operator : UpdateOperator) (isPrefix : Bool) (target : Expr)
  /-- An operator between two operands. -/
  | binary (operator : BinaryOperator) (left right : Expr)
  /-- An operator that may leave out its second operand. -/
  | logical (operator : LogicalOperator) (left right : Expr)
  /-- A write to a variable or a property. -/
  | assign (operator : AssignmentOperator) (target value : Expr)
  /-- A choice between two expressions. -/
  | conditional (test whenTrue whenFalse : Expr)
  /-- A call; an optional one gives up on a callee that is null or undefined. -/
  | call (callee : Expr) (arguments : List Element) (optional : Bool)
  /-- A construction. -/
  | new (callee : Expr) (arguments : List Element)
  /-- The property with a fixed name. -/
  | member (object : Expr) (name : String) (optional : Bool)
  /-- The property whose key is computed. -/
  | index (object key : Expr) (optional : Bool)
  /-- A wait for a value. -/
  | await (operand : Expr)

/-- An item of a list of values. -/
inductive Element where
  /-- One value. -/
  | item (value : Expr)
  /-- All the values that an expression yields. -/
  | spread (source : Expr)

/-- The key of a property. -/
inductive PropertyKey where
  /-- A fixed key. -/
  | fixed (name : String)
  /-- A key that is computed. -/
  | computed (key : Expr)

/-- A property of an object expression. -/
inductive Property where
  /-- A key with a value; a shorthand names a variable that is both. -/
  | init (key : PropertyKey) (value : Expr) (shorthand : Bool)
  /-- A key with a function. -/
  | method (key : PropertyKey) (definition : Function)
  /-- All the properties of a value. -/
  | spread (source : Expr)

/-- A pattern that takes a value apart and names its parts. -/
inductive Pattern where
  /-- A name for the whole value. -/
  | identifier (name : String)
  /-- Patterns for properties, and for an object of the remaining ones. -/
  | object (properties : List PatternProperty) (rest : Option Pattern)
  /-- Patterns for the first items, and for an array of the remaining ones. -/
  | array (elements : List Pattern) (rest : Option Pattern)
  /-- A pattern with the expression that replaces a missing value. -/
  | withDefault (target : Pattern) (value : Expr)

/-- A property of an object pattern. -/
inductive PatternProperty where
  /-- The key that is read, the pattern for its value, and whether the key alone was written. -/
  | mk (key : PropertyKey) (value : Pattern) (shorthand : Bool)

/-- A function. -/
inductive Function where
  /-- The name if it has one, the parameters, the parameter for the remaining arguments, the
  body, and whether the function may wait and whether it is an arrow. -/
  | mk (name : Option String) (parameters : List Pattern) (rest : Option Pattern)
    (body : FunctionBody) (isAsync isArrow : Bool)

/-- The body of a function. -/
inductive FunctionBody where
  /-- Statements. -/
  | block (statements : List Statement)
  /-- An expression whose value is returned. -/
  | expression (value : Expr)

/-- A variable of a declaration. -/
inductive Declarator where
  /-- The pattern that is bound and its initial value. -/
  | mk (target : Pattern) (initial : Option Expr)

/-- A declaration of variables. -/
inductive VariableDeclaration where
  /-- The kind of the declaration and its variables. -/
  | mk (kind : DeclarationKind) (declarators : List Declarator)

/-- The first part of the head of a counting loop. -/
inductive LoopStart where
  /-- A declaration, whose variables every round gets afresh. -/
  | declaration (declaration : VariableDeclaration)
  /-- An expression. -/
  | expression (value : Expr)

/-- A case of a switch. -/
inductive SwitchCase where
  /-- The value that selects the case, or none for the default case, and its statements. -/
  | mk (test : Option Expr) (body : List Statement)

/-- What a try statement does with an error. -/
inductive CatchClause where
  /-- The pattern for the error and the statements that run. -/
  | mk (parameter : Option Pattern) (body : List Statement)

/-- A statement. -/
inductive Statement where
  /-- An expression for its effect. -/
  | expression (value : Expr)
  /-- Statements in a scope of their own. -/
  | block (body : List Statement)
  /-- Nothing. -/
  | empty
  /-- A named function. -/
  | function (definition : Function)
  /-- A declaration of variables. -/
  | variables (declaration : VariableDeclaration)
  /-- A choice between two statements. -/
  | if (test : Expr) (whenTrue : Statement) (whenFalse : Option Statement)
  /-- A loop while a test holds. -/
  | while (test : Expr) (body : Statement)
  /-- A counting loop. -/
  | for (start : Option LoopStart) (test update : Option Expr) (body : Statement)
  /-- A loop over the keys of a value. -/
  | forIn (kind : DeclarationKind) (target : Pattern) (source : Expr) (body : Statement)
  /-- A loop over the items of a value. -/
  | forOf (kind : DeclarationKind) (target : Pattern) (source : Expr) (body : Statement)
  /-- A choice among cases. -/
  | switch (subject : Expr) (cases : List SwitchCase)
  /-- The end of a function with its result. -/
  | return (value : Option Expr)
  /-- The raising of an error. -/
  | throw (value : Expr)
  /-- Statements with what to do when they fail and what to do in any case. -/
  | try (block : List Statement) (handler : Option CatchClause)
    (finalizer : Option (List Statement))
  /-- The end of a loop or switch. -/
  | break
  /-- The end of a round of a loop. -/
  | continue

end

instance : Inhabited Expr := ⟨.this⟩
instance : Inhabited Pattern := ⟨.identifier ""⟩
instance : Inhabited Statement := ⟨.empty⟩

namespace Function

/-- The name of a function. -/
def name : Function → Option String
  | .mk name _ _ _ _ _ => name

/-- The parameters of a function. -/
def parameters : Function → List Pattern
  | .mk _ parameters _ _ _ _ => parameters

/-- The parameter for the remaining arguments. -/
def rest : Function → Option Pattern
  | .mk _ _ rest _ _ _ => rest

/-- The body of a function. -/
def body : Function → FunctionBody
  | .mk _ _ _ body _ _ => body

/-- Whether a function may wait. -/
def isAsync : Function → Bool
  | .mk _ _ _ _ isAsync _ => isAsync

/-- Whether a function keeps the receiver of its surroundings. -/
def isArrow : Function → Bool
  | .mk _ _ _ _ _ isArrow => isArrow

end Function

mutual

/-- The names that a pattern binds, in order. -/
def Pattern.boundNames : Pattern → List String
  | .identifier name => [name]
  | .object properties rest =>
    PatternProperty.boundNamesOf properties ++ Pattern.boundNamesOfRest rest
  | .array elements rest => Pattern.boundNamesOf elements ++ Pattern.boundNamesOfRest rest
  | .withDefault target _ => target.boundNames

/-- The names that a list of patterns binds, in order. -/
def Pattern.boundNamesOf : List Pattern → List String
  | [] => []
  | pattern :: others => pattern.boundNames ++ Pattern.boundNamesOf others

/-- The names that a pattern for what remains binds. -/
def Pattern.boundNamesOfRest : Option Pattern → List String
  | none => []
  | some pattern => pattern.boundNames

/-- The names that the properties of an object pattern bind, in order. -/
def PatternProperty.boundNamesOf : List PatternProperty → List String
  | [] => []
  | .mk _ value _ :: others => value.boundNames ++ PatternProperty.boundNamesOf others

end

/-- The names that a declaration binds, in order. -/
def VariableDeclaration.boundNames : VariableDeclaration → List String
  | .mk _ declarators => declarators.flatMap fun | .mk target _ => target.boundNames

/-- A default export. -/
inductive DefaultExport where
  /-- A function, which may be unnamed. -/
  | function (definition : Function)
  /-- The value of an expression. -/
  | expression (value : Expr)

/-- One name that an import declaration binds. -/
inductive ImportSpecifier where
  /-- The default value of the module. -/
  | default (name : String)
  /-- The whole module. -/
  | whole (name : String)
  /-- An attribute of the module; it may bring in a type alone. -/
  | named (imported name : String) (isTypeOnly : Bool)
  deriving DecidableEq, Repr

/-- One name that an export list gives out, and the name it has outside. -/
structure ExportSpecifier where
  /-- The name in the module, or the attribute of the module it is taken from. -/
  name : String
  /-- The name outside. -/
  exported : String
  deriving DecidableEq, Repr

/-- A declaration that is exported under its own names. -/
inductive Declaration where
  /-- A function. -/
  | function (definition : Function)
  /-- Variables. -/
  | variables (declaration : VariableDeclaration)

/-- The part of a source from one byte offset up to another. -/
structure Span where
  /-- Where the part starts. -/
  start : Nat
  /-- Where the part ends. -/
  stop : Nat
  deriving DecidableEq, Repr, Inhabited

/-- An item of a module. -/
inductive ModuleItem where
  /-- A statement. -/
  | statement (statement : Statement)
  /-- An import declaration; it may bring in types alone. -/
  | importDeclaration (specifiers : List ImportSpecifier) (source : String) (isTypeOnly : Bool)
  /-- A default export, and the part of the source that it spans. -/
  | exportDefault (value : DefaultExport) (span : Span)
  /-- An assignment to all exports, and the part of the source that it spans. -/
  | exportAssignment (value : Expr) (span : Span)
  /-- An exported declaration. -/
  | exportDeclaration (declaration : Declaration)
  /-- An export list, of the module itself or of another one; it may give out types alone. -/
  | exportList (specifiers : List ExportSpecifier) (source : Option String) (isTypeOnly : Bool)
  /-- All exports of another module, in one object or each by itself. -/
  | exportAll (exported : Option String) (source : String)

end PluginSandbox.Syntax
