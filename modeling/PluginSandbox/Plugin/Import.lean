import PluginSandbox.Json.Record

/-!
# Import descriptors

A descriptor says what one import of a plugin asks for and the name it is bound to. Descriptors
are plain data: two that name the same import are equal.
-/
namespace PluginSandbox.Plugin

/-- What one import of a plugin asks for. -/
structure Import where
  /-- The attribute read from the module, or the local name when the whole module or its default
  value is bound. -/
  name : String
  /-- The local name when it differs from `name`. -/
  alias? : Option String := none
  /-- The module as the source names it. -/
  module : String
  /-- Whether the attribute `name` is taken out of the module. -/
  unpack : Bool
  /-- Whether the import brings in types alone and binds nothing. -/
  isTypeOnly : Bool := false
  /-- Whether the default value of the module is bound. -/
  isDefault : Bool := false
  deriving DecidableEq, Repr, Inhabited

namespace Import

/-- The import of one attribute. -/
def named (module name : String) : Import := { name, module, unpack := true }

/-- The import of a whole module. -/
def whole (module name : String) : Import := { name, module, unpack := false }

/-- The import of the default value of a module. -/
def default (module name : String) : Import :=
  { name, module, unpack := false, isDefault := true }

/-- The import bound to another name; its own name is no alias. -/
def withAlias (statement : Import) (other : String) : Import :=
  { statement with alias? := if other = statement.name then none else some other }

/-- The import with its mark for types alone set. -/
def withTypeOnly (statement : Import) (isTypeOnly : Bool) : Import :=
  { statement with isTypeOnly }

/-- The name that the import is bound to. -/
def localName (statement : Import) : String := statement.alias?.getD statement.name

/-- The attribute that has to be read from the module, if any. -/
def requestedAttribute? (statement : Import) : Option String :=
  if statement.isDefault then some "default"
  else if statement.unpack then some statement.name
  else none

/-- The descriptor as a JSON object; an alias that is missing is left out. -/
def toJson (statement : Import) : Json :=
  .object <|
    [("name", .text statement.name)]
    ++ (statement.alias?.toList.map fun other => ("alias", .text other))
    ++ [("module", .text statement.module), ("unpack", .boolean statement.unpack),
      ("isTypeOnly", .boolean statement.isTypeOnly), ("isDefault", .boolean statement.isDefault)]

/-- What a field of a descriptor holds. -/
inductive FieldValue where
  /-- A text. -/
  | text (value : String)
  /-- A text or nothing. -/
  | maybe (value : Option String)
  /-- A truth value. -/
  | flag (value : Bool)

/-- The fields of a descriptor in the order of an array. -/
def fields : List (Json.Scan.Field FieldValue) :=
  let text : Json.Scan FieldValue := FieldValue.text <$> Json.Scan.text "a string"
  let flag : Json.Scan FieldValue := FieldValue.flag <$> Json.Scan.flag
  [⟨"name", text, none⟩,
    ⟨"alias", FieldValue.maybe <$> Json.Scan.optional (Json.Scan.text "a string"),
      some (.maybe none)⟩,
    ⟨"module", text, none⟩, ⟨"unpack", flag, none⟩,
    ⟨"isTypeOnly", flag, some (.flag false)⟩, ⟨"isDefault", flag, some (.flag false)⟩]

/-- The descriptor with the given field values. -/
def ofFields? : List FieldValue → Option Import
  | [.text name, .maybe alias?, .text module, .flag unpack, .flag isTypeOnly, .flag isDefault] =>
    some { name, alias?, module, unpack, isTypeOnly, isDefault }
  | _ => none

/-- Reads a descriptor from a JSON text, or gives the message of the failure. -/
def parse (text : String) : Except String Import :=
  match Json.scanAll (Json.Scan.record "ImportStatement" fields) text with
  | .error failure => .error (failure.message text)
  | .ok values =>
    match ofFields? values with
    | some statement => .ok statement
    | none => .error "invalid type"

end Import

end PluginSandbox.Plugin
