import PluginSandbox.Script.Handover
import PluginSandbox.Script.Run

/-!
# The globals of a realm

Every realm starts with the same global names, whose values are created for it alone. A global of
the library is a function or an object with members, and may have shared properties for the
values of a kind.
-/
namespace PluginSandbox.Script.Library

/-- A member of a global. -/
inductive Member where
  /-- A function. -/
  | function (function : Builtin)
  /-- A number. -/
  | number (value : Float)

/-- A global of the library. -/
structure Global where
  /-- Its name. -/
  name : String
  /-- What a call of it does, if it is a function. -/
  constructor? : Option Builtin := none
  /-- Its members in order. -/
  members : List (String × Member) := []
  /-- Where its shared properties belong. -/
  kind? : Option (Prototypes → Ref) := none
  /-- Its shared properties in order. -/
  shared : List (String × Builtin) := []

/-- The global `Object`. -/
def objectGlobal : Global where
  name := "Object"
  constructor? := some (.object .construct)
  members :=
    [("keys", .function (.object .keys)), ("values", .function (.object .values)),
      ("entries", .function (.object .entries)), ("assign", .function (.object .assign)),
      ("fromEntries", .function (.object .fromEntries)),
      ("freeze", .function (.object .freeze)), ("create", .function (.object .create))]
  kind? := some Prototypes.object
  shared :=
    [("hasOwnProperty", .object .hasOwnProperty), ("toString", .object .toText)]

/-- The global `Array`. -/
def arrayGlobal : Global where
  name := "Array"
  constructor? := some (.array .construct)
  members :=
    [("isArray", .function (.array .isArray)), ("of", .function (.array .ofItems)),
      ("from", .function (.array .fromItems))]
  kind? := some Prototypes.array
  shared :=
    [("push", .array .push), ("pop", .array .pop), ("shift", .array .shift),
      ("unshift", .array .unshift), ("slice", .array .slice), ("splice", .array .splice),
      ("indexOf", .array .indexOf), ("lastIndexOf", .array .lastIndexOf),
      ("includes", .array .includes), ("join", .array .join), ("concat", .array .concat),
      ("reverse", .array .reverse), ("flat", .array .flat), ("at", .array .itemAt),
      ("toString", .array .toText), ("forEach", .array .forEach), ("map", .array .map),
      ("filter", .array .filter), ("reduce", .array .reduce), ("find", .array .find),
      ("findIndex", .array .findIndex), ("some", .array .some), ("every", .array .every),
      ("flatMap", .array .flatMap), ("sort", .array .sort)]

/-- The functions on a text by name. -/
def textFunctions : List (String × StringFunction) :=
  [("charAt", .onText .charAt), ("charCodeAt", .onText .charCodeAt),
    ("at", .onText .itemAt), ("substring", .onText .substring), ("slice", .onText .slice),
    ("indexOf", .onText .indexOf), ("lastIndexOf", .onText .lastIndexOf),
    ("includes", .onText .includes), ("startsWith", .onText .startsWith),
    ("endsWith", .onText .endsWith), ("split", .split), ("trim", .onText .trim),
    ("trimStart", .onText .trimStart), ("trimEnd", .onText .trimEnd),
    ("toUpperCase", .onText .toUpperCase), ("toLowerCase", .onText .toLowerCase),
    ("repeat", .onText .repeated), ("padStart", .onText .padStart),
    ("padEnd", .onText .padEnd), ("replace", .onText .replace),
    ("replaceAll", .onText .replaceAll), ("concat", .onText .concat),
    ("toString", .onText .toText)]

/-- The global `String`. -/
def stringGlobal : Global where
  name := "String"
  constructor? := some (.string .construct)
  members := [("fromCharCode", .function (.string .fromCharCode))]
  kind? := some Prototypes.string
  shared := textFunctions.map fun (name, function) => (name, .string function)

/-- The distance from one to the next double. -/
def epsilon : Float := Float.ofScientific 1 false 0 / Float.ofNat (1 <<< 52)

/-- The global `Number`. -/
def numberGlobal : Global where
  name := "Number"
  constructor? := some (.number .construct)
  members :=
    [("MAX_SAFE_INTEGER", .number 9007199254740991.0),
      ("MIN_SAFE_INTEGER", .number (-9007199254740991.0)),
      ("EPSILON", .number epsilon),
      ("POSITIVE_INFINITY", .number Number.infinity),
      ("NEGATIVE_INFINITY", .number (-Number.infinity)),
      ("NaN", .number Number.nan),
      ("isInteger", .function (.number .isInteger)),
      ("isFinite", .function (.number .isFinite)), ("isNaN", .function (.number .isNaN)),
      ("parseFloat", .function (.number .parseFloat)),
      ("parseInt", .function (.number .parseInt))]
  kind? := some Prototypes.number
  shared := [("toFixed", .number .toFixed), ("toString", .number .toText)]

/-- The functions of `Math` by name. -/
def mathFunctions : List (String × MathFunction) :=
  [("abs", .abs), ("floor", .floor), ("ceil", .ceil), ("round", .round), ("trunc", .trunc),
    ("sign", .sign), ("sqrt", .sqrt), ("cbrt", .cbrt), ("exp", .exp), ("log", .log),
    ("log10", .log10), ("log2", .log2), ("sin", .sin), ("cos", .cos), ("tan", .tan),
    ("atan", .atan), ("atan2", .atan2), ("pow", .pow), ("min", .min), ("max", .max),
    ("hypot", .hypot), ("random", .random)]

/-- The global `Math`. -/
def mathGlobal : Global where
  name := "Math"
  members :=
    [("E", .number 2.718281828459045), ("LN10", .number 2.302585092994046),
      ("LN2", .number 0.6931471805599453), ("LOG10E", .number 0.4342944819032518),
      ("LOG2E", .number 1.4426950408889634), ("PI", .number 3.141592653589793),
      ("SQRT1_2", .number 0.7071067811865476), ("SQRT2", .number 1.4142135623730951)]
    ++ mathFunctions.map fun (name, function) => (name, .function (.math function))

/-- The global `JSON`. -/
def jsonGlobal : Global where
  name := "JSON"
  members := [("parse", .function (.json .parse)), ("stringify", .function (.json .stringify))]

/-- The global `Error`. -/
def errorGlobal : Global where
  name := "Error"
  constructor? := some (.error "Error")
  kind? := some Prototypes.error
  shared := [("toString", .errorText)]

/-- The constructor of errors of a kind. -/
def kindGlobal (kind : ErrorKind) : Global where
  name := kind.name
  constructor? := some (.error kind.name)

/-- The global `console`. -/
def consoleGlobal : Global where
  name := "console"
  members :=
    [("log", .function (.console .info)), ("info", .function (.console .info)),
      ("debug", .function (.console .debug)), ("warn", .function (.console .warn)),
      ("error", .function (.console .error))]

/-- The globals of the library. -/
def globals : List Global :=
  [objectGlobal, arrayGlobal, stringGlobal, numberGlobal, mathGlobal, jsonGlobal, errorGlobal,
    kindGlobal .type, kindGlobal .range, kindGlobal .reference, kindGlobal .syntaxFault,
    consoleGlobal]

/-- The global functions on numbers by name. -/
def numericFunctions : List (String × NumberFunction) :=
  [("parseInt", .parseInt), ("parseFloat", .parseFloat), ("isNaN", .convertsToNaN),
    ("isFinite", .convertsToFinite)]

/-- The global constants by name. -/
def constants : List (String × Value) :=
  [("NaN", .number Number.nan), ("Infinity", .number Number.infinity),
    ("undefined", .undefined)]

/-- Creates a member. -/
def createMember (heap : Heap) (name : String) : Member → Value × Heap
  | .function function => heap.createFunction name (.builtin function)
  | .number value => (.number value, heap)

/-- Creates members. -/
def createMembers (heap : Heap) : List (String × Member) → List (String × Value) × Heap
  | [] => ([], heap)
  | (name, member) :: rest =>
    let (value, heap) := createMember heap name member
    let (entries, heap) := createMembers heap rest
    ((name, value) :: entries, heap)

/-- Creates a global and binds its name. -/
def installGlobal (environment : Environment) (prototypes : Prototypes) (heap : Heap)
    (global : Global) : Heap :=
  let (members, heap) := createMembers heap global.members
  let (shared, heap) :=
    createMembers heap (global.shared.map fun (name, function) => (name, .function function))
  let properties := Properties.ofEntries members
  let (value, heap) :=
    heap.allocateValue (match global.constructor? with
      | some function => .function global.name (.builtin function) properties
      | none => .ordinary properties)
  let heap :=
    match global.kind? with
    | some kind => heap.replace (kind prototypes) (.ordinary (Properties.ofEntries shared))
    | none => heap
  heap.bindName environment global.name value true

/-- Creates a global function on numbers and binds its name. -/
def installFunction (environment : Environment) (heap : Heap)
    (entry : String × NumberFunction) : Heap :=
  let (value, heap) := heap.createFunction entry.1 (.builtin (.number entry.2))
  heap.bindName environment entry.1 value true

/-- Creates a realm with the globals of the library. -/
def createRealm (heap : Heap) : RealmRef × Heap :=
  let (environment, heap) := heap.newScope {} []
  let (object, heap) := heap.allocate (.ordinary {})
  let (array, heap) := heap.allocate (.ordinary {})
  let (string, heap) := heap.allocate (.ordinary {})
  let (number, heap) := heap.allocate (.ordinary {})
  let (function, heap) := heap.allocate (.ordinary {})
  let (error, heap) := heap.allocate (.ordinary {})
  let prototypes : Prototypes := { object, array, string, number, function, error }
  let heap := globals.foldl (installGlobal environment prototypes) heap
  let heap := numericFunctions.foldl (installFunction environment) heap
  let heap := constants.foldl
    (fun heap (name, value) => heap.bindName environment name value false) heap
  (⟨heap.realms.size⟩,
    { heap with realms := heap.realms.push ⟨environment.innermost, prototypes, 0⟩ })

end PluginSandbox.Script.Library
