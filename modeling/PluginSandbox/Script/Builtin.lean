import PluginSandbox.Log
import PluginSandbox.Script.Value

/-!
# Built-in functions

The functions that every realm starts with, by the global object that they belong to. What they
do is defined with the library.
-/
namespace PluginSandbox.Script

/-- The functions of `Object` and of every value. -/
inductive ObjectFunction where
  | construct | keys | values | entries | assign | fromEntries | freeze | create
  | hasOwnProperty | toText
  deriving DecidableEq, Repr

/-- The functions of `Array` and of arrays. -/
inductive ArrayFunction where
  | construct | isArray | ofItems | fromItems
  | push | pop | shift | unshift | slice | splice | indexOf | lastIndexOf | includes | join
  | concat | reverse | flat | itemAt | toText
  | forEach | map | filter | reduce | find | findIndex | some | every | flatMap | sort
  deriving DecidableEq, Repr

/-- The functions on a text that yield a single value. -/
inductive TextFunction where
  | charAt | charCodeAt | itemAt | substring | slice | indexOf | lastIndexOf | includes
  | startsWith | endsWith | trim | trimStart | trimEnd | toUpperCase | toLowerCase
  | repeated | padStart | padEnd | replace | replaceAll | concat | toText
  deriving DecidableEq, Repr

/-- The functions of `String` and of texts. -/
inductive StringFunction where
  /-- The text of a value. -/
  | construct
  /-- The text of some characters. -/
  | fromCharCode
  /-- The pieces of a text. -/
  | split
  /-- A function on a text that yields a single value. -/
  | onText (function : TextFunction)
  deriving DecidableEq, Repr

/-- The functions of `Number` and of numbers, and the global numeric functions. -/
inductive NumberFunction where
  | construct | isInteger | isFinite | isNaN | parseFloat | parseInt
  | convertsToNaN | convertsToFinite | toFixed | toText
  deriving DecidableEq, Repr

/-- The functions of `Math`. -/
inductive MathFunction where
  | abs | floor | ceil | round | trunc | sign | sqrt | cbrt | exp | log | log10 | log2
  | sin | cos | tan | atan | atan2 | pow | min | max | hypot | random
  deriving DecidableEq, Repr

/-- The functions of `JSON`. -/
inductive JsonFunction where
  | parse | stringify
  deriving DecidableEq, Repr

/-- A built-in function. -/
inductive Builtin where
  /-- A function of `Object`. -/
  | object (function : ObjectFunction)
  /-- A function of `Array`. -/
  | array (function : ArrayFunction)
  /-- A function of `String`. -/
  | string (function : StringFunction)
  /-- A function of `Number`. -/
  | number (function : NumberFunction)
  /-- A function of `Math`. -/
  | math (function : MathFunction)
  /-- A function of `JSON`. -/
  | json (function : JsonFunction)
  /-- The constructor of errors of a name. -/
  | error (name : String)
  /-- The text of an error. -/
  | errorText
  /-- The function of `console` that writes entries of a level. -/
  | console (level : LogLevel)
  deriving DecidableEq, Repr

end PluginSandbox.Script
