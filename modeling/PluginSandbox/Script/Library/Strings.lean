import PluginSandbox.Script.Library.Arrays
import PluginSandbox.Text.Blank
import PluginSandbox.Text.Case
import PluginSandbox.Text.Search

/-!
# Functions on texts

A text is a sequence of characters, and all places count characters. A function on a text takes
the text of any receiver but null and undefined.
-/
namespace PluginSandbox.Script.Library

open Code

/-- The text of the receiver. -/
def receiverText (this : Value) : Eval String :=
  tryHeap fun heap =>
    match heap.unwrap this with
    | .undefined | .null =>
      .error (.type "String.prototype method called on null or undefined")
    | value => .ok (heap.textOf value)

/-- A place in a sequence of some length; negative numbers stand for the start. -/
def clampedPlace (heap : Heap) (length default : Nat) : Value → Nat
  | .undefined => default
  | value => (Number.clampToInt 0 length (heap.numberOf value)).toNat

/-- The character at the index that a number gives, if it is not negative. -/
def charAtNumber? (chars : List Char) (number : Float) : Option Char :=
  let index := Number.clampToInt (-1) chars.length number
  if index < 0 then none else chars[index.toNat]?

/-- The characters with the given codes; codes of no character are left out. -/
def charsOfCodes (codes : List Nat) : List Char :=
  codes.filterMap fun code => if code.isValidChar then some (Char.ofNat code) else none

/-- The text that a number of repetitions of a text makes. -/
def repeatText (heap : Heap) (text : String) (count : Value) : Except RuntimeError String :=
  let number := Number.truncated (heap.numberOf count)
  let number := if number.isNaN then 0.0 else number
  if number < 0.0 || number.isInf then
    .error (.range ("Invalid count value: " ++ Number.toText number))
  else if text.isEmpty then .ok text
  else
    let count := Number.clampToWord 64 number
    if maximumTextSize < count * text.utf8ByteSize then .error invalidTextSize
    else .ok (String.ofList (List.replicate count text.toList).flatten)

/-- The first so many characters of a text that is repeated without end. -/
def cycled (count : Nat) (filler : List Char) : List Char :=
  let rounds := count / filler.length + 1
  (List.replicate rounds filler).flatten.take count

/-- The characters that fill a text up to a length. -/
def padding (heap : Heap) (text : String) (arguments : List Value) :
    Except RuntimeError String :=
  let target := heap.numberOf (argument arguments 0)
  if Float.ofNat maximumTextSize < target then .error invalidTextSize
  else
    let length := Number.clampToWord 64 target
    let filler :=
      match argument arguments 1 with
      | .undefined => " "
      | value => heap.textOf value
    if length ≤ text.length || filler.isEmpty then .ok ""
    else .ok (String.ofList (cycled (length - text.length) filler.toList))

/-- The pieces of a text between separators, at most as many as a limit allows. -/
def splitText (heap : Heap) (text : String) (arguments : List Value) : List Value :=
  let pieces :=
    match argument arguments 0 with
    | .undefined => [text]
    | separator =>
      (Text.pieces (heap.textOf separator).toList text.toList).map String.ofList
  let limited :=
    match argument arguments 1 with
    | .undefined => pieces
    | limit => pieces.take (Number.clampToWord 64 (heap.numberOf limit))
  limited.map .text

/-- A text followed by the texts of some values. -/
def concatTexts (heap : Heap) : String → List Value → Except RuntimeError String
  | text, [] => .ok text
  | text, value :: rest => do
    concatTexts heap (← joinTexts text (heap.textOf value)) rest

/-- The characters between two places, in whatever order they are given. -/
def substring (chars : List Char) (a b : Nat) : List Char :=
  between (min a b) (max a b) chars

/-- What a function on a text yields for the text of its receiver. -/
def applyText (heap : Heap) (function : TextFunction) (text : String)
    (arguments : List Value) : Except RuntimeError Value :=
  let chars := text.toList
  let length := chars.length
  let first := argument arguments 0
  let second := argument arguments 1
  let ofChars (chars : List Char) : Except RuntimeError Value :=
    .ok (.text (String.ofList chars))
  let ofChar? (char? : Option Char) (missing : Value) : Except RuntimeError Value :=
    .ok ((char?.map fun c => .text (String.singleton c)).getD missing)
  let needle := (heap.textOf first).toList
  let start := clampedPlace heap length 0 second
  match function with
  | .charAt => ofChar? (charAtNumber? chars (heap.numberOf first)) (.text "")
  | .charCodeAt =>
    match charAtNumber? chars (heap.numberOf first) with
    | some c => .ok (.ofNat c.toNat)
    | none => .ok (.number Number.nan)
  | .itemAt =>
    ofChar? ((indexFromEnd? length (heap.numberOf first)).bind (chars[·]?)) .undefined
  | .substring =>
    ofChars (substring chars (clampedPlace heap length 0 first)
      (clampedPlace heap length length second))
  | .slice =>
    ofChars (between (placeArgument heap length 0 first)
      (placeArgument heap length length second) chars)
  | .indexOf =>
    .ok (placeValue ((Text.firstIndex? needle (chars.drop start)).map (start + ·)))
  | .lastIndexOf => .ok (placeValue (Text.lastIndex? needle chars))
  | .includes => .ok (.boolean (Text.occursIn needle (chars.drop start)))
  | .startsWith => .ok (.boolean (needle.isPrefixOf (chars.drop start)))
  | .endsWith =>
    .ok (.boolean (needle.isSuffixOf (chars.take (clampedPlace heap length length second))))
  | .trim => .ok (.text (Text.trim text))
  | .trimStart => .ok (.text (Text.trimStart text))
  | .trimEnd => .ok (.text (Text.trimEnd text))
  | .toUpperCase => .ok (.text (Text.toUppercase text))
  | .toLowerCase => .ok (.text (Text.toLowercase text))
  | .repeated => .text <$> repeatText heap text first
  | .padStart => return .text ((← padding heap text arguments) ++ text)
  | .padEnd => return .text (text ++ (← padding heap text arguments))
  | .replace => ofChars (Text.replaceFirst needle (heap.textOf second).toList chars)
  | .replaceAll => ofChars (Text.replaceAll needle (heap.textOf second).toList chars)
  | .concat => .text <$> concatTexts heap text arguments
  | .toText => .ok (.text text)

/-- What a function of `String` does. -/
def runString (function : StringFunction) (this : Value) (arguments : List Value) :
    Eval Value := do
  match function with
  | .construct =>
    match arguments with
    | [] => return .text ""
    | value :: _ => readHeap fun heap => .text (heap.textOf value)
  | .fromCharCode =>
    readHeap fun heap =>
      let codes := arguments.map fun value => Number.clampToWord 32 (heap.numberOf value)
      .text (String.ofList (charsOfCodes codes))
  | .split =>
    let text ← receiverText this
    createArray (← readHeap fun heap => splitText heap text arguments)
  | .onText function =>
    let text ← receiverText this
    tryHeap fun heap => applyText heap function text arguments

end PluginSandbox.Script.Library
