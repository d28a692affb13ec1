import PluginSandbox.Script.Library.Arrays
import PluginSandbox.Text.Blank

/-!
# Functions on numbers

Reading numbers at the start of a text, and writing numbers with a fixed count of places or in
another base. A whole number is written in another base as far as it fits 64 bits.
-/
namespace PluginSandbox.Script.Library

open Code

/-- The number of the receiver. -/
def receiverNumber (this : Value) : Eval Float :=
  tryHeap fun heap =>
    match heap.unwrap this with
    | .number number => .ok number
    | value => .error (.type ("Number.prototype method called on " ++ heap.textOf value))

/-- Whether a value is a number that a test accepts. -/
def isNumberThat (test : Float → Bool) : Value → Bool
  | .number number => test number
  | _ => false

/-- What has been read of a numeral. -/
structure NumeralScan where
  /-- The character before, none at the start. -/
  previous : Option Char := none
  /-- Whether there was a digit. -/
  hasDigit : Bool := false
  /-- Whether there was a point. -/
  hasPoint : Bool := false
  /-- Whether there was the letter of an exponent. -/
  hasExponent : Bool := false

/-- What has been read of a numeral after one more character, if that may follow: a sign stands
at the start or after the letter of an exponent, a point before that letter, and the letter
after a digit. -/
def NumeralScan.next? (scan : NumeralScan) (c : Char) : Option NumeralScan :=
  let scan' := { scan with previous := some c }
  if Number.isDigit c then some { scan' with hasDigit := true }
  else if c = '+' ∨ c = '-' then
    match scan.previous with
    | none | some 'e' | some 'E' => some scan'
    | _ => none
  else if c = '.' then
    if scan.hasPoint || scan.hasExponent then none else some { scan' with hasPoint := true }
  else if c = 'e' ∨ c = 'E' then
    if scan.hasDigit && !scan.hasExponent then some { scan' with hasExponent := true } else none
  else none

/-- The characters at the start of a text that may belong to a numeral. -/
def numeralStart (scan : NumeralScan) : List Char → List Char
  | [] => []
  | c :: rest =>
    match scan.next? c with
    | some scan => c :: numeralStart scan rest
    | none => []

/-- The number that the longest numeral among the beginnings of some characters denotes; the
characters are given last first. -/
def longestNumeral? : List Char → Option Float
  | [] => none
  | c :: before =>
    match Number.readDecimal? (c :: before).reverse with
    | some number => some number
    | none => longestNumeral? before

/-- The number that a text starts with, after blanks. -/
def parseFloat (text : String) : Float :=
  let chars := (Text.trimStart text).toList
  if "Infinity".toList.isPrefixOf chars || "+Infinity".toList.isPrefixOf chars then
    Number.infinity
  else if "-Infinity".toList.isPrefixOf chars then -Number.infinity
  else (longestNumeral? (numeralStart {} chars).reverse).getD Number.nan

/-- The sign at the start of a numeral as a factor, and the characters after it. -/
def signFactor : List Char → Float × List Char
  | '-' :: rest => (-1.0, rest)
  | '+' :: rest => (1.0, rest)
  | chars => (1.0, chars)

/-- The characters after the mark of a hexadecimal numeral, if they start with one. -/
def afterHexMark? : List Char → Option (List Char)
  | '0' :: 'x' :: rest | '0' :: 'X' :: rest => some rest
  | _ => none

/-- The number that digits of a base denote, as a double after each digit; no digits denote no
number. -/
def ofDigitsIn (base : Nat) (digits : List Nat) : Float :=
  if digits.isEmpty then Number.nan
  else digits.foldl (fun value digit => value * Float.ofNat base + Float.ofNat digit) 0.0

/-- The digits of a base that characters start with. -/
def leadingDigits (base : Nat) : List Char → List Nat
  | [] => []
  | c :: rest =>
    match Text.digitIn? base c with
    | some digit => digit :: leadingDigits base rest
    | none => []

/-- The whole number that a text starts with, in a base; without a base, or in base zero, it is
decimal. A mark makes the numeral hexadecimal if the base allows it. -/
def parseInt (text : String) (base? : Option Nat) : Float :=
  let (factor, chars) := signFactor (Text.trim text).toList
  let base :=
    match base? with
    | none | some 0 => 10
    | some base => base
  let (base, chars) :=
    match afterHexMark? chars with
    | some rest => if base = 16 || base?.isNone then (16, rest) else (base, chars)
    | none => (base, chars)
  if base < 2 || 36 < base then Number.nan
  else factor * ofDigitsIn base (leadingDigits base chars)

/-- The base that an argument gives, none if it is missing. -/
def baseArgument (heap : Heap) : Value → Option Nat
  | .undefined => none
  | value => some (Number.clampToWord 32 (heap.numberOf value))

/-- A whole number in a base; other numbers, and all numbers in base ten, have their usual
text. -/
def numberText (number : Float) (base : Nat) : Except RuntimeError String :=
  if base = 10 || !Number.isWhole number then .ok (Number.toText number)
  else if base < 2 || 36 < base then
    .error (.range "toString() radix must be between 2 and 36")
  else
    .ok (Number.signed (number < 0.0)
      (Number.digitsIn base (Number.clampToWord 64 number.abs)))

/-- A number with the count of places that an argument gives. -/
def fixedText (number places : Float) : Except RuntimeError String :=
  let places := Number.clampToInt (-1) 101 places
  if places < 0 || 100 < places then
    .error (.range "toFixed() digits argument must be between 0 and 100")
  else .ok (Number.toFixed places.toNat number)

/-- What a function of `Number` does, or a global function on numbers. -/
def runNumber (function : NumberFunction) (this : Value) (arguments : List Value) :
    Eval Value := do
  let first := argument arguments 0
  match function with
  | .construct =>
    match arguments with
    | [] => return .number 0.0
    | value :: _ => readHeap fun heap => .number (heap.numberOf value)
  | .isInteger => return .boolean (isNumberThat Number.isWhole first)
  | .isFinite => return .boolean (isNumberThat Number.isFinite first)
  | .isNaN => return .boolean (isNumberThat Float.isNaN first)
  | .convertsToNaN => readHeap fun heap => .boolean (heap.numberOf first).isNaN
  | .convertsToFinite => readHeap fun heap => .boolean (Number.isFinite (heap.numberOf first))
  | .parseFloat => readHeap fun heap => .number (parseFloat (heap.textOf first))
  | .parseInt =>
    readHeap fun heap =>
      .number (parseInt (heap.textOf first) (baseArgument heap (argument arguments 1)))
  | .toFixed =>
    let number ← receiverNumber this
    tryHeap fun heap => .text <$> fixedText number (heap.numberOf first)
  | .toText =>
    let number ← receiverNumber this
    tryHeap fun heap => .text <$> numberText number ((baseArgument heap first).getD 10)

end PluginSandbox.Script.Library
