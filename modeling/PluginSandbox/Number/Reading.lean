import PluginSandbox.Number.Notation
import PluginSandbox.Text.Blank

/-!
# Reading numbers

A decimal numeral is a run of digits with an optional fraction, or a fraction alone, and an
optional exponent; its value is the nearest double. Scripts add hexadecimal literals of at most
64 bits. Texts convert to numbers by the same rules after trimming.
-/
namespace PluginSandbox.Number

/-- The double nearest to a decimal. Exponents beyond the range of doubles are decided without
computing the power. -/
def Decimal.toFloat (d : Decimal) : Float :=
  let leading := d.exponent + (digitsOf d.digits).length
  if d.digits = 0 then 0.0
  else if 310 < leading then infinity
  else if leading < -330 then 0.0
  else Float.ofScientific d.digits (d.exponent < 0) d.exponent.natAbs

/-- Whether a character is a decimal digit. -/
def isDigit (c : Char) : Bool := '0' ≤ c && c ≤ '9'

/-- The number that a run of decimal digits denotes. -/
def ofDigits (digits : List Char) : Nat :=
  digits.foldl (fun value c => value * 10 + (c.toNat - '0'.toNat)) 0

/-- The exponent of a numeral: nothing, or a letter, an optional sign and digits to the end. -/
def readExponent? : List Char → Option Int
  | [] => some 0
  | 'e' :: rest | 'E' :: rest =>
    let (negative, digits) :=
      match rest with
      | '-' :: digits => (true, digits)
      | '+' :: digits => (false, digits)
      | digits => (false, digits)
    if digits.isEmpty || !digits.all isDigit then none
    else some (if negative then -(ofDigits digits : Int) else ofDigits digits)
  | _ => none

/-- The decimal that an unsigned numeral denotes. -/
def readUnsigned? (chars : List Char) : Option Decimal := do
  let whole := chars.takeWhile isDigit
  let (fraction, rest) :=
    match chars.dropWhile isDigit with
    | '.' :: rest => (rest.takeWhile isDigit, rest.dropWhile isDigit)
    | rest => ([], rest)
  if whole.isEmpty && fraction.isEmpty then none
  else
    let exponent ← readExponent? rest
    some ⟨ofDigits (whole ++ fraction), exponent - fraction.length⟩

/-- The double that a decimal numeral with an optional sign denotes. -/
def readDecimal? : List Char → Option Float
  | '-' :: rest => (readUnsigned? rest).map fun d => -d.toFloat
  | '+' :: rest => (readUnsigned? rest).map Decimal.toFloat
  | chars => (readUnsigned? chars).map Decimal.toFloat

/-- The double that hexadecimal digits denote, after an optional plus sign and below `2 ^ 64`. -/
def readHexadecimal? (chars : List Char) : Option Float :=
  let digits :=
    match chars with
    | '+' :: digits => digits
    | digits => digits
  if digits.isEmpty then none
  else
    match Text.numeral? 16 digits with
    | some n => if n < 1 <<< 64 then some (Float.ofNat n) else none
    | none => none

/-- The double that a literal denotes: hexadecimal after `0x` or `0X`, decimal otherwise. -/
def readLiteral? : List Char → Option Float
  | '0' :: 'x' :: digits | '0' :: 'X' :: digits => readHexadecimal? digits
  | chars => readDecimal? chars

/-- Whether a character may stand in the text of a number: anything but the letters that no
numeral holds. -/
def isNumeralChar (c : Char) : Bool :=
  !c.isAlpha || "eExXabcdefABCDEF".toList.contains c

/-- The number that a text converts to. Blank texts are zero, and what is no numeral is no
number. -/
def ofText (text : String) : Float :=
  match (Text.trim text).toList with
  | [] => 0.0
  | chars =>
    if chars = "Infinity".toList || chars = "+Infinity".toList then infinity
    else if chars = "-Infinity".toList then -infinity
    else
      let (sign, digits) :=
        match chars with
        | '-' :: digits => (-1.0, digits)
        | '+' :: digits => (1.0, digits)
        | digits => (1.0, digits)
      if digits.all isNumeralChar then
        match readLiteral? digits with
        | some value => sign * value
        | none => nan
      else nan

end PluginSandbox.Number
