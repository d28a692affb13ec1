import PluginSandbox.Number.Shortest
import PluginSandbox.Text.Hexadecimal

/-!
# Written forms of numbers

A script sees a number as its shortest decimal without an exponent, a tie going up, except that
whole numbers below `10 ^ 21` show every digit of their exact value. A JSON document shows the
shortest decimal with a fraction or an exponent, a tie going to the even digit. Numbers can also
be written with a fixed count of places, rounded exactly with ties to the even digit, and whole
numbers in another base.
-/
namespace PluginSandbox.Number

/-- The decimal digits of a natural number. -/
def digitsOf (n : Nat) : List Char := Nat.toDigits 10 n

/-- Digits with a point before the last `places` of them, padded with zeros on the left. -/
def placePoint (places : Nat) (digits : List Char) : List Char :=
  if places = 0 then digits
  else
    let padded := List.replicate (places + 1 - digits.length) '0' ++ digits
    padded.take (padded.length - places) ++ '.' :: padded.drop (padded.length - places)

/-- A decimal without an exponent. -/
def Decimal.positional (d : Decimal) : List Char :=
  if 0 ≤ d.exponent then digitsOf d.digits ++ List.replicate d.exponent.toNat '0'
  else placePoint (-d.exponent).toNat (digitsOf d.digits)

/-- A minus sign where one is due. -/
def signed (negative : Bool) (digits : List Char) : String :=
  String.ofList (if negative then '-' :: digits else digits)

/-- A quotient rounded to the nearest whole number, a tie going to the even one. -/
def roundQuotient (numerator denominator : Nat) : Nat :=
  let quotient := numerator / denominator
  let twice := 2 * (numerator % denominator)
  if twice < denominator then quotient
  else if denominator < twice then quotient + 1
  else if quotient % 2 = 0 then quotient
  else quotient + 1

/-- The exact value with a fixed count of places. -/
def Finite.fixed (places : Nat) (x : Finite) : String :=
  let numerator := x.mantissa <<< x.exponent.toNat * Nat.pow 10 places
  let rounded := roundQuotient numerator (1 <<< (-x.exponent).toNat)
  signed x.negative (placePoint places (digitsOf rounded))

/-- The text of an infinity. -/
def infinityText (negative : Bool) : String :=
  if negative then "-Infinity" else "Infinity"

/-- The text of a number as a script sees it. Both zeros are written alike. -/
def toText (x : Float) : String :=
  match parts x with
  | .nan => "NaN"
  | .infinite negative => infinityText negative
  | .finite value =>
    if value.mantissa = 0 then "0"
    else if value.isWhole && value.wholePart < Nat.pow 10 21 then
      signed value.negative (digitsOf value.wholePart)
    else signed value.negative (shortest .upper value).positional

/-- The text of a number with a fixed count of places. -/
def toFixed (places : Nat) (x : Float) : String :=
  match parts x with
  | .finite value => value.fixed places
  | _ => toText x

/-- The exponent of a decimal as JSON documents write it. -/
def exponentText (exponent : Int) : List Char :=
  'e' :: (if exponent < 0 then '-' else '+') :: digitsOf exponent.natAbs

/-- A positive decimal as JSON documents write it: without an exponent from `10 ^ -5` up to
`10 ^ 16`, with one elsewhere. -/
def Decimal.jsonText (d : Decimal) : List Char :=
  let digits := digitsOf d.digits
  let leading := d.exponent + digits.length - 1
  if -5 ≤ leading ∧ leading < 16 then
    if 0 ≤ d.exponent then d.positional ++ ['.', '0'] else d.positional
  else
    match digits with
    | [digit] => digit :: exponentText leading
    | first :: rest => first :: '.' :: rest ++ exponentText leading
    | [] => exponentText leading

/-- The text of a finite double in a JSON document. -/
def Finite.jsonText (x : Finite) : String :=
  if x.mantissa = 0 then signed x.negative ['0', '.', '0']
  else signed x.negative (shortest .even x).jsonText

/-- The digit with a value below thirty-six. -/
def digitChar (value : Nat) : Char :=
  if value < 10 then Char.ofNat ('0'.toNat + value)
  else Char.ofNat ('a'.toNat + (value - 10))

/-- The digits of a number in a base, last digit first, at most `fuel` of them. -/
def reversedDigits (base : Nat) : Nat → Nat → List Char
  | 0, _ => []
  | fuel + 1, n =>
    let digit := digitChar (n % base)
    if n / base = 0 then [digit] else digit :: reversedDigits base fuel (n / base)

/-- The digits of a number in a base from two on; a number has at most as many as its binary
length. -/
def digitsIn (base n : Nat) : List Char :=
  (reversedDigits base (n.log2 + 1) n).reverse

end PluginSandbox.Number
