import PluginSandbox.Json.Scan

/-!
# Scanning numbers

A number without a fraction and an exponent stays whole as long as it fits 64 bits. Any other
number is the product or quotient of two doubles: its leading digits as far as they fit 64
bits, and a power of ten. The result may differ from the nearest double in its last bit.
-/
namespace PluginSandbox.Json.Scan

/-- Whether one more digit makes a number exceed 64 bits. -/
def overflows (significand : Nat) (digit : Nat) : Bool :=
  1 <<< 64 ≤ significand * 10 + digit

/-- The value of a decimal digit. -/
def digitOf (c : Char) : Option Nat := Text.digitIn? 10 c

/-- The double for a significand and a power of ten. Powers below the range of doubles are
applied in steps of `10 ^ 308`; three of them empty every significand. -/
def scaled : Nat → Float → Int → Scan Float
  | 0, value, _ => pure value
  | steps + 1, value, exponent => do
    if exponent.natAbs ≤ 308 then
      let power := Float.ofScientific 1 false exponent.natAbs
      if 0 ≤ exponent then
        let product := value * power
        if product.isInf then failHere .numberOutOfRange else return product
      else return value / power
    else if value == 0.0 then return value
    else if 0 ≤ exponent then failHere .numberOutOfRange
    else scaled steps (value / Float.ofScientific 1 false 308) (exponent + 308)

/-- The signed double for a significand and a power of ten. -/
def real (positive : Bool) (significand : Nat) (exponent : Int) : Scan Number := do
  let value ← scaled 5 (Float.ofNat significand) exponent
  return .real (if positive then value else -value)

/-- Reads the digits of an exponent after the first one, at most `fuel` of them; `none` when
they exceed 31 bits. -/
def exponentDigits : Nat → Nat → Scan (Option Nat)
  | 0, exponent => pure (some exponent)
  | fuel + 1, exponent => do
    match (← peek).bind digitOf with
    | some digit =>
      skip
      if 1 <<< 31 ≤ exponent * 10 + digit then return none
      else exponentDigits fuel (exponent * 10 + digit)
    | none => return some exponent

/-- How many characters are left. -/
def remaining : Scan Nat := do
  return (← get).rest.length

/-- Reads an exponent from its letter on. -/
def exponent (positive : Bool) (significand : Nat) (start : Int) : Scan Number := do
  skip
  let raises ←
    match ← peek with
    | some '+' => do skip; pure true
    | some '-' => do skip; pure false
    | _ => pure true
  match ← peek with
  | none => failHere .endInValue
  | some c =>
    match digitOf c with
    | none => failAhead .invalidNumber
    | some digit =>
      skip
      match ← exponentDigits (← remaining) digit with
      | some value => real positive significand (if raises then start + value else start - value)
      | none =>
        if significand ≠ 0 && raises then failHere .numberOutOfRange
        else
          skipWhile Char.isDigit
          return .real (if positive then 0.0 else -0.0)

/-- Reads the digits of a fraction, at most `fuel` of them, and gives the significand and how
many digits it took. Digits that do not fit are passed over. -/
def fractionDigits : Nat → Nat → Nat → Scan (Nat × Nat × Bool)
  | 0, significand, count => pure (significand, count, false)
  | fuel + 1, significand, count => do
    match (← peek).bind digitOf with
    | some digit =>
      if overflows significand digit then
        skipWhile Char.isDigit
        return (significand, count, true)
      else
        skip
        fractionDigits fuel (significand * 10 + digit) (count + 1)
    | none => return (significand, count, false)

/-- Reads a fraction from its point on. -/
def fraction (positive : Bool) (significand : Nat) (start : Int) : Scan Number := do
  skip
  let (significand, count, cut) ← fractionDigits (← remaining) significand 0
  if count = 0 && !cut then
    if (← peek).isSome then failAhead .invalidNumber else failAhead .endInValue
  else
    match ← peek with
    | some 'e' | some 'E' => exponent positive significand (start - count)
    | _ => real positive significand (start - count)

/-- Reads what may follow the digits of a whole number. -/
def afterDigits (positive : Bool) (significand : Nat) : Scan Number := do
  match ← peek with
  | some '.' => fraction positive significand 0
  | some 'e' | some 'E' => exponent positive significand 0
  | _ =>
    if positive then return .integer significand
    else if significand = 0 || 1 <<< 63 < significand then
      return .real (-Float.ofNat significand)
    else return .integer (-(significand : Int))

/-- Reads the digits of a whole number that no longer fits, at most `fuel` of them. -/
def longDigits (positive : Bool) (significand : Nat) : Nat → Nat → Scan Number
  | 0, count => real positive significand count
  | fuel + 1, count => do
    match ← peek with
    | some '.' => fraction positive significand count
    | some 'e' | some 'E' => exponent positive significand count
    | some c =>
      if c.isDigit then
        skip
        longDigits positive significand fuel (count + 1)
      else real positive significand count
    | none => real positive significand count

/-- Reads the digits of a whole number after the first one, at most `fuel` of them. -/
def wholeDigits (positive : Bool) : Nat → Nat → Scan Number
  | 0, significand => afterDigits positive significand
  | fuel + 1, significand => do
    match (← peek).bind digitOf with
    | some digit =>
      if overflows significand digit then
        longDigits positive significand ((← remaining) + 1) 0
      else
        skip
        wholeDigits positive fuel (significand * 10 + digit)
    | none => afterDigits positive significand

/-- Reads an unsigned number; the flag tells whether no minus sign preceded it. -/
def number (positive : Bool) : Scan Number := do
  match ← peek with
  | none => failHere .endInValue
  | some '0' =>
    skip
    if ((← peek).bind digitOf).isSome then failAhead .invalidNumber
    else afterDigits positive 0
  | some c =>
    match digitOf c with
    | none => failAhead .invalidNumber
    | some digit =>
      skip
      wholeDigits positive ((← remaining) + 1) digit

end PluginSandbox.Json.Scan
