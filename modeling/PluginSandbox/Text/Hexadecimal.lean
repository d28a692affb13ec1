/-!
# Hexadecimal digits

Writing a number in base sixteen with lowercase digits and reading the digits of either case.
-/
namespace PluginSandbox.Text

/-- The digits of a number in base sixteen, without superfluous zeros. -/
def hexDigits (n : Nat) : List Char := Nat.toDigits 16 n

/-- The last `width` hexadecimal digits of a number, padded with zeros. -/
def fixedHexDigits (width n : Nat) : List Char :=
  let digits := hexDigits n
  List.replicate (width - digits.length) '0' ++ digits

/-- The value of a digit in base thirty-six, letters of either case counting from ten. -/
def digitValue? (c : Char) : Option Nat :=
  if '0' ≤ c && c ≤ '9' then some (c.toNat - '0'.toNat)
  else if 'a' ≤ c && c ≤ 'z' then some (c.toNat - 'a'.toNat + 10)
  else if 'A' ≤ c && c ≤ 'Z' then some (c.toNat - 'A'.toNat + 10)
  else none

/-- The value of a digit in the given base. -/
def digitIn? (base : Nat) (c : Char) : Option Nat :=
  (digitValue? c).filter (· < base)

/-- The number that a list of digits denotes, most significant digit first; `none` when one of
them is no digit of the base. -/
def numeral? (base : Nat) (digits : List Char) : Option Nat :=
  digits.foldl (fun value c => do return (← value) * base + (← digitIn? base c)) (some 0)

end PluginSandbox.Text
