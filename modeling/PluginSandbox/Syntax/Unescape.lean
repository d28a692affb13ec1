import PluginSandbox.Text.Hexadecimal

/-!
# Escapes in strings and templates

A backslash gives the character after it a meaning: a control character, a character by its
number, or nothing for the end of a line. Any other character stands for itself.
-/
namespace PluginSandbox.Syntax

/-- The character with a number that is written in hexadecimal digits, perhaps after a plus
sign. -/
def charOfHex? (digits : List Char) : Option Char :=
  let digits := match digits with
    | '+' :: rest => rest
    | _ => digits
  if digits.isEmpty then none
  else
    (Text.numeral? 16 digits).bind fun n =>
      if n.isValidChar then some (Char.ofNat n) else none

/-- The character with a hexadecimal number; if there is none, the marker and the digits stand
for themselves. -/
def charOfEscape (marker : Char) (digits : List Char) : List Char :=
  match charOfHex? digits with
  | some c => [c]
  | none => marker :: digits

/-- What an escape of one letter stands for. -/
def escapedLetter (c : Char) : Char :=
  match c with
  | 'n' => '\n'
  | 't' => '\t'
  | 'r' => '\r'
  | 'b' => '\x08'
  | 'f' => '\x0c'
  | 'v' => '\x0b'
  | '0' => '\x00'
  | c => c

/-- The characters that the text of a string or template stands for, at most `fuel` steps on. -/
def unescapeFrom : Nat → List Char → List Char
  | 0, _ => []
  | _, [] => []
  | fuel + 1, '\\' :: rest =>
    match rest with
    | [] => []
    | '\r' :: '\n' :: rest => unescapeFrom fuel rest
    | '\r' :: rest => unescapeFrom fuel rest
    | '\n' :: rest => unescapeFrom fuel rest
    | 'x' :: rest => charOfEscape 'x' (rest.take 2) ++ unescapeFrom fuel (rest.drop 2)
    | 'u' :: '\x7b' :: rest =>
      charOfEscape 'u' (rest.takeWhile (· ≠ '\x7d'))
        ++ unescapeFrom fuel ((rest.dropWhile (· ≠ '\x7d')).drop 1)
    | 'u' :: rest => charOfEscape 'u' (rest.take 4) ++ unescapeFrom fuel (rest.drop 4)
    | c :: rest => escapedLetter c :: unescapeFrom fuel rest
  | fuel + 1, c :: rest => c :: unescapeFrom fuel rest

/-- The characters that the text of a string or template stands for. -/
def unescape (raw : List Char) : List Char := unescapeFrom (raw.length + 1) raw

-- A character by its number, a control character, and one that stands for itself.
example : unescape ['\\', 'x', '4', '1', '\\', 'n', 'b'] = ['A', '\n', 'b'] := by cbv

end PluginSandbox.Syntax
