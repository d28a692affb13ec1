import PluginSandbox.Text.Hexadecimal

/-!
# Quoted texts

The double-quoted form of a text in JSON documents and in scripts: a backslash before a quote
or a backslash, letters for the common control characters, four hexadecimal digits for the
other ones, and every other character as it is. Names inside messages stand between backticks.
-/
namespace PluginSandbox.Text

/-- A name between backticks. -/
def ticked (name : String) : String := "\x60" ++ name ++ "\x60"

namespace Quoted

/-- The quoted form of one character. -/
def encodeChar (c : Char) : List Char :=
  match c with
  | '"' => ['\\', '"']
  | '\\' => ['\\', '\\']
  | '\n' => ['\\', 'n']
  | '\r' => ['\\', 'r']
  | '\t' => ['\\', 't']
  | '\x08' => ['\\', 'b']
  | '\x0c' => ['\\', 'f']
  | _ => if c.toNat < 32 then ['\\', 'u'] ++ fixedHexDigits 4 c.toNat else [c]

/-- The characters of the quoted form of a text. -/
def encodeChars (chars : List Char) : List Char :=
  '"' :: chars.flatMap encodeChar ++ ['"']

/-- The quoted form of a text. -/
def encode (text : String) : String :=
  String.ofList (encodeChars text.toList)

end Quoted

end PluginSandbox.Text
