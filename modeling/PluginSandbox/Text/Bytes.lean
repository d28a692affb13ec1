/-!
# Bytes of a text

Offsets in a text count the bytes of its UTF-8 form, so a character takes one to four of them.
-/
namespace PluginSandbox.Text

/-- How many bytes characters take. -/
def byteSize (chars : List Char) : Nat :=
  chars.foldl (fun bytes c => bytes + c.utf8Size) 0

/-- The longest beginning of a list of characters that has at most so many bytes. -/
def takeBytes : Nat → List Char → List Char
  | _, [] => []
  | bytes, c :: rest =>
    if c.utf8Size ≤ bytes then c :: takeBytes (bytes - c.utf8Size) rest else []

/-- The characters before a byte offset, last first and in front of the given ones, and those
from it on. -/
def splitAt : Nat → List Char → List Char → List Char × List Char
  | 0, before, rest => (before, rest)
  | _, before, [] => (before, [])
  | bytes, before, c :: rest => splitAt (bytes - c.utf8Size) (c :: before) rest

/-- The characters between two byte offsets. -/
def slice (start stop : Nat) (chars : List Char) : List Char :=
  takeBytes (stop - start) (splitAt start [] chars).2

end PluginSandbox.Text
