/-!
# Searching and cutting texts

Occurrences of one text in another, by characters: the first and the last one, the pieces
between all of them, and their replacement. Occurrences are taken from the left and do not
overlap. The empty text occurs before every character and at the end.
-/
namespace PluginSandbox.Text

/-- How many characters precede the first occurrence of `needle`. -/
def firstIndex? (needle : List Char) : List Char → Option Nat
  | [] => if needle.isEmpty then some 0 else none
  | c :: rest =>
    if needle.isPrefixOf (c :: rest) then some 0
    else (firstIndex? needle rest).map (· + 1)

/-- How many characters precede the last occurrence of `needle`. -/
def lastIndex? (needle text : List Char) : Option Nat :=
  (firstIndex? needle.reverse text.reverse).map
    fun index => text.length - needle.length - index

/-- Whether `needle` occurs in the text. -/
def occursIn (needle text : List Char) : Bool :=
  (firstIndex? needle text).isSome

/-- Cuts a text at the occurrences of a separator that is not empty. The first argument counts
the characters of the current occurrence that are still to be skipped, the second holds the
characters of the current piece, last first. -/
def piecesFrom (separator : List Char) : Nat → List Char → List Char → List (List Char)
  | _, piece, [] => [piece.reverse]
  | skip + 1, piece, _ :: rest => piecesFrom separator skip piece rest
  | 0, piece, c :: rest =>
    if separator.isPrefixOf (c :: rest) then
      piece.reverse :: piecesFrom separator (separator.length - 1) [] rest
    else piecesFrom separator 0 (c :: piece) rest

/-- The pieces of a text between the occurrences of a separator. An empty separator cuts the
text into its characters. -/
def pieces (separator text : List Char) : List (List Char) :=
  if separator.isEmpty then text.map ([·]) else piecesFrom separator 0 [] text

/-- The text with every occurrence of a pattern replaced. -/
def replaceAll (pattern replacement text : List Char) : List Char :=
  if pattern.isEmpty then
    replacement ++ text.flatMap (· :: replacement)
  else
    List.intercalate replacement (piecesFrom pattern 0 [] text)

/-- The text with the first occurrence of a pattern replaced. -/
def replaceFirst (pattern replacement text : List Char) : List Char :=
  match firstIndex? pattern text with
  | some index => text.take index ++ replacement ++ text.drop (index + pattern.length)
  | none => text

end PluginSandbox.Text
