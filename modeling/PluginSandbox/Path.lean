/-!
# Document paths

Local modules name documents by paths whose segments are separated by slashes. Paths are plain
texts and need not belong to a file system. A path is brought to normal form by working its
segments into a stack: empty and single-dot segments vanish, and a double dot removes the
segment before it, stays in front of a relative path, and vanishes at the root.
-/
namespace PluginSandbox.Path

/-- The segments of a path, without the slashes between them. -/
def segments : List Char → List (List Char)
  | [] => [[]]
  | '/' :: rest => [] :: segments rest
  | c :: rest =>
    match segments rest with
    | segment :: others => (c :: segment) :: others
    | [] => [[c]]

/-- The path with the given segments. -/
def joinSegments : List (List Char) → List Char
  | [] => []
  | [segment] => segment
  | segment :: rest => segment ++ '/' :: joinSegments rest

/-- Works a segment into a stack of segments, the last one on top. -/
def push (absolute : Bool) (stack : List (List Char)) (segment : List Char) :
    List (List Char) :=
  if segment = [] ∨ segment = ['.'] then stack
  else if segment = ['.', '.'] then
    match stack with
    | top :: rest =>
      if top ≠ ['.', '.'] then rest else if absolute then stack else segment :: stack
    | [] => if absolute then [] else [segment]
  else segment :: stack

/-- Whether a path starts at the root. -/
def isAbsolute : List Char → Bool
  | '/' :: _ => true
  | _ => false

/-- The stack that the segments of a path leave. -/
def stackOf (path : List Char) : List (List Char) :=
  (segments path).foldl (push (isAbsolute path)) []

/-- The normal form of the characters of a path. -/
def normalizeChars (path : List Char) : List Char :=
  let joined := joinSegments (stackOf path).reverse
  if isAbsolute path then '/' :: joined
  else if joined.isEmpty then ['.']
  else joined

/-- A path without empty and single-dot segments, with double dots only in front and only when
it is relative. The relative path without segments is a single dot. -/
def normalize (path : String) : String :=
  String.ofList (normalizeChars path.toList)

/-- The characters of the normal form of a path that is relative to a directory. -/
def joinChars (base relative : List Char) : List Char :=
  if base.isEmpty || isAbsolute relative then normalizeChars relative
  else normalizeChars (base ++ '/' :: relative)

/-- The normal form of a path that is relative to a directory. -/
def join (base relative : String) : String :=
  String.ofList (joinChars base.toList relative.toList)

/-- The characters before the last slash; a path whose only slash comes first has the root as
its directory. -/
def dirnameChars (path : List Char) : List Char :=
  match path.reverse.dropWhile (· ≠ '/') with
  | [] => []
  | [_] => ['/']
  | _ :: before => before.reverse

/-- The directory part of a path, empty for a bare file name. -/
def dirname (path : String) : String :=
  String.ofList (dirnameChars path.toList)

/-- The path of a module that the document at `base` imports. -/
def resolveRelative (base module : String) : String :=
  join (dirname base) module

/-- Whether a module name is a path relative to the importing document. -/
def isRelative (module : String) : Bool :=
  "./".isPrefixOf module || "../".isPrefixOf module

/-- The characters after the last slash. -/
def fileName (path : List Char) : List Char :=
  (path.reverse.takeWhile (· ≠ '/')).reverse

/-- The characters after the last dot of a file name, if a dot stands after its first
character. -/
def extension? (path : List Char) : Option (List Char) :=
  let file := (fileName path).reverse
  match file.dropWhile (· ≠ '.') with
  | _ :: _ :: _ => some (file.takeWhile (· ≠ '.')).reverse
  | _ => none

/-- Whether the document at a path holds a script: its file name has no extension, or one of
those that scripts have. -/
def isScript (path : String) : Bool :=
  match extension? path.toList with
  | none => true
  | some extension => ["js", "mjs", "ts"].contains (String.ofList extension)

end PluginSandbox.Path
