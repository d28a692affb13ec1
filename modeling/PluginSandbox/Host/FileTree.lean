import PluginSandbox.Path
import PluginSandbox.Text.Bytes

/-!
# Files

A tree of text files in memory, addressed by paths relative to its root. The root is a directory,
and so is every directory on the way to a file. What lies outside the root is unknown: there are
directories above it, but nothing else is found there. A file that is written needs a directory
to stand in.
-/
namespace PluginSandbox.Host

/-- Why a file could not be read or written. -/
inductive FileError where
  /-- There is nothing at the path. -/
  | notFound
  /-- A part of the path that is followed by others is no directory. -/
  | notDirectory
  /-- The path leads to a directory. -/
  | isDirectory
  /-- The path, or one name on it, is too long. -/
  | nameTooLong
  /-- The path holds a null character. -/
  | invalidName
  /-- The bytes of the file are no text. -/
  | notText
  /-- Any other failure of the system, with its number. -/
  | system (problem : String) (code : Nat)
  deriving DecidableEq, Repr

/-- The text of a failure of the system. -/
def systemText (problem : String) (code : Nat) : String :=
  problem ++ " (os error " ++ toString code ++ ")"

/-- What a file error tells the user. -/
def FileError.message : FileError → String
  | .notFound => systemText "No such file or directory" 2
  | .notDirectory => systemText "Not a directory" 20
  | .isDirectory => systemText "Is a directory" 21
  | .nameTooLong => systemText "File name too long" 36
  | .invalidName => "file name contained an unexpected NUL byte"
  | .notText => "stream did not contain valid UTF-8"
  | .system problem code => systemText problem code

/-- The names on the way from the root to a file or directory. -/
abbrev Location := List (List Char)

/-- A tree of text files. -/
structure FileTree where
  /-- The files with their texts, each once. -/
  files : List (Location × String) := []
  deriving Inhabited

/-- Where a path leads. -/
inductive Place where
  /-- To a file or directory, or to where one may be created. -/
  | inside (location : Location)
  /-- To a directory above the root. -/
  | outside
  deriving DecidableEq, Repr

namespace FileTree

/-- The text of the file at a location. -/
def file? (tree : FileTree) (location : Location) : Option String := tree.files.lookup location

/-- Whether there is a directory at a location. -/
def isDirectory (tree : FileTree) (location : Location) : Bool :=
  location.isEmpty || tree.files.any fun file =>
    location.isPrefixOf file.1 && location.length < file.1.length

/-- The most bytes that a name may have. -/
def nameLimit : Nat := 255

/-- The most bytes that a path may have. -/
def pathLimit : Nat := 4095

/-- Goes from a place to a part of a path. The part may be missing only when it comes last. -/
def step (tree : FileTree) (place : Place) (part : List Char) : Except FileError Place :=
  match place with
  | .outside =>
    if part = [] ∨ part = ['.'] ∨ part = ['.', '.'] then .ok place
    else if nameLimit < Text.byteSize part then .error .nameTooLong
    else .error .notFound
  | .inside location =>
    if tree.isDirectory location then
      if part = [] ∨ part = ['.'] then .ok place
      else if part = ['.', '.'] then
        if location.isEmpty then .ok .outside else .ok (.inside location.dropLast)
      else if nameLimit < Text.byteSize part then .error .nameTooLong
      else .ok (.inside (location ++ [part]))
    else if (tree.file? location).isSome then .error .notDirectory
    else .error .notFound

/-- Where a path leads. An absolute path starts above the root. -/
def locate (tree : FileTree) (path : String) : Except FileError Place :=
  let chars := path.toList
  if chars.contains '\x00' then .error .invalidName
  else if chars.isEmpty then .error .notFound
  else if pathLimit < Text.byteSize chars then .error .nameTooLong
  else
    (Path.segments chars).foldlM tree.step
      (if Path.isAbsolute chars then .outside else .inside [])

/-- The text of the file at a path. -/
def read (tree : FileTree) (path : String) : Except FileError String := do
  match ← tree.locate path with
  | .outside => .error .isDirectory
  | .inside location =>
    match tree.file? location with
    | some text => .ok text
    | none => .error (if tree.isDirectory location then .isDirectory else .notFound)

/-- The tree with a file of the given text at a location. -/
def insert (tree : FileTree) (location : Location) (text : String) : FileTree :=
  ⟨(location, text) :: tree.files.filter fun file => file.1 ≠ location⟩

/-- A path without the slashes at its end; the root stays a slash. -/
def withoutFinalSlashes (path : String) : String :=
  match path.toList.reverse.dropWhile (· = '/') with
  | [] => path
  | chars => String.ofList chars.reverse

/-- The tree with a text written to the file at a path. A slash at the end asks for a directory,
which cannot be written. -/
def write (tree : FileTree) (path text : String) : Except FileError FileTree := do
  match ← tree.locate (withoutFinalSlashes path) with
  | .outside => .error .isDirectory
  | .inside location =>
    if tree.isDirectory location || path ≠ withoutFinalSlashes path then .error .isDirectory
    else .ok (tree.insert location text)

/-- The tree of files whose paths name them from the root. -/
def ofFiles (files : List (String × String)) : FileTree :=
  files.foldl (fun tree (path, text) =>
    tree.insert ((Path.segments path.toList).filter fun part => part ≠ [] ∧ part ≠ ['.']) text)
    {}

end FileTree

end PluginSandbox.Host
