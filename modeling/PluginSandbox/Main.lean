import PluginSandbox.CommandLine.Commands

/-!
# The command line

The system performs the commands of a program one after the other.
-/
namespace PluginSandbox.CommandLine

open Host (FileError)

/-- The file error that a failure of the system is. -/
def fileError : IO.Error → FileError
  | .noFileOrDirectory .. | .noSuchThing .. => .notFound
  | .inappropriateType _ code problem =>
    if code = 20 then .notDirectory else if code = 21 then .isDirectory
    else .system problem code.toNat
  | .invalidArgument _ code problem =>
    if code = 36 then .nameTooLong else .system problem code.toNat
  | .permissionDenied _ code problem => .system problem code.toNat
  | .otherError code problem => .system problem code.toNat
  | _ => .notText

/-- Performs an action on files. -/
def attemptFile {α : Type} (action : IO α) : IO (Except FileError α) := do
  try
    return .ok (← action)
  catch error => return .error (fileError error)

/-- Performs a command. -/
def performCommand : (command : Command) → IO command.Result
  | .readFile path => attemptFile (IO.FS.readFile path)
  | .writeFile path text => attemptFile (IO.FS.writeFile path text)
  | .readLine => do (← IO.getStdin).getLine
  | .print text => IO.print text
  | .printError text => do
    IO.eprint text
    (← IO.getStderr).flush

/-- Performs a program. -/
def performProgram {α : Type} : Program α → IO α
  | .done value => return value
  | .step command next => do
    performProgram (next (← performCommand command))

end PluginSandbox.CommandLine

open PluginSandbox.CommandLine in
/-- Runs the command line. -/
def main (arguments : List String) : IO UInt32 := do
  return UInt32.ofNat (← performProgram (run arguments))
