import PluginSandbox.Host.FileTree

/-!
# Programs of the command line

A program of the command line is a tree of commands to the system whose leaves are exit codes. It
can be run by the system itself, or on a session: a file tree, the lines of an input and what has
been written.
-/
namespace PluginSandbox.CommandLine

open Host (FileError FileTree)

/-- A command to the system. -/
inductive Command where
  /-- Read a file. -/
  | readFile (path : String)
  /-- Write a file. -/
  | writeFile (path text : String)
  /-- Read a line of the input, with its end. -/
  | readLine
  /-- Write to the output. -/
  | print (text : String)
  /-- Write to the output for errors. -/
  | printError (text : String)
  deriving DecidableEq, Repr

/-- What the system answers to a command. -/
@[reducible] def Command.Result : Command → Type
  | .readFile _ => Except FileError String
  | .writeFile _ _ => Except FileError Unit
  | .readLine => String
  | .print _ | .printError _ => Unit

/-- A program that gives commands and ends with a value. -/
inductive Program (α : Type) : Type where
  /-- The program ends. -/
  | done (value : α)
  /-- The program gives a command and goes on with the answer. -/
  | step (command : Command) (next : command.Result → Program α)

namespace Program

/-- Goes on after a program. -/
def bind {α β : Type} (program : Program α) (next : α → Program β) : Program β :=
  match program with
  | .done value => next value
  | .step command more => .step command fun answer => (more answer).bind next

instance : Monad Program where
  pure := .done
  bind := bind

/-- Gives a command. -/
def perform (command : Command) : Program command.Result := .step command .done

/-- Writes to the output. -/
def print (text : String) : Program Unit := perform (.print text)

/-- Writes to the output for errors. -/
def printError (text : String) : Program Unit := perform (.printError text)

/-- Writes a line to the output for errors. -/
def complain (text : String) : Program Unit := printError (text ++ "\n")

end Program

/-- Where a program runs when the system does not run it. -/
structure Session where
  /-- The files. -/
  files : FileTree := {}
  /-- What is left of the input. -/
  input : List Char := []
  /-- What was written to the output. -/
  output : String := ""
  /-- What was written to the output for errors. -/
  errors : String := ""

/-- The first line of some characters, with its end, and the characters after it. -/
def firstLine : List Char → List Char × List Char
  | [] => ([], [])
  | '\n' :: rest => (['\n'], rest)
  | c :: rest =>
    let (line, rest) := firstLine rest
    (c :: line, rest)

/-- The answer to a command in a session, and the session afterwards. -/
def Session.answer (session : Session) : (command : Command) → command.Result × Session
  | .readFile path => (session.files.read path, session)
  | .writeFile path text =>
    match session.files.write path text with
    | .ok files => (.ok (), { session with files })
    | .error error => (.error error, session)
  | .readLine =>
    let (line, input) := firstLine session.input
    (String.ofList line, { session with input })
  | .print text => ((), { session with output := session.output ++ text })
  | .printError text => ((), { session with errors := session.errors ++ text })

/-- Runs a program in a session. -/
def Program.runIn {α : Type} (program : Program α) (session : Session) : α × Session :=
  match program with
  | .done value => (value, session)
  | .step command next =>
    let (result, session) := session.answer command
    (next result).runIn session

end PluginSandbox.CommandLine
