import MiniShell.Host.Script.Letters
import MiniShell.Host.Script.Reader

/-!
# What the name of a command stands for

A name stands for a function of the script, a command of the interpreter, or a program in one of the
directories that the script searches.
-/

namespace MiniShell.Host.Script

/-- How a process becomes a program. -/
abbrev Execute := Process → Path → List Bytes → StateM Machine (Except Errno Status)

/-- The parts of a text that are separated by a byte. -/
def splitOn (separator : UInt8) (text : Bytes) : List Bytes :=
  text.foldr (fun b parts =>
    if b = separator then [] :: parts else (b :: parts.headD []) :: parts.drop 1) [[]]

/-- A path that starts in one of the places that are searched. -/
def pathIn (place path : Path) : Path := if place.isEmpty then path else place ++ slash :: path

/-- The paths at which a program is looked for. -/
def programPaths (i : Interpreter) (name : Bytes) : List Path :=
  if name.contains slash then [name]
  else (splitOn (byte ':') ((i.value? (utf8 "PATH")).getD [])).map (pathIn · name)

/-- Whether an error means that there is nothing at a path. -/
def isMissing (errno : Errno) : Bool := errno == .noEntry || errno == .notDirectory

/-- What speaks against a program at a path. -/
def obstacle? (m : Machine) (workingDir : Nat) (path : Path) : Option Errno :=
  match m.find workingDir path with
  | .error errno => some errno
  | .ok number =>
    if (m.directory? number).isSome || !m.mayExecute number then some .accessDenied else none

/-- The program that a name without a slash stands for, or what speaks against the last thing that
was found. -/
def findProgram (m : Machine) (i : Interpreter) (name : Bytes) : Except Errno Path :=
  let paths := programPaths i name
  let obstacles := paths.map fun path => (path, obstacle? m i.process.workingDir path)
  match obstacles.find? (·.2.isNone) with
  | some (path, _) => .ok path
  | none =>
    .error (((obstacles.filterMap Prod.snd).filter (!isMissing ·)).getLast?.getD .noEntry)

/-- What is said about a name that stands for nothing that can be run. -/
def refusal (name : Bytes) (errno : Errno) : Bytes :=
  name ++ utf8 ": " ++ if isMissing errno then utf8 "not found" else utf8 errno.library

/-- The exit code of a program that could not be started. -/
def refusalCode (errno : Errno) : Nat :=
  if isMissing errno || errno == .tooManyLinks || errno == .nameTooLong then notFound else cannotRun

/-- The interpreter of scripts. -/
def interpreter : Path := utf8 "/bin/sh"

namespace Run

/-- Becomes the program of a name, and answers with the way it ended or with what is in the way. A
file that is no program is taken for a script. -/
def startProgram (execute : Execute) (name : Bytes) (arguments : List Bytes) :
    Run (Except Errno Status) := do
  let i ← get
  let p := i.programProcess
  let start : Path → Run (Except Errno Status) := fun path => do
    match ← machine (execute p path (name :: arguments)) with
    | .error ⟨8⟩ => machine (execute p interpreter (interpreter :: path :: arguments))
    | result => pure result
  let rec tryPaths (found : Errno) : List Path → Run (Except Errno Status)
    | [] => pure (.error found)
    | path :: paths => do
      match ← start path with
      | .error errno => tryPaths (if isMissing errno then found else errno) paths
      | .ok status => pure (.ok status)
  if name.contains slash then start name else tryPaths .noEntry (programPaths i name)

end Run

/-! ## Commands that tell what a name stands for -/

/-- The commands of the interpreter whose mistakes end a script. -/
def specialCommands : List Bytes :=
  [".", ":", "break", "continue", "eval", "exec", "exit", "export", "local", "readonly", "return",
    "set", "shift", "trap", "unset"].map utf8

/-- The other commands of the interpreter. -/
def regularCommands : List Bytes :=
  ["[", "cd", "command", "echo", "false", "getopts", "hash", "kill", "printf", "pwd", "read",
    "test", "true", "type", "umask", "wait"].map utf8

/-- Tells what a name stands for, in a sentence if `verbose`. -/
def describe (verbose : Bool) (name : Bytes) : Run Nat := do
  let i ← get
  let tell := fun (sentence : String) => do
    Run.printLine (if verbose then name ++ utf8 sentence else name)
    pure 0
  if keywords.contains name then tell " is a shell keyword"
  else if (i.functions.lookup name).isSome then tell " is a shell function"
  else if specialCommands.contains name then tell " is a special shell builtin"
  else if regularCommands.contains name then tell " is a shell builtin"
  else
    match findProgram (← Run.machine get) i name with
    | .ok path =>
      Run.printLine (if verbose then name ++ utf8 " is " ++ path else path)
      pure 0
    | .error _ =>
      if verbose then Run.printLine (name ++ utf8 ": not found")
      pure notFound

end MiniShell.Host.Script
