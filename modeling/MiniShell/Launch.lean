import MiniShell.SearchPath
import MiniShell.Tokens.Redirection

/-!
# Running external commands

A command runs in a child process. The child takes the redirection off its tokens and applies it,
looks the program up, and becomes that program. If any of this fails the child reports it on its
own standard error, wherever that goes by then, and ends with status 0. The shell waits for the
child and learns nothing but how it ended.
-/

namespace MiniShell

variable {World Process : Type}

/-- Permissions of a file made by a redirection: its owner may read and write it. -/
def redirectMode : Nat := 0o600

/-- Opens the target of a redirection. -/
def openTarget (sys : System World Process) (process : Process) (target : Path) :
    StateM World (Except Failure (Nat × Process)) := do
  match ← askAbout target (sys.create process target redirectMode) with
  | .error cause => pure (.error (.redirectOpen target cause))
  | .ok opened => pure (.ok opened)

/-- Points standard output and standard error at the file `target`. The descriptor with which the
file was opened is closed again. -/
def redirectOutput (sys : System World Process) (process : Process) (target : Path) :
    StateM World (Except Failure Unit × Process) := do
  match ← openTarget sys process target with
  | .error failure => pure (.error failure, process)
  | .ok (descriptor, process) =>
    match ← sys.duplicate process descriptor standardOutput with
    | .error errno => pure (.error (.redirect errno), ← sys.close process descriptor)
    | .ok process =>
      match ← sys.duplicate process descriptor standardError with
      | .error errno => pure (.error (.redirect errno), ← sys.close process descriptor)
      | .ok process => pure (.ok (), ← sys.close process descriptor)

/-- Becomes the program that token 0 stands for, with all tokens as its arguments. -/
def becomeProgram (sys : System World Process) (search : SearchPath) (process : Process)
    (tokens : Tokens) : StateM World (Except Failure Status) := do
  let name := tokens.name?.getD ""
  match ← search.resolve sys process name with
  | none => pure (.error (.notFound name))
  | some program =>
    let path := utf8 program
    let arguments := tokens.toList.map utf8
    if hasNul path || arguments.any hasNul then pure (.error .invalidArgument)
    else
      match ← sys.execute process path arguments with
      | .error errno => pure (.error (.exec path errno))
      | .ok status => pure (.ok status)

/-- Applies the redirection of a command and becomes its program. Answers with the way the program
ended, or with the reason why none ran, and with the process at that point. -/
def runCommand (sys : System World Process) (search : SearchPath) (process : Process)
    (tokens : Tokens) : StateM World (Except Failure Status × Process) :=
  match tokens.takeRedirection with
  | (.error failure, _) => pure (.error failure, process)
  | (.ok none, command) => do
    pure (← becomeProgram sys search process command, process)
  | (.ok (some target), command) => do
    match ← redirectOutput sys process (utf8 target) with
    | (.error failure, process) => pure (.error failure, process)
    | (.ok (), process) => pure (← becomeProgram sys search process command, process)

/-- The life of a child: a command, or one report and status 0. -/
def runChild (sys : System World Process) (search : SearchPath) (process : Process)
    (tokens : Tokens) : StateM World Status := do
  match ← runCommand sys search process tokens with
  | (.ok status, _) => pure status
  | (.error _, process) =>
    reportError sys process
    pure (.exited 0)

/-- Runs the tokens as an external command and waits for it to end. -/
def launch (sys : System World Process) (search : SearchPath) (process : Process)
    (tokens : Tokens) : StateM World (Except Failure Status) := do
  match ← sys.fork with
  | .error errno => pure (.error (.fork errno))
  | .ok () =>
    let status ← runChild sys search process tokens
    match ← sys.wait status with
    | .error errno => pure (.error (.wait errno))
    | .ok status => pure (.ok status)

end MiniShell
