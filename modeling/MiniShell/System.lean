import MiniShell.Error.Failure
import MiniShell.Input.Source

/-!
# What the shell asks of the system

A `System` answers the calls the shell makes. Its state has two parts. The `World` is what all
processes share: files, open files and what was written to them. A `Process` is what each process
has for itself: its working directory and its descriptors. A call that can change the calling
process says so in its type, by answering with the process after it.

A forked child starts from the process of its parent and the parent keeps that process, so nothing
a child does to itself can reach the parent.
-/

namespace MiniShell

/-- How a program ended. -/
inductive Status where
  | exited (code : Nat)
  | signaled (signal : Nat)
  deriving DecidableEq, Repr

/-- Where lines come from. A file that the shell has opened goes by a number. -/
inductive InputStream where
  | standardInput
  | file (number : Nat)
  deriving DecidableEq, Repr

/-- The system calls of the shell. Paths and arguments hold no NUL byte. -/
structure System (World Process : Type) where
  /-- Makes the directory `path` the working directory. -/
  changeDir (process : Process) (path : Path) : StateM World (Except Errno Process)
  /-- The absolute path of the working directory, if it still has one. -/
  currentDir (process : Process) : StateM World (Option Path)
  /-- Whether the process may execute the file `path`. -/
  isExecutable (process : Process) (path : Path) : StateM World Bool
  /-- Opens the file `path` for reading and writing. It is made with the permissions `mode` if it
  is missing, and emptied otherwise. -/
  create (process : Process) (path : Path) (mode : Nat) :
    StateM World (Except Errno (Nat × Process))
  /-- Makes descriptor `new` refer to the open file of descriptor `old`. -/
  duplicate (process : Process) (old new : Nat) : StateM World (Except Errno Process)
  close (process : Process) (descriptor : Nat) : StateM World Process
  write (process : Process) (descriptor : Nat) (bytes : Bytes) : StateM World Unit
  /-- Opens the file `path` for the shell alone to read. -/
  openFile (process : Process) (path : Path) : StateM World (Except Errno InputStream)
  /-- What reads would meet from now on, up to the end of the stream, if nobody else used it. -/
  unread (process : Process) (stream : InputStream) : StateM World Source
  /-- Makes as many reads. -/
  advance (process : Process) (stream : InputStream) (reads : Nat) : StateM World Unit
  /-- Replaces the process by the program `path` and answers with the way that program ended. -/
  execute (process : Process) (path : Path) (arguments : List Bytes) :
    StateM World (Except Errno Status)
  /-- Makes a child process. -/
  fork : StateM World (Except Errno Unit)
  /-- Waits, through all interruptions, for the child, which has come to the given end. Answers
  with that end, if the system can tell it. -/
  wait (ended : Status) : StateM World (Except Errno Status)

/-- Descriptors of the standard streams. -/
def standardOutput : Nat := 1

def standardError : Nat := 2

variable {World Process α : Type}

/-- A path with a NUL byte is refused before the system is asked. -/
def askAbout (path : Path) (call : StateM World (Except Errno α)) :
    StateM World (Except IoError α) :=
  if hasNul path then pure (.error .nulInPath) else do
    match ← call with
    | .error errno => pure (.error (.system errno))
    | .ok a => pure (.ok a)

/-- Writes the one message that stands for every failure. -/
def reportError (sys : System World Process) (process : Process) : StateM World Unit :=
  sys.write process standardError (utf8 errorMessage)

end MiniShell
