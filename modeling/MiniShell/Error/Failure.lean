import MiniShell.Error.Errno
import MiniShell.Text.Lossy

/-!
# Failures of the shell

Whatever goes wrong, the user sees one fixed line (`errorMessage`). The cause is kept in a
`Failure`: it decides whether the whole session ends, and it has a text and an underlying error of
its own for whoever asks.
-/

namespace MiniShell

/-- The only message a user ever sees. -/
def errorMessage : String := "An error has occurred\n"

/-- What went wrong. -/
inductive Failure where
  /-- A built-in was given the wrong number of arguments. -/
  | usage (command : String)
  /-- The working directory could not be changed to `path`. -/
  | changeDir (path : Path) (cause : IoError)
  /-- A redirection operator without exactly one file name after it. -/
  | redirectSyntax
  /-- The file `path` could not be opened for output. -/
  | redirectOpen (path : Path) (cause : IoError)
  /-- The output streams could not be pointed at an open file. -/
  | redirect (cause : Errno)
  /-- No directory of the search path holds an executable `name`. -/
  | notFound (name : String)
  /-- An argument holds a NUL byte. -/
  | invalidArgument
  /-- The system refused to execute `path`. -/
  | exec (path : Path) (cause : Errno)
  /-- No child process could be made. -/
  | fork (cause : Errno)
  /-- The end of a child process could not be awaited. -/
  | wait (cause : Errno)
  /-- The batch file `path` could not be opened. -/
  | batchOpen (path : Path) (cause : IoError)
  /-- The source of lines failed. -/
  | read (cause : IoError)
  deriving DecidableEq, Repr

/-- What an error was caused by: an error of the system under its symbolic name, or an error of
an operation on a file or stream. -/
inductive Cause where
  | symbolic (errno : Errno)
  | io (error : IoError)
  deriving DecidableEq, Repr

namespace Cause

def errno? : Cause → Option Errno
  | .symbolic errno => some errno
  | .io error => error.errno?

def message : Cause → String
  | .symbolic errno => errno.symbolic
  | .io error => error.message

end Cause

namespace Failure

/-- The error underneath a failure. -/
def cause? : Failure → Option Cause
  | .changeDir _ cause | .redirectOpen _ cause | .batchOpen _ cause | .read cause =>
    some (.io cause)
  | .redirect cause | .exec _ cause | .fork cause | .wait cause => some (.symbolic cause)
  | .usage _ | .redirectSyntax | .notFound _ | .invalidArgument => none

/-- The number of the system's error underneath a failure. -/
def errno? (failure : Failure) : Option Errno := failure.cause?.bind Cause.errno?

/-- What is said of a failure. Paths are given as they were asked for. -/
def message : Failure → String
  | .usage command => command ++ ": invalid usage"
  | .changeDir path _ => "cd: can't chdir to " ++ decodeLossy path
  | .redirectSyntax => "redirection must be followed by exactly one file name"
  | .redirectOpen path _ => "can't open redirection target " ++ decodeLossy path
  | .redirect cause => "can't redirect output: " ++ cause.symbolic
  | .notFound name => "command not found: " ++ name
  | .invalidArgument => "argument contains an interior NUL byte"
  | .exec path _ => "can't execute " ++ decodeLossy path
  | .fork cause => "can't fork: " ++ cause.symbolic
  | .wait cause => "can't wait for child: " ++ cause.symbolic
  | .batchOpen path _ => "can't open batch file " ++ decodeLossy path
  | .read _ => "can't read input"

/-- Whether a failure ends the session, and not just the command. -/
def isFatal : Failure → Bool
  | .fork _ | .batchOpen .. | .read _ => true
  | _ => false

end Failure

end MiniShell
