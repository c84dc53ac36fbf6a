import MiniShell.Bytes
import MiniShell.Error.Wording

/-!
# Error numbers of the system

A failed system call answers with a number. Each number that stands for an error has a symbolic
name and two wordings: the one printed with the symbolic name, and the one of the C library.
-/

namespace MiniShell

/-- The number with which a system call failed. -/
structure Errno where
  number : Nat
  deriving DecidableEq, Repr, Inhabited

namespace Errno

def noEntry : Errno := ⟨2⟩
def inputOutput : Errno := ⟨5⟩
def argumentsTooLong : Errno := ⟨7⟩
def execFormat : Errno := ⟨8⟩
def badDescriptor : Errno := ⟨9⟩
def tryAgain : Errno := ⟨11⟩
def accessDenied : Errno := ⟨13⟩
def busy : Errno := ⟨16⟩
def alreadyExists : Errno := ⟨17⟩
def notDirectory : Errno := ⟨20⟩
def isDirectory : Errno := ⟨21⟩
def invalid : Errno := ⟨22⟩
def noSpace : Errno := ⟨28⟩
def nameTooLong : Errno := ⟨36⟩
def notEmpty : Errno := ⟨39⟩
def tooManyLinks : Errno := ⟨40⟩

/-- The wording of a number, if it is known. -/
def wording? (errno : Errno) : Option Wording := wordings.lookup errno.number

/-- The error that a number stands for. All numbers that stand for none count as 0. -/
def ofNumber (number : Nat) : Errno :=
  if (wordings.lookup number).isSome then ⟨number⟩ else ⟨0⟩

/-- The symbolic name and what it means, as in `ENOENT: No such file or directory`. -/
def symbolic (errno : Errno) : String :=
  match errno.wording? with
  | some w => w.symbol ++ ": " ++ w.kernel
  | none => "UnknownErrno: Unknown errno"

/-- What the C library calls the error. -/
def library (errno : Errno) : String :=
  match errno.wording? with
  | some w => w.library
  | none => if errno.number = 0 then "Success" else "Unknown error " ++ toString errno.number

/-- The wording of the C library with the number, as in `Is a directory (os error 21)`. -/
def numbered (errno : Errno) : String :=
  errno.library ++ " (os error " ++ toString errno.number ++ ")"

end Errno

/-- Why an operation on a file or stream failed. -/
inductive IoError where
  /-- The system refused with a number. -/
  | system (errno : Errno)
  /-- A path held a NUL byte, so the system was not asked. -/
  | nulInPath
  /-- A source of input failed for a reason of its own. -/
  | other (reason : String)
  deriving DecidableEq, Repr

namespace IoError

/-- The number of the system's error, if it was the system that refused. -/
def errno? : IoError → Option Errno
  | .system errno => some errno
  | _ => none

def message : IoError → String
  | .system errno => errno.numbered
  | .nulInPath => "file name contained an unexpected NUL byte"
  | .other reason => reason

end IoError

end MiniShell
