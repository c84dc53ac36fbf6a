import MiniShell.Host.Tree
import MiniShell.Host.Utility.Options

/-!
# What utilities have in common

Utilities write to the descriptors of their process and end with an exit code. A message starts
with the name under which the program was called.
-/

namespace MiniShell.Host

/-- Writes to a descriptor of a process, whether or not it can be written to. -/
def say (p : Process) (descriptor : Nat) (bytes : Bytes) : StateM Machine Unit :=
  modify fun m => (m.write p descriptor bytes).2

/-- The name under which a program was called. -/
def Process.calledAs (p : Process) : Bytes := p.arguments.head?.getD []

/-- Writes a message on standard error, after the name of the program. -/
def complain (p : Process) (message : Bytes) : StateM Machine Unit :=
  say p standardError (p.calledAs ++ utf8 ": " ++ message ++ [newline])

/-- Tells where help is to be had, and fails. -/
def referToHelp (p : Process) (message : Bytes) : StateM Machine Nat := do
  complain p message
  say p standardError (utf8 "Try '" ++ p.calledAs ++ utf8 " --help' for more information.\n")
  pure 1

/-- Reports why an operation on a file did not go well, and whether it did. -/
def reportOn (p : Process) (about : Bytes) (result : Except Errno Unit) : StateM Machine Bool :=
  match result with
  | .ok () => pure true
  | .error errno => do
    complain p (about ++ utf8 ": " ++ utf8 errno.library)
    pure false

/-- Prints all that a program has to say. The exit code is that given, or 1 if it could not be
printed. -/
def printAll (p : Process) (bytes : Bytes) (code : Nat) : StateM Machine Nat := do
  if bytes.isEmpty then pure code
  else
    let result ← modifyGet (·.write p standardOutput bytes)
    pure (if ← reportOn p (utf8 "write error") result then code else 1)

/-- Runs an action with the options and operands of a process. One that is asked what it is does
nothing else. -/
def withArguments (p : Process) (table : OptionTable)
    (action : Arguments → StateM Machine Nat) : StateM Machine Nat :=
  let arguments := Arguments.read table (p.arguments.drop 1)
  if arguments.has helpLetter || arguments.has versionLetter then pure 0
  else
    match arguments.fault with
    | some message => referToHelp p message
    | none => action arguments

/-- Runs an action on every operand. The exit code is 0 if it went well for all of them. -/
def forOperands (p : Process) (operands : List Bytes) (action : Bytes → StateM Machine Bool) :
    StateM Machine Nat := do
  if operands.isEmpty then referToHelp p (utf8 "missing operand")
  else
    let results ← operands.mapM action
    pure (if results.all id then 0 else 1)

/-- Words with a blank between neighbours. -/
def joinWords (words : List Bytes) : Bytes := [byte ' '].intercalate words

/-- Applies a change of the tree that reports how it went. -/
def change (step : Machine → Except Errno Unit × Machine) : StateM Machine (Except Errno Unit) :=
  modifyGet step

end MiniShell.Host
