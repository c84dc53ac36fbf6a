import MiniShell.CommandLine
import MiniShell.Host.Layout

/-!
# The shell as a program

The shell runs on a machine of its own. A batch file is taken along from the disk, under the name
that was given for it; nothing on the disk is changed.
-/

namespace MiniShell

/-- Reads a stream to its end, behind the bytes that were read before. -/
partial def readToEnd (stream : IO.FS.Stream) (before : ByteArray) : IO ByteArray := do
  let piece ← stream.read 65536
  if piece.isEmpty then pure before else readToEnd stream (before ++ piece)

/-- The file of that name as an item for a machine, if it can be read. -/
def fetch? (name : String) : IO (Option (Path × Host.Item)) := do
  match ← (IO.FS.readBinFile name).toBaseIO with
  | .ok content => pure (some (utf8 name, .file 0o644 content.toList))
  | .error _ => pure none

/-- Prints bytes on a stream. -/
def emit (stream : IO.FS.Stream) (bytes : Bytes) : IO Unit := do
  stream.write ⟨bytes.toArray⟩
  stream.flush

end MiniShell

open MiniShell in
/-- Runs the shell with the given arguments on what the standard input holds. -/
def main (arguments : List String) : IO UInt32 := do
  let input ← readToEnd (← IO.getStdin) .empty
  let items ← arguments.filterMapM fetch?
  let s := Host.start items input.toList
  let (code, machine) :=
    (runProgram Host.system lineBound s.process (arguments.map utf8)).run s.machine
  let (output, machine) := machine.collect s.output
  emit (← IO.getStdout) output
  emit (← IO.getStderr) (machine.collect s.errors).1
  pure (code.getD exitFailure).toUInt32
