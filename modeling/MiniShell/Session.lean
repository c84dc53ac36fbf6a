import MiniShell.Input.Line
import MiniShell.Shell

/-!
# Sessions

A session runs line after line until a built-in ends it, the lines end, or something fatal
happens. Lines come from the standard input, with a prompt before each, or from a batch file.
Every failure is reported by the same message.

Commands share the standard input of the shell and may write to its batch file, so a line is read
only when its turn has come. How many lines there will be cannot be told in advance, and sessions
are run up to a bound.
-/

namespace MiniShell

variable {World Process : Type}

/-- Where the lines of a session come from. -/
inductive Mode where
  | interactive
  | batch (path : Path)
  deriving DecidableEq, Repr

/-- More lines than any session gets to. -/
def lineBound : Nat := 18446744073709551616

/-- What one turn of a session came to. -/
inductive Turn (Process : Type) where
  /-- There was no line to run, and the session is over. -/
  | ended (code : Nat)
  /-- A line was run, with the given result. The shell and the unused bytes are those after it. -/
  | ran (line : String) (result : Except Failure Outcome) (sh : Shell Process) (buffer : Bytes)

namespace Shell

/-- The status of a session whose lines have ended: a batch file must have held a command. -/
def endOfInput (sh : Shell Process) (interactive : Bool) : Nat :=
  if interactive || 0 < sh.commandsExecuted then exitSuccess else exitFailure

/-- Asks for a line, if someone is there to be asked. -/
def prompt (sys : System World Process) (sh : Shell Process) (interactive : Bool) :
    StateM World Unit :=
  if interactive then sys.write sh.env.process standardOutput (utf8 sh.config.prompt) else pure ()

/-- Reads the next line from a stream. `buffer` holds what was read from it and not used yet; it is
answered with what it holds afterwards. The reads for one line take place with nothing in between,
so the line is found in what is unread before they are made. -/
def readLine (sys : System World Process) (sh : Shell Process) (stream : InputStream)
    (buffer : Bytes) : StateM World (Except IoError (Option String) × Bytes) := do
  let source ← sys.unread sh.env.process stream
  let (line, input) := Input.readLine (lineLimit sh.config.maxLineLength) ⟨buffer, source⟩
  sys.advance sh.env.process stream (source.length - input.source.length)
  pure (line, input.buffer)

/-- The status with which a session ends after a line, if it ends. -/
def statusAfter : Except Failure Outcome → Option Nat
  | .ok outcome =>
    match outcome.control with
    | .exit code => some code
    | .proceed => none
  | .error failure => if failure.isFatal then some exitFailure else none

/-- Asks for one line and runs it. A failure of either kind is reported. -/
def turn (sys : System World Process) (interactive : Bool) (stream : InputStream)
    (sh : Shell Process) (buffer : Bytes) : StateM World (Turn Process) := do
  sh.prompt sys interactive
  match ← sh.readLine sys stream buffer with
  | (.error _, _) =>
    reportError sys sh.env.process
    pure (.ended exitFailure)
  | (.ok none, _) => pure (.ended (sh.endOfInput interactive))
  | (.ok (some line), buffer) =>
    match ← sh.executeLine sys line with
    | (.ok outcome, sh) => pure (.ran line (.ok outcome) sh buffer)
    | (.error failure, sh) =>
      reportError sys sh.env.process
      pure (.ran line (.error failure) sh buffer)

/-- Reads and runs lines, up to a line that ends the session, a read that failed, or the end of the
stream. A session that has gone on for `bound` lines is left without an exit status. -/
def runLines (sys : System World Process) (interactive : Bool) (stream : InputStream) :
    (bound : Nat) → Shell Process → Bytes → StateM World (Option Nat × Shell Process)
  | 0, sh, _ => pure (none, sh)
  | bound + 1, sh, buffer => do
    match ← sh.turn sys interactive stream buffer with
    | .ended code => pure (some code, sh)
    | .ran _ result sh buffer =>
      match statusAfter result with
      | some code => pure (some code, sh)
      | none => runLines sys interactive stream bound sh buffer

/-- Runs a session of no more than `bound` lines. Answers with its exit status and the shell at its
end. -/
def run (sys : System World Process) (bound : Nat) (sh : Shell Process) :
    Mode → StateM World (Option Nat × Shell Process)
  | .interactive => runLines sys true .standardInput bound sh []
  | .batch path => do
    match ← askAbout path (sys.openFile sh.env.process path) with
    | .error _ =>
      reportError sys sh.env.process
      pure (some exitFailure, sh)
    | .ok stream => runLines sys false stream bound sh []

end Shell

end MiniShell
