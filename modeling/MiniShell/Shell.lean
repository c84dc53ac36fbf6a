import MiniShell.Builtin
import MiniShell.Launch

/-!
# The shell and one line of input

A line is cut into tokens, offered to the built-ins, and otherwise run as an external command. A
line without tokens is nothing at all, and every other line counts as a command, whatever becomes
of it.
-/

namespace MiniShell

variable {World Process : Type}

/-- The settings of a shell. -/
structure Config where
  /-- Written before each line that is read interactively. -/
  prompt : String := "msh> "
  /-- The length a line may have, with a terminator behind it. -/
  maxLineLength : Nat := 100
  /-- The number of tokens kept of a line. -/
  maxTokens : Nat := 10
  searchPath : SearchPath := .standard
  deriving DecidableEq, Repr

/-- A shell between two lines. -/
structure Shell (Process : Type) where
  env : Environment Process
  config : Config
  builtins : List Builtin
  /-- The lines that were not blank. Counting so far that a machine word of 64 bits would not hold
  the number is out of reach. -/
  commandsExecuted : Nat

/-- What became of a line. -/
inductive Outcome where
  /-- The line had no tokens. -/
  | empty
  /-- A built-in ran. -/
  | builtin (control : Control)
  /-- An external command ran and ended. -/
  | external (status : Status)
  deriving DecidableEq, Repr

/-- What the session does after a line: only a built-in has a say in it. -/
def Outcome.control : Outcome → Control
  | .builtin control => control
  | .empty | .external _ => .proceed

namespace Shell

/-- A shell that has not run anything yet. -/
def new (sys : System World Process) (process : Process) (config : Config) :
    StateM World (Shell Process) := do
  let env ← Environment.capture sys process config.searchPath
  pure ⟨env, config, Builtin.all, 0⟩

/-- The tokens the shell keeps of a line. -/
def tokens (sh : Shell Process) (line : String) : Tokens := .ofLine line sh.config.maxTokens

/-- Runs one line. -/
def executeLine (sys : System World Process) (sh : Shell Process) (line : String) :
    StateM World (Except Failure Outcome × Shell Process) := do
  let tokens := sh.tokens line
  if tokens.isEmpty then pure (.ok .empty, sh)
  else
    let sh := { sh with commandsExecuted := sh.commandsExecuted + 1 }
    match ← dispatch sys sh.builtins tokens sh.env with
    | (some result, env) => pure (result.map .builtin, { sh with env })
    | (none, env) =>
      let sh := { sh with env }
      let result ← launch sys sh.env.searchPath sh.env.process tokens
      pure (result.map .external, sh)

end Shell

end MiniShell
