import MiniShell.Environment
import MiniShell.Operands
import MiniShell.Tokens.Basic

/-!
# Built-in commands

`exit` and `quit` end the session and `cd` moves the shell. They run in the shell's own process.
Arguments are counted and otherwise taken as they are: no word is an option.
-/

namespace MiniShell

variable {World Process : Type}

/-- The status of a session that ended as it should. -/
def exitSuccess : Nat := 0

/-- The status of a session that could not start, had nothing to do, or broke off. -/
def exitFailure : Nat := 1

/-- What the session does after a command. -/
inductive Control where
  | proceed
  | exit (code : Nat)
  deriving DecidableEq, Repr

/-- The commands that the shell runs itself. -/
inductive Builtin where
  | exit
  | quit
  | cd
  deriving DecidableEq, Repr

namespace Builtin

def name : Builtin → String
  | .exit => "exit"
  | .quit => "quit"
  | .cd => "cd"

/-- The built-ins of every shell. -/
def all : List Builtin := [.exit, .quit, .cd]

/-- What a built-in does with its operands. Their number alone decides on a usage error. -/
def perform (sys : System World Process) (env : Environment Process) :
    Builtin → List String → StateM World (Except Failure Control × Environment Process)
  | .exit, [] | .quit, [] => pure (.ok (.exit exitSuccess), env)
  | .cd, [target] => do
    match ← env.changeDir sys (utf8 target) with
    | .error cause => pure (.error (.changeDir (utf8 target) cause), env)
    | .ok env' => pure (.ok .proceed, env')
  | builtin, _ => pure (.error (.usage builtin.name), env)

/-- Runs a built-in with arguments, all of which are operands. -/
def run (sys : System World Process) (env : Environment Process) (builtin : Builtin)
    (arguments : List String) : StateM World (Except Failure Control × Environment Process) :=
  match operands? (asOperands arguments) with
  | none => pure (.error (.usage builtin.name), env)
  | some operands => builtin.perform sys env operands

end Builtin

/-- Runs the tokens as a built-in if the first of them is the name of one in the table. -/
def dispatch (sys : System World Process) (table : List Builtin) (tokens : Tokens)
    (env : Environment Process) :
    StateM World (Option (Except Failure Control) × Environment Process) :=
  match tokens.name?.bind fun name => table.find? (·.name == name) with
  | none => pure (none, env)
  | some builtin => do
    let (result, env') ← builtin.run sys env tokens.arguments
    pure (some result, env')

end MiniShell
