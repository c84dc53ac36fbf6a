import MiniShell.Host.Script.Builtin.Control
import MiniShell.Host.Script.Builtin.Directory
import MiniShell.Host.Script.Builtin.Signals
import MiniShell.Host.Script.Builtin.Variables

/-!
# The commands of the interpreter
-/

namespace MiniShell.Host.Script

open Builtin

/-- The commands that the interpreter runs itself. -/
def builtins (tools : Tools) (mode : Mode) : List (String × (List Bytes → Run Nat)) :=
  [(":", fun _ => pure 0), (".", source tools), ("[", bracket), ("break", leaveLoops .endLoops),
    ("cd", changeDir), ("command", command), ("continue", leaveLoops .nextRound), ("echo", echo),
    ("eval", eval tools mode), ("exec", exec tools), ("exit", exit), ("export", exportVariables),
    ("false", fun _ => pure 1), ("getopts", readOption), ("hash", fun _ => pure 0), ("kill", kill),
    ("local", declareLocal), ("printf", printf), ("pwd", printDir), ("read", readInput),
    ("readonly", freezeVariables), ("return", endCall), ("set", setParameters), ("shift", shift),
    ("test", test), ("trap", trap), ("true", fun _ => pure 0), ("type", typeOf), ("umask", umask),
    ("unset", forget), ("wait", wait)]

/-- The command of a name, if there is one. -/
def builtin? (tools : Tools) (mode : Mode) (name : Bytes) : Option (List Bytes → Run Nat) :=
  (builtins tools mode).findSome? fun (known, run) => if utf8 known = name then some run else none

namespace Run

/-- Writes out what a command has printed. Answers with whether that was possible. -/
def flush : Run Bool := do
  let i ← get
  set { i with printed := [] }
  if i.printed.isEmpty then pure true
  else
    match ← machine (modifyGet (·.write i.process standardOutput i.printed)) with
    | .ok () => pure true
    | .error _ =>
      complain (i.doing.getD [] ++ utf8 ": I/O error")
      pure false

/-- Runs a command of the interpreter. A mistake of a special one ends the script. -/
def runBuiltin (special : Bool) (name : Bytes) (action : Run Nat) : Run Unit := do
  let (result, printed) ←
    restoring (·.doing) (fun old i => { i with doing := old }) do
      modify fun i => { i with doing := some name }
      let result ← attempt action
      pure (result, ← flush)
  let code := fun (code : Nat) => if printed then code else code ||| 1
  match result with
  | .ok status => setStatus (code status)
  | .error (.mistake status) =>
    setStatus (code status)
    if special then throw (.mistake status)
  | .error leave => throw leave

end Run

end MiniShell.Host.Script
