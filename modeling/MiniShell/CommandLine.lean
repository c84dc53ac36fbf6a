import MiniShell.Session

/-!
# The command line of the shell

Without an argument the shell is interactive, and with one it runs the batch file of that name,
whatever the name looks like. More arguments are refused before anything else happens.
-/

namespace MiniShell

variable {World Process : Type}

/-- The mode asked for by the words of a command line, if they make sense. -/
def Mode.ofWords? (words : List String) : Option Mode :=
  match operands? words with
  | some [] => some .interactive
  | some [path] => some (.batch (utf8 path))
  | _ => none

/-- Runs the program with the given arguments, for a session of no more than `bound` lines, and
answers with its exit status. -/
def runProgram (sys : System World Process) (bound : Nat) (process : Process)
    (arguments : List Bytes) : StateM World (Option Nat) := do
  let words := arguments.map decodeLossy
  if 1 < words.length then
    reportError sys process
    pure (some exitFailure)
  else
    match Mode.ofWords? (asOperands words) with
    | none =>
      reportError sys process
      pure (some exitFailure)
    | some mode =>
      let sh ← Shell.new sys process {}
      let (code, _) ← sh.run sys bound mode
      pure code

end MiniShell
