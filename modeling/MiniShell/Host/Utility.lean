import MiniShell.Host.Utility.Print
import MiniShell.Host.Utility.Removal

/-!
# The utilities of the machine
-/

namespace MiniShell.Host

/-- Runs a utility other than the script interpreter in a process. Answers with its exit code. -/
def Utility.run (p : Process) : Utility → StateM Machine Nat
  | .cat => runCat p
  | .echo => runEcho p
  | .fail => pure 1
  | .link => do
    complain p (utf8 "no input files")
    pure 1
  | .list => runList p
  | .makeDir => runMakeDir p
  | .printDir => runPrintDir p
  | .remove => runRemove p
  | .removeDir => runRemoveDir p
  | .script | .succeed => pure 0

end MiniShell.Host
