import MiniShell.SearchPath

/-!
# The environment of the shell

What built-ins and commands work against: the shell's own process, the path of its working
directory as the shell knows it, and the directories where commands are looked up.
-/

namespace MiniShell

variable {World Process : Type}

/-- The environment of the shell. -/
structure Environment (Process : Type) where
  process : Process
  /-- The working directory, as it was when the shell last moved. -/
  currentDir : Path
  searchPath : SearchPath

namespace Environment

/-- The environment of a process. A working directory without a path is called `.`. -/
def capture (sys : System World Process) (process : Process) (searchPath : SearchPath) :
    StateM World (Environment Process) := do
  let dir ← sys.currentDir process
  pure ⟨process, dir.getD (utf8 "."), searchPath⟩

/-- Moves the shell to the directory `path`, which is used as it is given. The new working
directory is called what the system calls it, or else by the given path, seen from the old one. -/
def changeDir (sys : System World Process) (env : Environment Process) (path : Path) :
    StateM World (Except IoError (Environment Process)) := do
  match ← askAbout path (sys.changeDir env.process path) with
  | .error cause => pure (.error cause)
  | .ok process =>
    let dir ← sys.currentDir process
    pure (.ok { env with process, currentDir := dir.getD (env.currentDir.join path) })

end Environment

end MiniShell
