import MiniShell.System

/-!
# Where commands are looked up

A command is looked up in a fixed list of directories. Each candidate is the text of the directory
with the text of the name behind it, nothing being joined or made absolute, and the first candidate
that may be executed is the one.
-/

namespace MiniShell

/-- The directories in which commands are looked up, each normally with a slash at its end. -/
structure SearchPath where
  dirs : List String
  deriving DecidableEq, Repr

namespace SearchPath

/-- The directories that are searched unless others are given. -/
def standard : SearchPath := ⟨["/bin/", "/usr/bin/", "/usr/local/bin/", "./"]⟩

/-- The paths a name can stand for, in the order in which they are tried. -/
def candidates (search : SearchPath) (name : String) : List String :=
  search.dirs.map (· ++ name)

end SearchPath

variable {World Process : Type}

/-- Whether the process may execute the file; a path with a NUL byte names none. -/
def isExecutable (sys : System World Process) (process : Process) (path : String) :
    StateM World Bool :=
  if hasNul (utf8 path) then pure false else sys.isExecutable process (utf8 path)

/-- The first of the paths that may be executed. -/
def firstExecutable (sys : System World Process) (process : Process) :
    List String → StateM World (Option String)
  | [] => pure none
  | path :: paths => do
    if ← isExecutable sys process path then pure (some path)
    else firstExecutable sys process paths

/-- The program a name stands for. The empty name stands for none. -/
def SearchPath.resolve (search : SearchPath) (sys : System World Process) (process : Process)
    (name : String) : StateM World (Option String) :=
  if name.isEmpty then pure none else firstExecutable sys process (search.candidates name)

end MiniShell
