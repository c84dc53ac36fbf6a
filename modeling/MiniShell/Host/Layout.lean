import MiniShell.Host.System

/-!
# What a machine holds at the start

A machine starts with the directories and programs that every machine has, a directory for scratch
files, and the three standard streams of one process that works there.
-/

namespace MiniShell.Host

/-- A file to be put on a machine. -/
inductive Item where
  | directory
  | symlink (target : Path)
  | file (mode : Nat) (content : Bytes)
  deriving DecidableEq, Repr

namespace Machine

/-- A machine with nothing but a root directory. -/
def bare : Machine := ⟨[.directory ⟨rootNode, [], [], false⟩], []⟩

/-- Puts a node at a path below the root, with all directories on the way. -/
def install (m : Machine) (path : Path) (node : Node) : Machine :=
  let names := components path
  match m.makeDirs rootNode names.dropLast, names.getLast? with
  | (some dir, m), some name => m.link ⟨dir, some name, none, false⟩ name node
  | (_, m), _ => m

/-- Puts an item at a path seen from the directory `base`, with all directories on the way. A file
that is already there gets new content and permissions. -/
def put (m : Machine) (base : Nat) (path : Path) (item : Item) : Machine :=
  let names := components path
  match item with
  | .directory => (m.makeDirs base names).2
  | .symlink target =>
    match m.makeDirs base names.dropLast, names.getLast? with
    | (some dir, m), some name =>
      match (m.directory? dir).bind (·.entries.lookup name) with
      | none => m.link ⟨dir, some name, none, false⟩ name (.symlink target)
      | some _ => m
    | (_, m), _ => m
  | .file mode content =>
    let m := (m.makeDirs base names.dropLast).2
    match m.openOutput base 0 path mode true with
    | (.ok number, m) => m.setNode number (.file mode content)
    | (.error _, m) => m

end Machine

/-- The programs in the directory `/usr/bin`. -/
def programs : List (String × Utility) :=
  [("cat", .cat), ("echo", .echo), ("false", .fail), ("ld", .link), ("ls", .list),
    ("mkdir", .makeDir), ("pwd", .printDir), ("rm", .remove), ("rmdir", .removeDir),
    ("sh", .script), ("true", .succeed)]

/-- Directories that every machine has. -/
def commonDirs : List String :=
  ["/usr/bin", "/usr/lib", "/usr/local/bin", "/dev", "/etc", "/home", "/proc/self", "/root", "/tmp",
    "/var"]

/-- The directory that holds the scratch directory and nothing else. -/
def scratchParent : Path := utf8 "/tmp/scratch"

/-- The directory for scratch files. -/
def scratchDir : Path := scratchParent ++ utf8 "/work"

/-- Files other than programs that every machine has. -/
def commonFiles : List (String × Node) :=
  [("/bin", .symlink (utf8 "usr/bin")), ("/lib", .symlink (utf8 "usr/lib")),
    ("/dev/null", .nullDevice), ("/dev/full", .fullDevice), ("/proc/self/cmdline", .ownArguments)]

/-- A machine as it comes. -/
def Machine.standard : Machine :=
  let dirs := commonDirs.map (components ∘ utf8) ++ [components scratchDir]
  let files := programs.map (fun (name, utility) => ("/usr/bin/" ++ name, Node.program utility)) ++
    commonFiles
  let m := dirs.foldl (fun (m : Machine) names => (m.makeDirs rootNode names).2) bare
  files.foldl (fun (m : Machine) (path, node) => m.install (utf8 path) node) m

/-- A machine with one process on it that works in the scratch directory. -/
structure Start where
  machine : Machine
  process : Process
  scratch : Nat
  /-- The nodes of the standard streams. -/
  output : Nat
  errors : Nat

/-- The environment in which programs start. -/
def initialEnvironment : List (Bytes × Bytes) :=
  [("LC_ALL", "C"), ("HOME", "/root"),
    ("PATH", "/usr/local/sbin:/usr/local/bin:/usr/sbin:/usr/bin:/sbin:/bin")].map
    fun (name, value) => (utf8 name, utf8 value)

/-- A machine that holds the given items in its scratch directory, and a process there whose
standard input holds the given bytes. -/
def start (items : List (Path × Item)) (input : Bytes) : Start :=
  let (scratch, m) := Machine.standard.makeDirs rootNode (components scratchDir)
  let scratch := scratch.getD rootNode
  let m := items.foldl (fun m (path, item) => m.put scratch path item) m
  let (inbox, m) := m.addNode (.pipe input)
  let (output, m) := m.addNode (.pipe [])
  let (errors, m) := m.addNode (.pipe [])
  let files : List OpenFile := [⟨inbox, 0, .read⟩, ⟨output, 0, .write⟩, ⟨errors, 0, .write⟩]
  let m := files.foldl (fun m file => (m.addOpenFile file).2) m
  ⟨m, ⟨scratch, [(0, 0), (1, 1), (2, 2)], [], [brokenPipe], 0o022, initialEnvironment⟩, scratch,
    output, errors⟩

/-- What was written to a stream since it was last emptied, which this does again. -/
def Machine.collect (m : Machine) (stream : Nat) : Bytes × Machine :=
  match m.node? stream with
  | some (.pipe written) => (written, m.setNode stream (.pipe []))
  | _ => ([], m)

end MiniShell.Host
