import MiniShell.Host.Signal
import MiniShell.System

/-!
# The state of a machine

A small model of a Unix machine for the shell to run on: a tree of files, the files that are open,
and processes with a working directory and descriptors.

Files and directories are numbered nodes. A descriptor of a process refers to an open file, which
is shared by every descriptor made from it, also in other processes. The position for the next
read or write belongs to the open file.
-/

namespace MiniShell.Host

/-- The programs that come with the machine. -/
inductive Utility where
  | cat
  | echo
  | fail
  | link
  | list
  | makeDir
  | printDir
  | remove
  | removeDir
  | script
  | succeed
  deriving DecidableEq, Repr

/-- A directory. A removed one keeps its parent, and whoever is in it can leave it that way. -/
structure Directory where
  parent : Nat
  name : Bytes
  entries : List (Bytes × Nat)
  removed : Bool
  deriving DecidableEq, Repr

/-- A file of any kind. -/
inductive Node where
  | directory (dir : Directory)
  | file (mode : Nat) (content : Bytes)
  | symlink (target : Path)
  | program (utility : Utility)
  /-- Takes every write and has nothing to read. -/
  | nullDevice
  /-- Has no room for any write. -/
  | fullDevice
  /-- Reads as the arguments of the process that reads it. -/
  | ownArguments
  /-- A stream: what is written to it can be read once. -/
  | pipe (unread : Bytes)
  deriving DecidableEq, Repr

/-- What an open file may be used for. -/
inductive Access where
  | read
  | write
  | readWrite
  /-- Every write goes to the end of the file. -/
  | append
  deriving DecidableEq, Repr

def Access.reads : Access → Bool
  | .read | .readWrite => true
  | .write | .append => false

def Access.writes : Access → Bool
  | .read => false
  | .write | .readWrite | .append => true

/-- An open file: which node, where the next read or write takes place, and what it is open for. -/
structure OpenFile where
  node : Nat
  position : Nat
  access : Access
  deriving DecidableEq, Repr

/-- What all processes share. -/
structure Machine where
  nodes : List Node
  openFiles : List OpenFile
  deriving DecidableEq, Repr

/-- What a process has for itself. A descriptor comes with the index of its open file. -/
structure Process where
  workingDir : Nat
  descriptors : List (Nat × Nat)
  arguments : List Bytes
  /-- The numbers of the signals that do nothing to it, nor to the programs it becomes. -/
  ignored : List Nat
  /-- Permissions that its new files do not get. -/
  mask : Nat
  /-- Names and values that are handed on to the programs it becomes. -/
  environment : List (Bytes × Bytes)
  deriving DecidableEq, Repr

/-- The root directory. -/
def rootNode : Nat := 0

namespace Machine

def node? (m : Machine) (number : Nat) : Option Node := m.nodes[number]?

def directory? (m : Machine) (number : Nat) : Option Directory :=
  match m.node? number with
  | some (.directory dir) => some dir
  | _ => none

def setNode (m : Machine) (number : Nat) (node : Node) : Machine :=
  { m with nodes := m.nodes.set number node }

/-- The machine with a node more, and its number. -/
def addNode (m : Machine) (node : Node) : Nat × Machine :=
  (m.nodes.length, { m with nodes := m.nodes ++ [node] })

/-- The machine with a name more in a directory. -/
def addEntry (m : Machine) (dir : Nat) (name : Bytes) (number : Nat) : Machine :=
  match m.directory? dir with
  | none => m
  | some d => m.setNode dir (.directory { d with entries := d.entries ++ [(name, number)] })

/-- The machine with a name less in a directory. -/
def dropEntry (m : Machine) (dir : Nat) (name : Bytes) : Machine :=
  match m.directory? dir with
  | none => m
  | some d => m.setNode dir (.directory { d with entries := d.entries.filter (·.1 != name) })

/-- The machine with an open file more, and its index. -/
def addOpenFile (m : Machine) (file : OpenFile) : Nat × Machine :=
  (m.openFiles.length, { m with openFiles := m.openFiles ++ [file] })

def setOpenFile (m : Machine) (index : Nat) (file : OpenFile) : Machine :=
  { m with openFiles := m.openFiles.set index file }

end Machine

namespace Process

/-- The index of the open file a descriptor refers to. -/
def openFile? (p : Process) (descriptor : Nat) : Option Nat := p.descriptors.lookup descriptor

/-- The process without a descriptor. -/
def drop (p : Process) (descriptor : Nat) : Process :=
  { p with descriptors := p.descriptors.filter (·.1 != descriptor) }

/-- The process with a descriptor that refers to the given open file. -/
def assign (p : Process) (descriptor index : Nat) : Process :=
  { p with descriptors := (descriptor, index) :: (p.drop descriptor).descriptors }

/-- The lowest descriptor that is not in use. -/
def lowestFree (p : Process) : Nat :=
  ((List.range p.descriptors.length).find? fun d => (p.openFile? d).isNone).getD
    p.descriptors.length

end Process

end MiniShell.Host
