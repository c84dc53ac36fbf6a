import MiniShell.Host.Files

/-!
# Changing and listing directories
-/

namespace MiniShell.Host

/-- The order of byte strings in which listings are given. -/
def bytesLE (a b : Bytes) : Bool := !decide (b < a)

namespace Machine

/-- The machine with a new node under a name that was free. -/
def link (m : Machine) (place : Place) (name : Bytes) (node : Node) : Machine :=
  let (number, m) := m.addNode node
  m.addEntry place.dir name number

/-- Makes a directory. -/
def makeDir (m : Machine) (workingDir : Nat) (path : Path) : Except Errno Unit × Machine :=
  match m.namedPlace workingDir path with
  | .error errno => (.error errno, m)
  | .ok place =>
    match place.name, place.node with
    | some name, none =>
      if (m.directory? place.dir).any (·.removed) then (.error .noEntry, m)
      else (.ok (), m.link place name (.directory ⟨place.dir, name, [], false⟩))
    | _, _ => (.error .alreadyExists, m)

/-- Why a directory cannot be removed under a path without a last name. -/
def unnamedDir (path : Path) : Errno :=
  match (components path).getLast? with
  | none => .busy
  | some name => if name = dot then .invalid else .notEmpty

/-- Removes an empty directory. -/
def removeDir (m : Machine) (workingDir : Nat) (path : Path) : Except Errno Unit × Machine :=
  match m.namedPlace workingDir path with
  | .error errno => (.error errno, m)
  | .ok place =>
    match place.name, place.node with
    | _, none => (.error .noEntry, m)
    | none, some _ => (.error (unnamedDir path), m)
    | some name, some number =>
      match m.directory? number with
      | none => (.error .notDirectory, m)
      | some d =>
        if !d.entries.isEmpty then (.error .notEmpty, m)
        else
          (.ok (), (m.dropEntry place.dir name).setNode number
            (.directory { d with removed := true }))

/-- Removes a file that is no directory. -/
def removeFile (m : Machine) (workingDir : Nat) (path : Path) : Except Errno Unit × Machine :=
  match m.namedPlace workingDir path with
  | .error errno => (.error errno, m)
  | .ok place =>
    match place.name, place.node with
    | _, none => (.error .noEntry, m)
    | none, some _ => (.error .isDirectory, m)
    | some name, some number =>
      if (m.directory? number).isSome then (.error .isDirectory, m)
      else if place.mustBeDir then (.error .notDirectory, m)
      else (.ok (), m.dropEntry place.dir name)

/-- The directory that the components lead to from `dir`, missing directories being made. -/
def makeDirs (m : Machine) (dir : Nat) : List Bytes → Option Nat × Machine
  | [] => (some dir, m)
  | name :: rest =>
    match m.walk true maxLinks dir true [name] with
    | .error _ => (none, m)
    | .ok place =>
      match place.name, place.node with
      | _, some number => m.makeDirs number rest
      | none, none => (none, m)
      | some name, none =>
        (m.link place name (.directory ⟨place.dir, name, [], false⟩)).makeDirs m.nodes.length rest

/-- The names in a directory, in order. -/
def names (m : Machine) (dir : Nat) : List Bytes :=
  match m.directory? dir with
  | none => []
  | some d => (d.entries.map Prod.fst).mergeSort bytesLE

/-- Everything below a directory that is at most `depth` levels down, with its path from there. -/
def below (m : Machine) : (depth dir : Nat) → List (Path × Node)
  | 0, _ => []
  | depth + 1, dir =>
    match m.directory? dir with
    | none => []
    | some d =>
      d.entries.flatMap fun (name, number) =>
        match m.node? number with
        | none => []
        | some node =>
          (name, node) :: (m.below depth number).map fun (path, node) =>
            (name ++ slash :: path, node)

/-- Everything below a directory, in the order of the paths. -/
def tree (m : Machine) (dir : Nat) : List (Path × Node) :=
  (m.below m.nodes.length dir).mergeSort fun a b => bytesLE a.1 b.1

end Machine

end MiniShell.Host
