import MiniShell.Host.Lookup

/-!
# Opening, reading and writing files

Writes go to the position of the open file and move it, so descriptors that share an open file
write one behind the other.
-/

namespace MiniShell.Host

/-- The permissions of a new file for which `mode` was asked, less those in `mask`. -/
def newMode (mask mode : Nat) : Nat := mode - (mode &&& mask)

/-- The bytes of a file after `bytes` were written at `position`. A gap before them is filled with
zeros. -/
def overwrite (content : Bytes) (position : Nat) (bytes : Bytes) : Bytes :=
  content.take position ++ List.replicate (position - content.length) 0 ++ bytes ++
    content.drop (position + bytes.length)

/-- What is written at the end comes behind what is there. -/
theorem overwrite_length (content bytes : Bytes) :
    overwrite content content.length bytes = content ++ bytes := by
  simp [overwrite]

/-- The arguments of a process as they are read from it: each with a NUL byte behind it. -/
def joinArguments (arguments : List Bytes) : Bytes := arguments.flatMap (· ++ [0])

namespace Machine

/-- A descriptor for a node that has just been opened. -/
def openNode (m : Machine) (p : Process) (number : Nat) (access : Access) :
    (Nat × Process) × Machine :=
  let (index, m) := m.addOpenFile ⟨number, 0, access⟩
  let descriptor := p.lowestFree
  ((descriptor, p.assign descriptor index), m)

/-- A node that is opened for output, emptied if so said. -/
def openExisting (m : Machine) (number : Nat) (empty : Bool) : Except Errno Machine :=
  match m.node? number with
  | none | some (.symlink _) => .error .noEntry
  | some (.directory _) => .error .isDirectory
  | some (.file mode content) =>
    .ok (if empty then m.setNode number (.file mode (content.take 0)) else m)
  | some (.program _) => .ok (m.setNode number (.file 0o755 []))
  | some .nullDevice | some .fullDevice | some .ownArguments | some (.pipe _) => .ok m

/-- Whether a path whose last component may be made has a slash behind that component. -/
def namesMissingDir (path : Path) : Bool :=
  endsInSlash path &&
    match (components path).getLast? with
    | none => false
    | some name => name != dot && name != dotDot

/-- The node to which output for `path` goes. It is made with the permissions `mode`, less those in
`mask`, if it is missing, and otherwise emptied if so said. -/
def openOutput (m : Machine) (workingDir mask : Nat) (path : Path) (mode : Nat) (empty : Bool) :
    Except Errno Nat × Machine :=
  if namesMissingDir path && path.length < maxPathLength then
    let parent := (components path).dropLast
    match m.walk true maxLinks (if path.head? = some slash then rootNode else workingDir) true
        parent with
    | .error errno => (.error errno, m)
    | .ok place =>
      match place.node with
      | none => (.error .noEntry, m)
      | some number =>
        (.error (if (m.directory? number).isNone then .notDirectory else .isDirectory), m)
  else
    match m.place true workingDir path with
    | .error errno => (.error errno, m)
    | .ok place =>
      match place.name, place.node with
      | none, _ => (.error .isDirectory, m)
      | some _, some number =>
        if place.mustBeDir then (.error .isDirectory, m)
        else
          match m.openExisting number empty with
          | .error errno => (.error errno, m)
          | .ok m => (.ok number, m)
      | some name, none =>
        if place.mustBeDir then (.error .isDirectory, m)
        else if (m.directory? place.dir).any (·.removed) then (.error .noEntry, m)
        else
          let (number, m) := m.addNode (.file (newMode mask mode) [])
          (.ok number, m.addEntry place.dir name number)

/-- What is left to read of a node from a position on, for a process with the given arguments. -/
def unread (m : Machine) (p : Process) (file : OpenFile) : Except Errno Bytes :=
  if !file.access.reads then .error .badDescriptor
  else
  match m.node? file.node with
  | some (.file _ content) => .ok (content.drop file.position)
  | some (.pipe unread) => .ok unread
  | some .ownArguments => .ok ((joinArguments p.arguments).drop file.position)
  | some (.directory _) => .error .isDirectory
  | _ => .ok []

/-- Takes as many bytes off what is left to read of an open file. -/
def skip (m : Machine) (index count : Nat) : Machine :=
  match m.openFiles[index]? with
  | none => m
  | some file =>
    let m := match m.node? file.node with
      | some (.pipe unread) => m.setNode file.node (.pipe (unread.drop count))
      | _ => m
    m.setOpenFile index { file with position := file.position + count }

/-- Reads an open file, up to as many bytes as there is room for. -/
def readOpenFile (m : Machine) (p : Process) (index room : Nat) : Except Errno Bytes × Machine :=
  match m.openFiles[index]? with
  | none => (.error .badDescriptor, m)
  | some file =>
    match m.unread p file with
    | .error errno => (.error errno, m)
    | .ok bytes =>
      let bytes := bytes.take room
      (.ok bytes, m.skip index bytes.length)

/-- Reads a descriptor, up to as many bytes as there is room for. -/
def read (m : Machine) (p : Process) (descriptor room : Nat) : Except Errno Bytes × Machine :=
  match p.openFile? descriptor with
  | none => (.error .badDescriptor, m)
  | some index => m.readOpenFile p index room

/-- What is left to read of an open file, in the blocks in which it is read. -/
def source (m : Machine) (p : Process) (index : Nat) : Source :=
  match m.openFiles[index]? with
  | none => []
  | some file =>
    match m.unread p file with
    | .error errno => [.failed (.system errno)]
    | .ok bytes => if bytes.isEmpty then [] else Source.buffered blockSize (.ofBytes bytes)

/-- Reads all that is left to read of a descriptor. -/
def readAll (m : Machine) (p : Process) (descriptor : Nat) : Except Errno Bytes × Machine :=
  match p.openFile? descriptor with
  | none => (.error .badDescriptor, m)
  | some index =>
    match m.openFiles[index]? with
    | none => (.error .badDescriptor, m)
    | some file =>
      match m.unread p file with
      | .error errno => (.error errno, m)
      | .ok bytes => (.ok bytes, m.skip index bytes.length)

/-- Writes to an open file. -/
def writeOpenFile (m : Machine) (index : Nat) (bytes : Bytes) : Except Errno Unit × Machine :=
  match m.openFiles[index]? with
  | none => (.error .badDescriptor, m)
  | some file =>
    if !file.access.writes then (.error .badDescriptor, m)
    else
      match m.node? file.node with
      | some (.file mode content) =>
        let position := if file.access = .append then content.length else file.position
        (.ok (), (m.setNode file.node (.file mode (overwrite content position bytes))).setOpenFile
          index { file with position := position + bytes.length })
      | some (.pipe unread) => (.ok (), m.setNode file.node (.pipe (unread ++ bytes)))
      | some .fullDevice => (if bytes.isEmpty then .ok () else .error .noSpace, m)
      | _ => (.ok (), m)

/-- Writes to a descriptor. -/
def write (m : Machine) (p : Process) (descriptor : Nat) (bytes : Bytes) :
    Except Errno Unit × Machine :=
  match p.openFile? descriptor with
  | none => (.error .badDescriptor, m)
  | some index => m.writeOpenFile index bytes

/-- Whether a process may execute a node: everyone may go through a directory, and a file has to
be executable for someone. -/
def mayExecute (m : Machine) (number : Nat) : Bool :=
  match m.node? number with
  | some (.directory _) | some (.program _) => true
  | some (.file mode _) => mode &&& 0o111 != 0
  | _ => false

end Machine

end MiniShell.Host
