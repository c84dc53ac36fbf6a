import MiniShell.Host.Machine
import MiniShell.Text.Runs

/-!
# Looking up paths

A path is followed component by component, from the root or from the working directory. Symbolic
links on the way are followed, up to a bound. The last component need not exist: the place where
it would be is found all the same. Nothing is found in a directory that was removed, whatever the
name.
-/

namespace MiniShell.Host

/-- The number of symbolic links that are followed for one path. -/
def maxLinks : Nat := 40

/-- The length that a component of a path may have. -/
def maxNameLength : Nat := 255

/-- The length that no path reaches. -/
def maxPathLength : Nat := 4096

/-- The components of a path. -/
def components (path : Path) : List Bytes := runs (· == slash) path

/-- Whether a path says that it stands for a directory. -/
def endsInSlash (path : Path) : Bool := path.getLast? = some slash

/-- The component that stays in a directory. -/
def dot : Bytes := utf8 "."

/-- The component that leads to the parent of a directory. -/
def dotDot : Bytes := utf8 ".."

/-- Where a path leads: the name of its last component and the directory that is looked in, the
node found there if any, and whether the path asks for a directory. A path that ends in `.` or
`..`, or names the root, has no last name. -/
structure Place where
  dir : Nat
  name : Option Bytes
  node : Option Nat
  mustBeDir : Bool
  deriving DecidableEq, Repr

namespace Machine

/-- Follows components from the directory `dir`, up to a symbolic link that is to be followed. There
`onLink` goes on with the directory of the link, and with its target and what is behind it. A link
at the very end is followed only if `follow` says so or a slash is behind it. -/
def walkToLink (m : Machine) (follow : Bool)
    (onLink : (dir : Nat) → (mustBeDir : Bool) → List Bytes → Except Errno Place) (dir : Nat)
    (mustBeDir : Bool) : List Bytes → Except Errno Place
  | [] => .ok ⟨dir, none, some dir, mustBeDir⟩
  | name :: rest =>
    match m.directory? dir with
    | none => .error .notDirectory
    | some d =>
      if name = dot then m.walkToLink follow onLink dir mustBeDir rest
      else if name = dotDot then m.walkToLink follow onLink d.parent mustBeDir rest
      else if maxNameLength < name.length && !d.removed then .error .nameTooLong
      else
        match d.entries.lookup name with
        | none => if rest.isEmpty then .ok ⟨dir, some name, none, mustBeDir⟩ else .error .noEntry
        | some number =>
          match m.node? number with
          | some (.symlink target) =>
            if rest.isEmpty && !follow && !mustBeDir then
              .ok ⟨dir, some name, some number, mustBeDir⟩
            else
              onLink (if target.head? = some slash then rootNode else dir)
                (mustBeDir || (rest.isEmpty && endsInSlash target)) (components target ++ rest)
          | _ =>
            if rest.isEmpty then .ok ⟨dir, some name, some number, mustBeDir⟩
            else m.walkToLink follow onLink number mustBeDir rest

/-- Follows components from the directory `dir`, and no more than `links` symbolic links. -/
def walk (m : Machine) (follow : Bool) :
    (links dir : Nat) → (mustBeDir : Bool) → List Bytes → Except Errno Place
  | 0 => m.walkToLink follow fun _ _ _ => .error .tooManyLinks
  | links + 1 => m.walkToLink follow (m.walk follow links)

/-- The directory in which a path starts, if the path can be followed at all. -/
def start (workingDir : Nat) (path : Path) : Except Errno Nat :=
  if path.isEmpty then .error .noEntry
  else if maxPathLength ≤ path.length then .error .nameTooLong
  else .ok (if path.head? = some slash then rootNode else workingDir)

/-- Where a path leads, seen from a working directory. -/
def place (m : Machine) (follow : Bool) (workingDir : Nat) (path : Path) : Except Errno Place :=
  match start workingDir path with
  | .error errno => .error errno
  | .ok dir => m.walk follow maxLinks dir (endsInSlash path) (components path)

/-- The place that a path names. Its last component is taken as it is: a symbolic link there is not
followed, not even with a slash behind it. -/
def namedPlace (m : Machine) (workingDir : Nat) (path : Path) : Except Errno Place :=
  match start workingDir path with
  | .error errno => .error errno
  | .ok dir =>
    (m.walk false maxLinks dir false (components path)).map fun place =>
      { place with mustBeDir := endsInSlash path }

/-- The existing node a path leads to, symbolic links being followed. -/
def find (m : Machine) (workingDir : Nat) (path : Path) : Except Errno Nat :=
  match m.place true workingDir path with
  | .error errno => .error errno
  | .ok place =>
    match place.node with
    | none => .error .noEntry
    | some number =>
      if place.mustBeDir && (m.directory? number).isNone then .error .notDirectory
      else .ok number

/-- The way from the root down to a directory, if nothing on it was removed. No directory is more
than `depth` levels down. -/
def climb (m : Machine) : (depth dir : Nat) → Option Path
  | 0, _ => none
  | depth + 1, dir =>
    if dir = rootNode then some []
    else
      match m.directory? dir with
      | none => none
      | some d => if d.removed then none else (m.climb depth d.parent).map (· ++ slash :: d.name)

/-- The absolute path of a directory, if it was not removed. -/
def pathOf (m : Machine) (dir : Nat) : Option Path :=
  (m.climb (m.nodes.length + 1) dir).map fun path => if path.isEmpty then [slash] else path

end Machine

end MiniShell.Host
