import MiniShell.Host.Script.Lookup

/-!
# Commands for the working directory

The interpreter keeps the path by which the script came to its working directory. A way up leads
back along that path, and not to the parent that the directory has in the tree.
-/

namespace MiniShell.Host.Script.Builtin

open Run

/-- The components of a path with `..` taking back the component in front of it. -/
def foldDots (names : List Bytes) : List Bytes :=
  (names.foldl (fun kept name =>
    if name = dot then kept else if name = dotDot then kept.drop 1 else name :: kept) []).reverse

/-- Where a path leads, as a path without `.` and `..`. Two slashes at its start are kept. -/
def logicalPath? (directory : Option Path) (path : Path) : Option Path :=
  let isDouble := fun (path : Path) => path.take 2 = [slash, slash] ∧ path[2]? ≠ some slash
  let start := fun (path : Path) => if isDouble path then [slash, slash] else [slash]
  let joined := fun (root : Path) (names : List Bytes) =>
    root ++ [slash].intercalate (foldDots names)
  if path.head? = some slash then some (joined (start path) (components path))
  else
    directory.map fun directory =>
      joined (start directory) (components directory ++ components path)

/-- The path by which the working directory is known. -/
def directoryPath (i : Interpreter) : Path := i.directory.getD []

/-- Asks the machine for the path of the working directory. -/
def physicalPath : Run (Option Path) := do
  let p ← ask (·.process)
  match (← machine get).pathOf p.workingDir with
  | some path => pure (some path)
  | none =>
    Run.complain (utf8 "getcwd() failed: " ++ utf8 Errno.noEntry.library)
    pure none

/-- Goes to a directory, if that is possible. -/
def goTo? (physical : Bool) (path : Path) : Run Bool := do
  let i ← get
  let logical := if physical then none else logicalPath? i.directory path
  let m ← machine get
  match m.find i.process.workingDir (logical.getD path) with
  | .error _ => pure false
  | .ok number =>
    if (m.directory? number).isNone then pure false
    else
      assign (utf8 "OLDPWD") (directoryPath i) true
      modify fun i => { i with process := { i.process with workingDir := number } }
      let directory ←
        match logical with
        | some path => pure (some path)
        | none => physicalPath
      modify fun i => { i with directory }
      assign (utf8 "PWD") (directory.getD []) true
      pure true

/-- Whether directories are looked up where a relative path may start: not if it starts with a
component that says so. -/
def isSearched (path : Path) : Bool :=
  path.head? ≠ some slash &&
    match components path with
    | first :: _ => first != dot && first != dotDot
    | [] => true

/-- The directory that a path stands for, and whether it was found in a place that the script did
not name. -/
def searched (path : Path) : Run (Path × Bool) := do
  let i ← get
  let path := if path.isEmpty then dot else path
  if !isSearched path then pure (path, false)
  else
    let m ← machine get
    let places := splitOn (byte ':') ((i.value? (utf8 "CDPATH")).getD [])
    let candidates := places.map fun place =>
      (pathIn place path, !place.isEmpty)
    let isDir := fun (path : Path) =>
      (m.find i.process.workingDir path).toOption.any fun number => (m.directory? number).isSome
    pure ((candidates.find? fun (path, _) => isDir path).getD (path, false))

/-- Goes to another directory. -/
def changeDir (arguments : List Bytes) : Run Nat :=
  withOptions "LP" "" arguments fun options operands => do
    let physical := options.getLast?.any (·.1 == byte 'P')
    let i ← get
    let (target, back) :=
      match operands with
      | [] => ((i.value? (utf8 "HOME")).getD [], false)
      | [45] :: _ => ((i.value? (utf8 "OLDPWD")).getD [], true)
      | target :: _ => (target, false)
    let (path, found) ← searched target
    if !(← goTo? physical path) then fail (utf8 "can't cd to " ++ target)
    if back ∨ found then printLine (directoryPath (← get))
    pure 0

/-- Prints the path of the working directory. -/
def printDir (arguments : List Bytes) : Run Nat :=
  withOptions "LP" "" arguments fun options _ => do
    if options.getLast?.any (·.1 == byte 'P') then
      printLine ((← physicalPath).getD [])
    else printLine (directoryPath (← get))
    pure 0

/-! ## Permissions of new files -/

/-- The permissions of one kind of user, as letters. -/
def permissionLetters (bits : Nat) : Bytes :=
  [(4, 'r'), (2, 'w'), (1, 'x')].filterMap fun (bit, letter) =>
    if bits / bit % 2 = 1 then some (byte letter) else none

/-- The bits of one kind of user that a letter asks for, the kinds having the permissions `mode`. -/
def permissionBits? (mode : Nat) (letter : UInt8) : Option Nat :=
  [(byte 'r', 4), (byte 'w', 2), (byte 'x', 1), (byte 's', 0), (byte 't', 0),
    (byte 'X', if mode &&& 0o111 = 0 then 0 else 1), (byte 'u', mode / 64 % 8),
    (byte 'g', mode / 8 % 8), (byte 'o', mode % 8)].lookup letter

/-- Permissions after the changes that stand behind the letters of some kinds of users. -/
def changePermissions (whom : Nat) : (steps : Nat) → (mode : Nat) → Bytes → Option Nat
  | 0, mode, text => if text.isEmpty then some mode else none
  | _ + 1, mode, [] => some mode
  | steps + 1, mode, sign :: text =>
    let letters := text.takeWhile fun b => (permissionBits? mode b).isSome
    let bits := letters.foldl (fun bits b => bits ||| (permissionBits? mode b).getD 0) 0
    let wanted := (bits * 0o111) &&& whom
    let rest := text.drop letters.length
    if sign = byte '+' then changePermissions whom steps (mode ||| wanted) rest
    else if sign = byte '-' then changePermissions whom steps (mode ^^^ (mode &&& wanted)) rest
    else if sign = byte '=' then
      changePermissions whom steps ((mode ^^^ (mode &&& whom)) ||| wanted) rest
    else none

/-- Permissions after the changes that a text names, which are separated by commas. -/
def symbolicMode? (mode : Nat) (text : Bytes) : Option Nat :=
  (splitOn (byte ',') text).foldlM (fun mode clause =>
    let kinds := clause.takeWhile (utf8 "ugoa").contains
    let mask := fun (b : UInt8) =>
      ([(byte 'u', 0o700), (byte 'g', 0o070), (byte 'o', 0o007)].lookup b).getD 0o777
    let whom := if kinds.isEmpty then 0o777 else kinds.foldl (fun all b => all ||| mask b) 0
    let changes := clause.drop kinds.length
    if changes.isEmpty then none else changePermissions whom changes.length mode changes) mode

/-- Sets or prints the permissions that new files do not get. -/
def umask (arguments : List Bytes) : Run Nat :=
  withOptions "S" "" arguments fun options operands => do
    let i ← get
    match operands with
    | [] =>
      let mask := i.process.mask
      if options.isEmpty then
        printLine (byte '0' :: [mask / 64, mask / 8 % 8, mask % 8].map fun n => (48 + n).toUInt8)
      else
        let kind := fun (name : Char) (bits : Nat) =>
          [byte name, byte '='] ++ permissionLetters (7 - bits % 8)
        printLine (kind 'u' (mask / 64) ++ byte ',' :: kind 'g' (mask / 8) ++ byte ',' ::
          kind 'o' mask)
      pure 0
    | text :: _ =>
      if text.head?.any isDigit then
        let (mask, rest) := takeNumber 8 text.length text
        if !rest.isEmpty then fail (utf8 "Illegal number: " ++ text)
        set { i with process := { i.process with mask := mask % 512 } }
        pure 0
      else
        match symbolicMode? (0o777 ^^^ i.process.mask) text with
        | none => fail (utf8 "Illegal mode: " ++ text)
        | some mode =>
          set { i with process := { i.process with mask := 0o777 ^^^ mode } }
          pure 0

end MiniShell.Host.Script.Builtin
