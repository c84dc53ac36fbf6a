import MiniShell.Host.Utility.Basic

/-!
# Utilities that make, remove and list directories
-/

namespace MiniShell.Host

/-- The path without the slashes at its end, unless it has nothing else. -/
def dropSlashes (path : Path) : Path :=
  let stem := (path.reverse.dropWhile (· == slash)).reverse
  if stem.isEmpty then path.take 1 else stem

/-- The paths of the directories that a path leads through, as they are written in it. -/
def ancestors (path : Path) : List Path :=
  let path := dropSlashes path
  (List.range path.length).filterMap fun count =>
    if 0 < count && path[count]? = some slash && path[count - 1]? != some slash then
      some (path.take count)
    else none

/-! ## Making directories -/

/-- Says that a directory cannot be made. -/
def reportUnmade (p : Process) (path : Path) (errno : Errno) : StateM Machine Bool :=
  reportOn p (utf8 "cannot create directory " ++ quotedAsText path) (.error errno)

/-- Makes a directory and says so if asked. -/
def makeOneDir (p : Process) (verbose : Bool) (path : Path) :
    StateM Machine (Except Errno Unit) := do
  let result ← change (·.makeDir p.workingDir path)
  if verbose && result.isOk then
    say p standardOutput (p.calledAs ++ utf8 ": created directory " ++ quoted path ++ [newline])
  pure result

/-- Makes the directories that a path leads through, up to one that cannot be gone into, and says
whether there was none such. -/
def makeAncestors (p : Process) (verbose : Bool) : List Path → StateM Machine Bool
  | [] => pure true
  | path :: paths => do
    let last := (components path).getLast?
    if last = some dot then makeAncestors p verbose paths
    else
      let made ← if last = some dotDot then pure (.ok ()) else makeOneDir p verbose path
      let m ← get
      match m.find p.workingDir path, made with
      | .ok number, _ =>
        if (m.directory? number).isSome then makeAncestors p verbose paths
        else reportUnmade p path .notDirectory
      | .error .noEntry, .error errno => reportUnmade p path errno
      | .error errno, _ => reportUnmade p path errno

/-- Makes a directory and those that its path leads through, and says whether it is there. -/
def makeWithAncestors (p : Process) (verbose : Bool) (path : Path) : StateM Machine Bool := do
  if !(← makeAncestors p verbose (ancestors path)) then pure false
  else
    match ← makeOneDir p verbose path with
    | .ok () => pure true
    | .error .noEntry => reportUnmade p path .noEntry
    | .error errno =>
      let m ← get
      match m.find p.workingDir path with
      | .ok number =>
        if (m.directory? number).isSome then pure true else reportUnmade p path errno
      | .error .noEntry | .error .notDirectory => reportUnmade p path errno
      | .error other =>
        if errno = .alreadyExists then
          reportOn p (utf8 "cannot stat " ++ quotedAsText path) (.error other)
        else reportUnmade p path errno

/-- The greatest number that stands for permissions. -/
def maxMode : Nat := 0o7777

/-- Whether digits are those of an octal number for permissions. -/
def isOctalMode (digits : Bytes) : Bool :=
  !digits.isEmpty && digits.all (fun b => (digit? 8 b).isSome) &&
    (takeNumber 8 digits.length digits).1 ≤ maxMode

/-- Whether a text is made of actions: an operator each, and behind it whose permissions are taken
over or the letters of some. No text has more than `steps` actions. -/
def areActions : (steps : Nat) → Bytes → Bool
  | 0, _ => false
  | steps + 1, operator :: rest =>
    let behind :=
      if rest.head?.any (utf8 "ugo").contains then rest.drop 1
      else rest.dropWhile (utf8 "rwxXst").contains
    (utf8 "+-=").contains operator && (behind.isEmpty || areActions steps behind)
  | _ + 1, [] => false

/-- Whether a text says how permissions change: for whom, and by which actions. For everyone there
may also be an operator with a number. -/
def isModeClause (text : Bytes) : Bool :=
  let actions := text.dropWhile (utf8 "ugoa").contains
  areActions actions.length actions ||
    (actions.length == text.length && actions.head?.any (utf8 "+-=").contains &&
      isOctalMode (actions.drop 1))

/-- The parts of a byte string between the bytes that are `separator`. -/
def splitAll (separator : UInt8) : Bytes → List Bytes
  | [] => [[]]
  | b :: bytes =>
    if b = separator then [] :: splitAll separator bytes
    else
      match splitAll separator bytes with
      | [] => [[b]]
      | part :: parts => (b :: part) :: parts

/-- Whether a text says which permissions a directory gets: an octal number, or changes with commas
between them. -/
def isMode (text : Bytes) : Bool :=
  if text.head?.any fun b => (digit? 8 b).isSome then isOctalMode text
  else (splitAll (byte ',') text).all isModeClause

/-- Makes directories. -/
def runMakeDir (p : Process) : StateM Machine Nat :=
  let table := OptionTable.ofNames "pvZ" "m"
    [namedOpen "context" 'Z', named "mode" 'm', named "parents" 'p', named "verbose" 'v']
  withArguments p table fun arguments => do
    for option in arguments.options do
      if option.letter = byte 'Z' && option.argument.isSome then
        complain p (utf8 ("warning: ignoring --context; it requires an " ++
          "SELinux/SMACK-enabled kernel"))
    let verbose := arguments.has 'v'
    match if arguments.operands.isEmpty then none
      else (arguments.argumentOf? 'm').filter (!isMode ·) with
    | some mode =>
      complain p (utf8 "invalid mode " ++ quotedAsText mode)
      pure 1
    | none =>
      forOperands p arguments.operands fun path => do
        if arguments.has 'p' then makeWithAncestors p verbose path
        else
          match ← makeOneDir p verbose path with
          | .ok () => pure true
          | .error errno => reportUnmade p path errno

/-! ## Removing directories -/

/-- Says that an empty directory is about to be removed, if asked, and removes it. -/
def removeOneDir (p : Process) (verbose : Bool) (path : Path) :
    StateM Machine (Except Errno Unit) := do
  if verbose then
    say p standardOutput (p.calledAs ++ utf8 ": removing directory, " ++ quoted path ++ [newline])
  change (·.removeDir p.workingDir path)

/-- Whether a directory could not be removed because there is something in it. The root directory,
which is in use, always has something in it. -/
def isFullDir (errno : Errno) : Bool := errno = .notEmpty || errno = .busy

/-- Removes directories one after the other, up to one that cannot be removed. A full one is no
failure if `mayBeFull`. -/
def removeAncestors (p : Process) (verbose mayBeFull : Bool) : List Path → StateM Machine Bool
  | [] => pure true
  | path :: paths => do
    match ← removeOneDir p verbose path with
    | .ok () => removeAncestors p verbose mayBeFull paths
    | .error errno =>
      if mayBeFull && isFullDir errno then pure true
      else
        let kind := if errno = .notDirectory then [] else utf8 "directory "
        reportOn p (utf8 "failed to remove " ++ kind ++ quoted path) (.error errno)

/-- Whether a path with a slash at its end leads over a symbolic link there, and to a directory if
to anything. -/
def endsInDirLink (m : Machine) (p : Process) (path : Path) : Bool :=
  endsInSlash path &&
    (match m.find p.workingDir path with
      | .ok _ => true
      | .error errno => errno != .notDirectory) &&
    match m.namedPlace p.workingDir path with
    | .ok place =>
      match place.node.bind m.node? with
      | some (.symlink _) => true
      | _ => false
    | .error _ => false

/-- Removes empty directories. -/
def runRemoveDir (p : Process) : StateM Machine Nat :=
  let table := OptionTable.ofNames "pv" ""
    [named "ignore-fail-on-non-empty" 'i', named "path" 'p', named "parents" 'p',
      named "verbose" 'v']
  withArguments p table fun arguments => do
    let verbose := arguments.has 'v'
    let mayBeFull := arguments.has 'i'
    forOperands p arguments.operands fun path => do
      match ← removeOneDir p verbose path with
      | .ok () =>
        if arguments.has 'p' then
          let root := if path.head? = some slash then [[slash]] else []
          removeAncestors p verbose mayBeFull ((ancestors path).reverse ++ root)
        else pure true
      | .error errno =>
        if mayBeFull && isFullDir errno then pure true
        else if errno = .notDirectory && endsInDirLink (← get) p path then
          complain p (utf8 "failed to remove " ++ quoted path ++
            utf8 ": Symbolic link not followed")
          pure false
        else reportOn p (utf8 "failed to remove " ++ quoted path) (.error errno)

/-! ## Listing -/

/-- Lists the names in one directory, but not those that start with a dot. -/
def listDir (p : Process) (number : Nat) : StateM Machine Unit := do
  let names := ((← get).names number).filter fun name => name.head? != some (byte '.')
  say p standardOutput (names.flatMap (· ++ [newline]))

/-- Lists files and then directories, or the working directory. -/
def runList (p : Process) : StateM Machine Nat :=
  match Arguments.read (.ofNames "1" "" []) (p.arguments.drop 1) with
  | ⟨_, _, some message⟩ => do pure (2 * (← referToHelp p message))
  | ⟨_, [], none⟩ => do
    listDir p p.workingDir
    pure 0
  | ⟨_, operands, none⟩ => do
    let m ← get
    let found := (operands.mergeSort bytesLE).map fun name => (name, m.find p.workingDir name)
    let missing ← found.filterMapM fun (name, result) => do
      match result with
      | .ok _ => pure none
      | .error errno =>
        complain p (utf8 "cannot access " ++ quoted name ++ utf8 ": " ++ utf8 errno.library)
        pure (some name)
    let isDir := fun number => (m.directory? number).isSome
    let files := found.filter fun (_, result) => result.toOption.any fun number => !isDir number
    let dirs := found.filterMap fun (name, result) => (result.toOption.filter isDir).map ((name, ·))
    say p standardOutput (files.flatMap fun (name, _) => name ++ [newline])
    let headed := 1 < operands.length
    let _ ← dirs.mapIdxM fun index (name, number) => do
      if headed then
        say p standardOutput ((if 0 < index || !files.isEmpty then [newline] else []) ++ name ++
          utf8 ":\n")
      listDir p number
    pure (if missing.isEmpty then 0 else 2)

end MiniShell.Host
