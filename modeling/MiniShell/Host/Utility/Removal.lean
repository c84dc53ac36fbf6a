import MiniShell.Host.Utility.Directory

/-!
# The utility that removes files and directories

A directory is removed with everything in it if that is asked for. Something that could not be
removed keeps the directories around it, about which nothing more is said then.
-/

namespace MiniShell.Host

/-- When one is asked before something is removed. -/
inductive Caution where
  | never
  /-- Once before all, if there is much to remove. -/
  | once
  | always
  deriving DecidableEq, Repr

/-- What is removed besides files, and what is said about it. -/
structure Removal where
  trees : Bool
  emptyDirs : Bool
  verbose : Bool
  /-- The root directory may go. -/
  rootToo : Bool
  caution : Caution
  /-- What is not there counts as removed. -/
  ignoresMissing : Bool

/-- What became of something that was to be removed. Something that `stays` keeps the directories
around it. -/
structure Removed where
  failed : Bool
  stays : Bool

namespace Removal

/-- The argument for which one is asked before something is removed, and what it stands for. -/
def occasions : List (String × Caution) :=
  [("never", .never), ("no", .never), ("none", .never), ("once", .once), ("always", .always),
    ("yes", .always)]

/-- What an argument, which may be cut short, says about when one is asked. -/
def occasion? (text : Bytes) : Except Bytes Caution :=
  let candidates := occasions.filter fun (word, _) => text.isPrefixOf (utf8 word)
  let about := fun (what : String) =>
    utf8 what ++ utf8 " argument " ++ quotedAsText text ++ utf8 " for '--interactive'"
  match candidates.find? fun (word, _) => utf8 word == text, candidates with
  | some (_, caution), _ => .ok caution
  | none, [] => .error (about "invalid")
  | none, (_, first) :: others =>
    if others.all fun (_, caution) => caution = first then .ok first
    else .error (about "ambiguous")

/-- The list of what can be said about when one is asked. -/
def occasionList : Bytes :=
  utf8 ("Valid arguments are:\n  - 'never', 'no', 'none'\n  - 'once'\n" ++
    "  - 'always', 'yes'\n")

/-- How things are removed if no option says otherwise. -/
def plain : Removal := ⟨false, false, false, false, .never, false⟩

/-- Takes an option into account. A wrong one is answered with what is wrong about it, and what is
said behind that and the name of the program. -/
def addOption (r : Removal) (option : GivenOption) : Except (Bytes × Option Bytes) Removal :=
  let cautious := fun (caution : Caution) =>
    { r with caution := caution, ignoresMissing := caution = .never && r.ignoresMissing }
  if option.letter = byte 'f' then .ok { r with caution := .never, ignoresMissing := true }
  else if option.letter = byte 'i' then
    match option.argument.map occasion? with
    | none => .ok (cautious .always)
    | some (.ok caution) => .ok (cautious caution)
    | some (.error message) => .error (message, some occasionList)
  else if option.letter = byte 'I' then .ok (cautious .once)
  else if option.letter = byte 'r' || option.letter = byte 'R' then .ok { r with trees := true }
  else if option.letter = byte 'd' then .ok { r with emptyDirs := true }
  else if option.letter = byte 'v' then .ok { r with verbose := true }
  else if option.letter = byte 'P' then
    if option.inFull then .ok { r with rootToo := true }
    else .error (utf8 "you may not abbreviate the --no-preserve-root option", none)
  else if option.letter = byte 'p' then
    match option.argument with
    | some text =>
      if text = utf8 "all" then .ok { r with rootToo := false }
      else .error (utf8 "unrecognized --preserve-root argument: " ++ quotedAsText text, none)
    | none => .ok { r with rootToo := false }
  else .ok r

/-- The options that are known. -/
def table : OptionTable :=
  .ofNames "dfirvIR" ""
    [named "force" 'f', namedOpen "interactive" 'i', named "one-file-system" 'x',
      named "no-preserve-root" 'P', namedOpen "preserve-root" 'p', named "-presume-input-tty" 't',
      named "recursive" 'r', named "dir" 'd', named "verbose" 'v']

/-- Says that something was removed, if asked. -/
def announce (r : Removal) (p : Process) (what : String) (path : Path) : StateM Machine Unit :=
  if r.verbose then say p standardOutput (utf8 what ++ quoted path ++ [newline]) else pure ()

/-- Reads a line from standard input, and says whether it starts like a yes. -/
def askForYes (p : Process) : StateM Machine Bool := do
  let line ← modifyGet fun m =>
    match (p.openFile? 0).bind fun index => (m.openFiles[index]?).map ((index, ·)) with
    | none => ([], m)
    | some (index, file) =>
      match m.unread p file with
      | .error _ => ([], m)
      | .ok bytes =>
        let line := bytes.takeWhile (· != newline)
        (line, m.skip index (min bytes.length (line.length + 1)))
  pure (line.head?.any (utf8 "yY").contains)

/-- Asks whether something is to be done with a file, if one has to be asked every time. -/
def isWanted (r : Removal) (p : Process) (action : Bytes) (path : Path) :
    StateM Machine Bool := do
  if r.caution != .always then pure true
  else
    say p standardError (p.calledAs ++ utf8 ": " ++ action ++ utf8 " " ++ quoted path ++ utf8 "? ")
    askForYes p

/-- What kind of file a node is. -/
def kindOf : Node → String
  | .directory _ => "directory"
  | .file _ content => if content.isEmpty then "regular empty file" else "regular file"
  | .symlink _ => "symbolic link"
  | .program _ => "regular file"
  | .nullDevice | .fullDevice => "character special file"
  | .ownArguments => "regular empty file"
  | .pipe _ => "fifo"

/-- Says why something cannot be removed, unless it is not there and need not be. -/
def reportKept (r : Removal) (p : Process) (path : Path) (errno : Errno) :
    StateM Machine Removed := do
  if r.ignoresMissing && (errno = .noEntry || errno = .notDirectory || errno = .invalid) then
    pure ⟨false, false⟩
  else
    let _ ← reportOn p (utf8 "cannot remove " ++ quoted path) (.error errno)
    pure ⟨true, true⟩

/-- Removes a file or an empty directory by the given step. -/
def removeNow (r : Removal) (p : Process) (isDir : Bool) (path : Path) :
    StateM Machine Removed := do
  let step := if isDir then Machine.removeDir else Machine.removeFile
  match ← change (step · p.workingDir path) with
  | .ok () =>
    r.announce p (if isDir then "removed directory " else "removed ") path
    pure ⟨false, false⟩
  | .error errno => r.reportKept p path errno

/-- Removes something that is no directory, if it is there and that is wanted. -/
def removeFile (r : Removal) (p : Process) (path : Path) (node : Except Errno Node) :
    StateM Machine Removed := do
  match node with
  | .error errno =>
    if r.caution = .always then r.reportKept p path errno else r.removeNow p false path
  | .ok node =>
    if ← r.isWanted p (utf8 ("remove " ++ kindOf node)) path then r.removeNow p false path
    else pure ⟨false, false⟩

/-- Why a directory is left alone that was asked to be removed. -/
def refusal? (r : Removal) (number : Nat) (path : Path) : Option (List Bytes) :=
  let last := (components path).getLast?
  if last = some dot || last = some dotDot then
    some [utf8 "refusing to remove '.' or '..' directory: skipping " ++ quoted path]
  else if r.trees && !r.rootToo && number = rootNode then
    some [utf8 "it is dangerous to operate recursively on " ++ quoted path ++
        (if path = [slash] then [] else utf8 " (same as '/')"),
      utf8 "use --no-preserve-root to override this failsafe"]
  else none

/-- Removes a file, or a directory with everything in it that is no more than `depth` levels down.
An operand is `asked` for. -/
def remove (r : Removal) (p : Process) : (depth : Nat) → (asked : Bool) → Path →
    StateM Machine Removed
  | 0, _, _ => pure ⟨true, true⟩
  | depth + 1, asked, path => do
    let m ← get
    let number? := match m.place false p.workingDir path with
      | .error errno => Except.error errno
      | .ok place =>
        match place.node with
        | none => .error .noEntry
        | some number =>
          if place.mustBeDir && (m.directory? number).isNone then .error .notDirectory
          else .ok number
    match number?.map fun number => (number, m.directory? number) with
    | .error errno => r.removeFile p path (.error errno)
    | .ok (number, none) => r.removeFile p path ((m.node? number).elim (.error .noEntry) .ok)
    | .ok (number, some d) =>
      if !r.trees && !(r.emptyDirs && d.entries.isEmpty) then
        let _ ← reportOn p (utf8 "cannot remove " ++ quoted path)
          (.error (if r.emptyDirs then .notEmpty else .isDirectory))
        pure ⟨true, true⟩
      else
        match if asked then r.refusal? number path else none with
        | some messages =>
          let _ ← messages.mapM (complain p)
          pure ⟨true, true⟩
        | none =>
          if d.entries.isEmpty then
            if ← r.isWanted p (utf8 "remove directory") path then r.removeNow p true path
            else pure ⟨false, true⟩
          else if !(← r.isWanted p (utf8 "descend into directory") path) then pure ⟨false, true⟩
          else
            let between := if endsInSlash path then [] else [slash]
            let results ← d.entries.mapM fun (name, _) =>
              Removal.remove r p depth false (path ++ between ++ name)
            let failed := results.any (·.failed)
            if results.any (·.stays) then pure ⟨failed, true⟩
            else if ← r.isWanted p (utf8 "remove directory") path then r.removeNow p true path
            else pure ⟨failed, false⟩

/-- How a file is removed whose name was taken for options. -/
def hintAt (p : Process) (file : Bytes) : Bytes :=
  utf8 "Try '" ++ p.calledAs ++ utf8 " ./" ++ quotedIfOdd file ++ utf8 "' to remove the file " ++
    quoted file ++ utf8 ".\n"

/-- Reports a wrong option, and tells how to remove the first file whose name looks like options. -/
def reportFault (p : Process) (message : Bytes) : StateM Machine Nat := do
  complain p message
  let m ← get
  let file? := (p.arguments.drop 1).find? fun argument =>
    argument.head? = some (byte '-') && 1 < argument.length &&
      (m.place false p.workingDir argument).toOption.any (·.node.isSome)
  say p standardError ((file?.map (hintAt p)).getD [])
  say p standardError (utf8 "Try '" ++ p.calledAs ++ utf8 " --help' for more information.\n")
  pure 1

/-- Takes options into account, up to one that is wrong or asks what the program is. -/
def addOptions (p : Process) (r : Removal) : List GivenOption → StateM Machine (Except Nat Removal)
  | [] => pure (.ok r)
  | option :: options => do
    if [byte helpLetter, byte versionLetter].contains option.letter then pure (.error 0)
    else
      match r.addOption option with
      | .ok r => addOptions p r options
      | .error (message, none) =>
        complain p message
        pure (.error 1)
      | .error (message, some list) =>
        complain p message
        say p standardError
          (list ++ utf8 "Try '" ++ p.calledAs ++ utf8 " --help' for more information.\n")
        pure (.error 1)

/-- A path with no more than one slash at its end. -/
def trimEnd (path : Path) : Path :=
  let stem := dropSlashes path
  if 2 < path.length && endsInSlash path then (if stem = [slash] then stem else stem ++ [slash])
  else path

/-- Removes what an operand names, and says whether that did not fail. -/
def removeOperand (r : Removal) (p : Process) (operand : Bytes) : StateM Machine Bool := do
  let removed ← r.remove p (← get).nodes.length true (trimEnd operand)
  pure !removed.failed

/-- Asks whether so many operands are to be removed, if one has to be asked once and there is much
to remove. -/
def isWantedAtAll (r : Removal) (p : Process) (count : Nat) : StateM Machine Bool := do
  if r.caution = .once && (3 < count || r.trees) then
    let what := if count = 1 then " argument" else " arguments"
    let how := if r.trees then " recursively? " else "? "
    say p standardError (p.calledAs ++ utf8 (": remove " ++ toString count ++ what ++ how))
    askForYes p
  else pure true

end Removal

/-- Removes files, and directories if asked. -/
def runRemove (p : Process) : StateM Machine Nat := do
  let arguments := Arguments.read Removal.table (p.arguments.drop 1)
  match ← Removal.addOptions p .plain arguments.options, arguments.fault with
  | .error code, _ => pure code
  | .ok _, some message => Removal.reportFault p message
  | .ok r, none =>
    if arguments.operands.isEmpty then
      if r.ignoresMissing then pure 0 else referToHelp p (utf8 "missing operand")
    else if ← r.isWantedAtAll p arguments.operands.length then
      forOperands p arguments.operands (r.removeOperand p)
    else pure 0

end MiniShell.Host
