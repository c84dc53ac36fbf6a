import MiniShell.Host.Script.Expansion

/-!
# Redirections

Redirections are applied to the process of the interpreter, one after the other. Those of a single
command are taken back when it is over.
-/

namespace MiniShell.Host.Script

/-- A redirection whose target is known. -/
inductive Opening where
  | file (descriptor : Nat) (kind : RedirectKind) (target : Bytes)
  /-- The descriptor is for reading the text. -/
  | text (descriptor : Nat) (text : Bytes)

/-- Whether a text is what a descriptor can be made from: a digit, or a hyphen that closes it. -/
def namesDescriptor : Bytes → Bool
  | [b] => isDigit b || b == byte '-'
  | _ => false

namespace Run

/-- The redirection with values put into its target. -/
def opening (capture : Capture) : Redirect → Run Opening
  | .mk descriptor kind (.word word) => do
    let target ← text capture word
    if kind = .duplicate ∧ ¬ namesDescriptor target then fail (utf8 "Syntax error: Bad fd number")
    pure (.file descriptor kind target)
  | .mk descriptor _ (.document number) => do
    let word := (← get).document number
    pure (.text descriptor (textOf (← wordAtoms capture false false word)))

/-- Fails because a file could not be opened. -/
def cannotOpen {α : Type} (creating : Bool) (target : Bytes) (errno : Errno) : Run α :=
  let missing := errno = .noEntry ∨ errno = .notDirectory
  fail <| utf8 (if creating then "cannot create " else "cannot open ") ++ target ++ utf8 ": " ++
    utf8 (if missing then (if creating then "Directory nonexistent" else "No such file")
      else errno.library)

/-- Makes a descriptor refer to a node. -/
def openFor (descriptor number : Nat) (access : Access) : Run Unit := do
  let index ← machine (modifyGet (·.addOpenFile ⟨number, 0, access⟩))
  modify fun i => { i with process := i.process.assign descriptor index }

/-- Opens a file for output. -/
def openOutput (descriptor : Nat) (target : Bytes) (access : Access) (empty : Bool) : Run Unit := do
  let p ← ask (·.process)
  match ← machine (modifyGet (·.openOutput p.workingDir p.mask target 0o666 empty)) with
  | .error errno => cannotOpen true target errno
  | .ok number => openFor descriptor number access

/-- Makes a descriptor refer to what another one refers to, or closes it. If it is to be put back
later, it is closed in any case. -/
def duplicate (saved : Bool) (descriptor : Nat) (target : Bytes) : Run Unit := do
  let p ← ask (·.process)
  if target = [byte '-'] then modify fun i => { i with process := p.drop descriptor }
  else
    match (decimal? target).bind p.openFile? with
    | some index => modify fun i => { i with process := p.assign descriptor index }
    | none =>
      if saved then modify fun i => { i with process := p.drop descriptor }
      fail (target ++ utf8 ": " ++ utf8 Errno.badDescriptor.library)

/-- Whether a path leads to a file that output would empty. -/
def isRegularFile (path : Bytes) : Run Bool := do
  let p ← ask (·.process)
  let m ← machine get
  pure ((m.find p.workingDir path).toOption.any fun number =>
    m.node? number matches some (.file ..) || m.node? number matches some (.program _))

/-- Applies a redirection. The descriptor is to be put back later if `saved`. -/
def apply (saved : Bool) : Opening → Run Unit
  | .text descriptor text => do
    let number ← machine (modifyGet (·.addNode (.pipe text)))
    openFor descriptor number .read
  | .file descriptor kind target => do
    match kind with
    | .output =>
      if (← get).hasOption 'C' ∧ (← isRegularFile target) then cannotOpen true target .alreadyExists
      else openOutput descriptor target .write true
    | .clobber => openOutput descriptor target .write true
    | .append => openOutput descriptor target .append false
    | .inputOutput => openOutput descriptor target .readWrite false
    | .input =>
      let p ← ask (·.process)
      match (← machine get).find p.workingDir target with
      | .error errno => cannotOpen false target errno
      | .ok number => openFor descriptor number .read
    | .duplicate => duplicate saved descriptor target

/-- Applies redirections. -/
def applyAll (saved : Bool) (openings : List Opening) : Run Unit := openings.forM (apply saved)

/-- The descriptor that a redirection changes. -/
def descriptorOf : Opening → Nat
  | .file descriptor .. | .text descriptor _ => descriptor

/-- The process with a descriptor as it is in another one. -/
def takeDescriptor (old p : Process) (descriptor : Nat) : Process :=
  match old.openFile? descriptor with
  | some index => p.assign descriptor index
  | none => p.drop descriptor

/-- Runs an action, and puts back the descriptors that redirections change. -/
def keepingDescriptors {α : Type} (openings : List Opening) (action : Run α) : Run α :=
  restoring (·.process)
    (fun old i => { i with
      process := (openings.map descriptorOf).foldl (takeDescriptor old) i.process })
    action

/-- Runs an action with redirections. One that fails takes its place. Answers with whether the
action was run. -/
def redirecting (openings : List Opening) (action : Run Unit) : Run Bool :=
  keepingDescriptors openings do
    match ← attempt (applyAll true openings) with
    | .ok () =>
      action
      pure true
    | .error (.mistake code) =>
      setStatus code
      pure false
    | .error leave => throw leave

end Run

end MiniShell.Host.Script
