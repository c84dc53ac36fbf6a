import MiniShell.Host.Script.Lookup
import MiniShell.Host.Script.Parser
import MiniShell.Host.Script.Redirection

/-!
# Running texts

A script is read and run line by line, as it arrives. Parts of it run in processes of their own, and
whatever process runs a part, traps are run when signals have come and at its end.
-/

namespace MiniShell.Host.Script

/-- What it takes to run commands: how programs are run, and how the commands inside of others
are. -/
structure Tools where
  execute : Execute
  evaluate : Mode → Command → Run Unit

/-- A reader at the start of a text. Nothing comes behind it if `atEnd`. -/
def Reader.ofText (text : Bytes) (atEnd : Bool) : Reader :=
  ⟨text, atEnd, 1, none, .newline, [], [], 0⟩

/-- A bound on the number of steps in which a line can be read. -/
def Reader.steps (r : Reader) : Nat := 16 * r.rest.length + 64

/-- A bound on the number of lines of a script. -/
def maxLines : Nat := 1000000

namespace Tools

/-- Runs the lines that a reader finds. More of the script is asked for when a line is not
complete. Nothing at all counts as success. -/
def runLines (tools : Tools) (mode : Mode) (more : Run (Option Bytes)) :
    (steps : Nat) → (idle : Bool) → Reader → Run Unit
  | 0, _, _ => pure ()
  | steps + 1, idle, r => do
    let next ← Run.ask (·.nextDocument)
    match (Parse.line r.steps).run { r with documents := [], nextDocument := next } with
    | .error .incomplete =>
      match ← more with
      | some block => tools.runLines mode more steps idle { r with rest := r.rest ++ block }
      | none => tools.runLines mode more steps idle { r with atEnd := true }
    | .error (.wrong line message) =>
      modify fun i => { i with line }
      Run.fail (utf8 "Syntax error: " ++ message)
    | .ok (none, _) => if idle then Run.setStatus 0
    | .ok (some command, r) =>
      modify fun i => { i with
        documents := r.documents ++ i.documents
        nextDocument := r.nextDocument }
      match command, (← get).hasOption 'n' with
      | .skip, _ | _, true => tools.runLines mode more steps idle r
      | command, false =>
        let last := mode.last && r.pushed matches some .endOfFile
        tools.evaluate { mode with last } command
        tools.runLines mode more steps false r

/-- Runs a text. -/
def runText (tools : Tools) (mode : Mode) (text : Bytes) : Run Unit :=
  tools.runLines mode (pure none) (text.length + 2) true (.ofText text true)

/-- Runs what is read from an open file, in blocks. Its NUL bytes are left out. -/
def runFile (tools : Tools) (index : Nat) : Run Unit :=
  let more : Run (Option Bytes) := do
    let p ← Run.ask (·.process)
    match ← Run.machine (modifyGet (·.readOpenFile p index blockSize)) with
    | .ok (b :: block) => pure (some ((b :: block).filter (· != 0)))
    | _ => pure none
  tools.runLines .inner more maxLines true (.ofText [] false)

/-- Runs the traps of the signals that have come. -/
def runTraps (tools : Tools) : Run Unit := do
  let i ← get
  if !i.caught.isEmpty then
    set { i with caught := [] }
    for (signal, action) in i.traps.mergeSort fun a b => a.1 ≤ b.1 do
      if i.caught.contains signal then
        let status ← Run.ask (·.status)
        Run.restoring (·.statusBeforeTrap) (fun old i => { i with statusBeforeTrap := old }) do
          modify fun i => { i with statusBeforeTrap := some (i.statusBeforeTrap.getD status) }
          tools.runText .inner action
        Run.setStatus status

/-- Runs an action that a process ends with, and the trap for its end. Answers with the way it
ended. -/
def finish (tools : Tools) (action : Run Unit) : Run Status := do
  match ← Run.attempt action with
  | .error (.gone status) => pure status
  | .error (.exit code) | .error (.mistake code) => leave code
  | _ => leave (← Run.ask (·.status))
where
  /-- Runs the trap for the end. -/
  leave (code : Nat) : Run Status := do
    let i ← get
    match i.traps.lookup 0 with
    | none => pure (.exited (code % 256))
    | some action =>
      set { i with
        traps := i.traps.filter (·.1 != 0)
        status := code
        statusBeforeTrap := some code }
      match ← Run.attempt (tools.runText .inner action) with
      | .error (.gone status) => pure status
      | .error (.exit code) => pure (.exited (code % 256))
      | _ => pure (.exited (code % 256))

/-- Runs an action in a child process. Answers with the way it ended. -/
def inChild (tools : Tools) (action : Run Unit) : Run Status := Run.inChild tools.finish action

/-- Runs a command in a child process and answers with its output. -/
def capture (tools : Tools) : Capture := fun command => do
  let pipe ← Run.machine (modifyGet (·.addNode (.pipe [])))
  let status ← tools.inChild do
    Run.openFor 1 pipe .write
    tools.evaluate ⟨false, true⟩ command
  Run.announce status
  modify fun i => { i with outputStatus := codeOf status }
  match (← Run.machine get).node? pipe with
  | some (.pipe output) => pure output
  | _ => pure []

end Tools

end MiniShell.Host.Script
