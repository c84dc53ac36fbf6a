import MiniShell.Host.Script.Evaluation
import MiniShell.Host.Script.Test

/-!
# Commands for the course of a script
-/

namespace MiniShell.Host.Script.Builtin

open Run

/-- Ends the script, with the status of the last command if no other is given. -/
def exit (arguments : List Bytes) : Run Nat := do
  let i ← get
  match arguments with
  | [] => throw (.exit (i.statusBeforeTrap.getD i.status))
  | code :: _ => throw (.exit (← numberIn code))

/-- Ends the function or the file that runs. -/
def endCall (arguments : List Bytes) : Run Nat := do
  match arguments with
  | [] => pure ()
  | code :: _ => setStatus (← numberIn code)
  throw .endCall

/-- Leaves as many loops as an argument says, or one, but no more than there are. -/
def leaveLoops (leave : Nat → Leave) (arguments : List Bytes) : Run Nat := do
  let count ← (arguments.head?.map numberIn).getD (pure 1)
  if count = 0 then fail (utf8 "Illegal number: " ++ arguments.head?.getD [])
  let loops ← ask (·.loops)
  if loops = 0 then pure 0
  else
    setStatus 0
    throw (leave (min count loops))

/-- Runs its arguments as a text. -/
def eval (tools : Tools) (mode : Mode) (arguments : List Bytes) : Run Nat := do
  tools.runText { mode with last := false } (joinWords arguments)
  ask (·.status)

/-- The path of a file that a name without a slash stands for. -/
def findScript (name : Bytes) : Run Path := do
  if name.contains slash then pure name
  else
    let i ← get
    let m ← machine get
    let isFile := fun (path : Path) =>
      (m.find i.process.workingDir path).toOption.any fun number =>
        m.node? number matches some (.file ..) || m.node? number matches some (.program _)
    match (programPaths i name).find? isFile with
    | some path => pure path
    | none => fail (name ++ utf8 ": not found")

/-- Runs a file as a part of the script. -/
def source (tools : Tools) (arguments : List Bytes) : Run Nat :=
  withOptions "" "" arguments fun _ operands => do
    match operands with
    | [] => pure 0
    | name :: _ =>
      let path ← findScript name
      let p ← ask (·.process)
      match (← machine get).find p.workingDir path with
      | .error errno => cannotOpen false path errno
      | .ok number =>
        let index ← machine (modifyGet (·.addOpenFile ⟨number, 0, .read⟩))
        match ← attempt (restoring (·.doing) (fun old i => { i with doing := old }) do
            modify fun i => { i with doing := some path }
            tools.runFile index) with
        | .error .endCall | .ok () => ask (·.status)
        | .error leave => throw leave

/-- Becomes a program. -/
def exec (tools : Tools) (arguments : List Bytes) : Run Nat :=
  withOptions "" "" arguments fun _ operands => do
    match operands with
    | [] => pure 0
    | name :: arguments =>
      match ← startProgram tools.execute name arguments with
      | .ok status => throw (.gone status)
      | .error errno =>
        Run.complain (refusal name errno)
        throw (.exit (refusalCode errno))

/-- Waits for processes in the background, which have all ended. -/
def wait (arguments : List Bytes) : Run Nat := do
  let codes ← arguments.mapM fun argument => do
    let pid ← numberIn argument
    match (← get).background.lookup pid with
    | some status =>
      announce status
      pure (codeOf status)
    | none => pure notFound
  pure (codes.getLast?.getD 0)

/-- Tells whether a condition holds. -/
def test (arguments : List Bytes) : Run Nat := do
  let p ← ask (·.process)
  match Test.evaluate (Test.factsOf (← machine get) p) arguments with
  | .ok true => pure 0
  | .ok false => pure 1
  | .error message => fail message

/-- Tells whether the condition in front of a closing bracket holds. -/
def bracket (arguments : List Bytes) : Run Nat :=
  if arguments.getLast? = some [byte ']'] then test arguments.dropLast
  else fail (utf8 "missing ]")

/-- Tells what names stand for. -/
def typeOf (arguments : List Bytes) : Run Nat :=
  withOptions "" "" arguments fun _ names => do
    let codes ← names.mapM (describe true)
    pure ((codes.find? (· != 0)).getD 0)

/-- Tells what a name stands for, if an option asks for it. -/
def command (arguments : List Bytes) : Run Nat :=
  withOptions "pvV" "" arguments fun options names => do
    match options.reverse.find? (·.1 != byte 'p'), names with
    | some (letter, _), name :: _ => describe (letter = byte 'V') name
    | _, _ => pure 0

end MiniShell.Host.Script.Builtin
