import MiniShell.Host.Script.Run

/-!
# The interpreter as a program

A script is given as an argument, in a file, or on the standard input.
-/

namespace MiniShell.Host.Script

open Run

/-- Variables that every script starts with. -/
def initialVariables : List Variable :=
  [("IFS", " \t\n"), ("OPTIND", "1"),
    ("PATH", "/usr/local/sbin:/usr/local/bin:/usr/sbin:/usr/bin:/sbin:/bin"), ("PPID", "1"),
    ("PS1", "# "), ("PS2", "> "), ("PS4", "+ ")].map
    fun (name, value) => ⟨utf8 name, some (utf8 value), false, false⟩

/-- The path by which a process came to its working directory, as far as the environment tells. -/
def startDirectory (m : Machine) (p : Process) : Option Path :=
  let physical := m.pathOf p.workingDir
  match p.environment.lookup (utf8 "PWD") with
  | some path =>
    if path.head? = some slash ∧ (m.find p.workingDir path).toOption = some p.workingDir then
      some path
    else physical
  | none => physical

namespace Interpreter

/-- The interpreter of a process. -/
def ofProcess (p : Process) : Interpreter where
  process := p
  name := p.calledAs
  arguments := []
  directory := none
  bindings := initialVariables
  functions := []
  documents := []
  nextDocument := 0
  status := 0
  outputStatus := 0
  options := []
  traps := []
  caught := []
  passedOn := none
  statusBeforeTrap := none
  line := 0
  doing := none
  loops := 0
  locals := []
  optionPlace := (1, [])
  background := []
  printed := []

end Interpreter

namespace Run

/-- Takes over variables from the environment, and the path of the working directory. -/
def takeEnvironment : Run Unit := do
  let p ← ask (·.process)
  for (name, value) in p.environment do
    if isName name then
      modify fun i => i.putVariable ⟨name, some value, true, false⟩
  let directory := startDirectory (← machine get) p
  if directory.isNone then
    machine (say p standardError
      (utf8 "sh: 0: getcwd() failed: " ++ utf8 Errno.noEntry.library ++ [newline]))
  modify fun i => { i with directory }
  assign (utf8 "PWD") (directory.getD []) true

/-- Runs what is read from the standard input. -/
def runInput (tools : Tools) : Run Unit := do
  ((← ask (·.process)).openFile? 0).forM tools.runFile

/-- Runs the script in a file, with the name of that file. -/
def runScriptFile (tools : Tools) (path : Path) (arguments : List Bytes) : Run Unit := do
  let p ← ask (·.process)
  match (← machine get).find p.workingDir path with
  | .error errno => cannotOpen false path errno
  | .ok number =>
    let index ← machine (modifyGet (·.addOpenFile ⟨number, 0, .read⟩))
    modify fun i => { i with name := path, arguments }
    tools.runFile index

/-- Runs the script that the arguments of the process give. -/
def runArguments (tools : Tools) : Run Unit := do
  takeEnvironment
  let arguments := (← ask (·.process)).arguments.drop 1
  let remainder ← setOptions true false arguments.length arguments
  let _ ← flush
  let fromInput := (← get).hasOption 's'
  match remainder.command, remainder.arguments with
  | true, [] => fail (utf8 "-c requires an argument")
  | true, text :: rest =>
    modify fun i => { i with name := rest.head?.getD i.name, arguments := rest.drop 1 }
    tools.runText .inner text
    if fromInput then runInput tools
  | false, [] =>
    setOption true (byte 's')
    runInput tools
  | false, path :: rest =>
    if fromInput then
      modify fun i => { i with arguments := path :: rest }
      runInput tools
    else runScriptFile tools path rest

end Run

/-- The interpreter as a program. -/
def runInterpreter (execute : Execute) (p : Process) : StateM Machine Status := do
  let tools : Tools := ⟨execute, evaluate execute maxSteps⟩
  match ← (tools.finish (Run.runArguments tools)).run (Interpreter.ofProcess p) with
  | (.ok status, _) => pure status
  | (.error _, _) => pure (.exited misuse)

end MiniShell.Host.Script
