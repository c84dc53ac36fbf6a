import MiniShell.Environment
import MiniShell.Host.Program

/-!
# The machine as the system of the shell

Every system call of the shell, answered by the machine. A child can always be made and waited for.
-/

namespace MiniShell.Host

/-- The environment of a shell on a machine. -/
abbrev ShellEnvironment := Environment Process

/-- The open file that a stream of the shell stands for. -/
def openFile? (p : Process) : InputStream → Option Nat
  | .standardInput => p.openFile? 0
  | .file number => some number

/-- What is left to read of a stream. A standard input that cannot be read from has nothing to read,
which is no failure, and so has one that is closed. -/
def unread (p : Process) (stream : InputStream) (m : Machine) : Source :=
  match stream, (openFile? p stream).map (m.source p) with
  | _, none | .standardInput, some [.failed (.system .badDescriptor)] => []
  | _, some source => source

/-- The machine as the system that the shell runs on. -/
def system : System Machine Process where
  changeDir p path := fun m =>
    match m.find p.workingDir path with
    | .error errno => (.error errno, m)
    | .ok number =>
      if (m.directory? number).isNone then (.error .notDirectory, m)
      else (.ok { p with workingDir := number }, m)
  currentDir p := fun m => (m.pathOf p.workingDir, m)
  isExecutable p path := fun m =>
    ((m.find p.workingDir path).toOption.any m.mayExecute, m)
  create p path mode := fun m =>
    match m.openOutput p.workingDir p.mask path mode true with
    | (.error errno, m) => (.error errno, m)
    | (.ok number, m) =>
      let (opened, m) := m.openNode p number .readWrite
      (.ok opened, m)
  duplicate p old new := fun m =>
    match p.openFile? old with
    | none => (.error .badDescriptor, m)
    | some index => (.ok (p.assign new index), m)
  close p descriptor := fun m => (p.drop descriptor, m)
  write p descriptor bytes := fun m => ((), (m.write p descriptor bytes).2)
  openFile p path := fun m =>
    match m.find p.workingDir path with
    | .error errno => (.error errno, m)
    | .ok number =>
      let (index, m) := m.addOpenFile ⟨number, 0, .read⟩
      (.ok (.file index), m)
  unread p stream := fun m => (unread p stream m, m)
  advance p stream reads := fun m =>
    ((), match openFile? p stream with
      | none => m
      | some index => reads.repeat (fun m => (m.readOpenFile p index blockSize).2) m)
  execute := execute maxDepth
  fork := pure (.ok ())
  wait ended := pure <|
    match ended with
    | .exited code => .ok (.exited code)
    | .signaled signal => if signal ≤ lastNamedSignal then .ok ended else .error .invalid

end MiniShell.Host
