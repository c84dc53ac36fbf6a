import MiniShell.Host.Script.Invocation
import MiniShell.Host.Utility

/-!
# Becoming a program

A process becomes a program that comes with the machine, or a script that names its interpreter in
its first line. The interpreter may be a script in its turn, but only so many scripts may follow
each other. Programs that run other programs do so to a fixed depth.
-/

namespace MiniShell.Host

/-- The length that no argument of a program reaches, its NUL byte not counted. -/
def maxArgumentLength : Nat := 131072

/-- The room for all arguments of a program and its environment, with 8 bytes more for each. -/
def argumentRoom : Nat := 2097152

/-- The depth to which programs may run other programs. -/
def maxDepth : Nat := 1000

/-- How much of a script is looked at to find its interpreter. -/
def headLength : Nat := 256

/-- The number of files that are looked at to find a program: scripts, and the program at last. -/
def maxFiles : Nat := 6

def isBlank (b : UInt8) : Bool := b == byte ' ' || b == byte '\t'

/-- The interpreter in the first line of a script, and the argument that is given to it. A NUL byte
ends what stands in front of it. -/
def splitHeader (line : Bytes) : Option (Path × List Bytes) :=
  match line.dropWhile isBlank with
  | [] => none
  | text =>
    let name := text.takeWhile fun b => !isBlank b && b != 0
    let argument :=
      match text.drop name.length with
      | [] | 0 :: _ => []
      | _ :: rest =>
        match rest.dropWhile isBlank with
        | [] => []
        | argument => [argument.takeWhile (· != 0)]
    some (name, argument)

/-- The interpreter that a script names in its first line, and the argument it gives to it. Behind a
line without an end, zeros fill up what is looked at. If there is no room for them behind the name,
the name may have been cut short and does not count. -/
def interpreterOf (content : Bytes) : Option (Path × List Bytes) :=
  match content.take headLength with
  | 35 :: 33 :: head =>
    let line := head.takeWhile fun b => b != newline && b != 0
    let filled := head ++ List.replicate (headLength - 2 - head.length) 0
    let isComplete := (filled.dropWhile isBlank).any fun b => isBlank b || b == 0
    let trim := fun (text : Bytes) => (text.reverse.dropWhile isBlank).reverse
    if head[line.length]? = some newline then splitHeader (trim line)
    else if isComplete then splitHeader (trim filled.dropLast)
    else none
  | _ => none

/-- The node of a file that a process may execute. -/
def findExecutable (m : Machine) (workingDir : Nat) (path : Path) : Except Errno Nat :=
  match m.find workingDir path with
  | .error errno => .error errno
  | .ok number =>
    if (m.directory? number).isSome || !m.mayExecute number then .error .accessDenied
    else .ok number

/-- The program that a path leads to through scripts, and the arguments it gets. No more than so
many files are looked at. -/
def findProgram (m : Machine) (workingDir : Nat) :
    (files : Nat) → Path → List Bytes → Except Errno (Utility × List Bytes)
  | 0, path, _ =>
    match findExecutable m workingDir path with
    | .error errno => .error errno
    | .ok _ => .error .tooManyLinks
  | files + 1, path, arguments =>
    match findExecutable m workingDir path with
    | .error errno => .error errno
    | .ok number =>
      match m.node? number with
      | some (.program utility) => .ok (utility, arguments)
      | some (.file _ content) =>
        match interpreterOf content with
        | none => .error .execFormat
        | some (interpreter, argument) =>
          findProgram m workingDir files interpreter
            (interpreter :: argument ++ path :: arguments.drop 1)
      | _ => .error .accessDenied

/-- Whether there is room for the arguments and the environment of a program. -/
def fits (p : Process) (arguments : List Bytes) : Bool :=
  let strings := arguments ++ p.environment.map fun (name, value) => name ++ byte '=' :: value
  (strings.all fun s => s.length < maxArgumentLength) &&
    strings.foldl (fun total s => total + s.length + 9) 0 < argumentRoom

/-- Becomes the program `path` with the given arguments. Answers with the way it ended, or with the
reason why it could not be started. -/
def execute : (depth : Nat) → Process → Path → List Bytes → StateM Machine (Except Errno Status)
  | 0, _, _, _ => pure (.error .tryAgain)
  | depth + 1, p, path, arguments => do
    if !fits p arguments then pure (.error .argumentsTooLong)
    else
      match findProgram (← get) p.workingDir maxFiles path arguments with
      | .error errno => pure (.error errno)
      | .ok (.script, arguments) => do
        pure (.ok (← Script.runInterpreter (execute depth) { p with arguments }))
      | .ok (utility, arguments) => do
        pure (.ok (.exited (← utility.run { p with arguments })))

end MiniShell.Host
