import MiniShell.Host.Script.Arithmetic
import MiniShell.Host.Script.Field
import MiniShell.Host.Utility

/-!
# The state of a script

What an interpreter of scripts knows between two commands, how it looks up and sets variables, and
how a part of a script is left before its end.
-/

namespace MiniShell.Host.Script

/-- A variable. It can be known without having a value. -/
structure Variable where
  name : Bytes
  value : Option Bytes
  exported : Bool
  readOnly : Bool
  deriving DecidableEq, Repr

/-- What is known of the place where a command runs. -/
structure Mode where
  /-- Something looks at whether the command fails, so that a failure does not end the script. -/
  tested : Bool
  /-- Nothing comes behind the command, so that the process itself may become the program. -/
  last : Bool
  deriving DecidableEq, Repr

/-- A command that others come behind. -/
def Mode.inner : Mode := ⟨false, false⟩

/-- How a part of a script is left before its end. -/
inductive Leave where
  /-- The script ends. -/
  | exit (code : Nat)
  /-- The process is no more: a signal ended it, or it became a program that has ended. -/
  | gone (status : Status)
  /-- A mistake, which ends the script unless the command that made it may fail. -/
  | mistake (code : Nat)
  | endCall
  | endLoops (count : Nat)
  | nextRound (count : Nat)
  deriving DecidableEq, Repr

/-- The state of a script. -/
structure Interpreter where
  process : Process
  name : Bytes
  arguments : List Bytes
  /-- The path of the working directory as the script went there. -/
  directory : Option Path
  bindings : List Variable
  functions : List (Bytes × Command)
  documents : List (Nat × Word)
  nextDocument : Nat
  /-- The exit code of the last command. -/
  status : Nat
  /-- The exit code of the last command whose output became part of a word. -/
  outputStatus : Nat
  /-- The letters of the options that are on. -/
  options : Bytes
  /-- What is run when a signal comes; signal 0 is the end of the script. -/
  traps : List (Nat × Bytes)
  /-- Signals that have come and whose traps have not been run. -/
  caught : List Nat
  /-- Signals for the interpreter that this one is a child of, if it is one. -/
  passedOn : Option (List Nat)
  /-- The exit code from before the trap that runs. -/
  statusBeforeTrap : Option Nat
  /-- The line of the command that runs. -/
  line : Nat
  /-- The command of the interpreter that runs. -/
  doing : Option Bytes
  loops : Nat
  /-- For each command with variables of its own, those variables as they were before. -/
  locals : List (List Variable)
  /-- The next argument that options are read from, counted from 1, and the letters left of the one
  before it. -/
  optionPlace : Nat × Bytes
  /-- The processes that were run in the background, the last one first, and how they ended. -/
  background : List (Nat × Status)
  /-- What a command of the interpreter has printed so far. -/
  printed : Bytes

/-- A part of the run of a script. -/
abbrev Run := ExceptT Leave (StateT Interpreter (StateM Machine))

/-- Every process goes by this number as far as it can tell. -/
def ownPid : Nat := 4711

/-- The exit code of a script that is not understood. -/
def misuse : Nat := 2

/-- The exit code of a program that cannot be run. -/
def cannotRun : Nat := 126

/-- The exit code of a program that is not there. -/
def notFound : Nat := 127

/-- The exit code that stands for the way a program ended. -/
def codeOf : Status → Nat
  | .exited code => code
  | .signaled signal => 128 + signal

namespace Run

/-- An action on the machine. -/
def machine {α : Type} (action : StateM Machine α) : Run α :=
  ExceptT.lift (StateT.lift action)

def ask {α : Type} (question : Interpreter → α) : Run α := do pure (question (← get))

/-- Writes a message of the interpreter. -/
def complain (message : Bytes) : Run Unit := do
  let i ← get
  let doing := (i.doing.map (· ++ utf8 ": ")).getD []
  machine (say i.process standardError
    (i.name ++ utf8 ": " ++ decimal i.line ++ utf8 ": " ++ doing ++ message ++ [newline]))

/-- Makes a mistake. -/
def fail {α : Type} (message : Bytes) : Run α := do
  complain message
  throw (.mistake misuse)

def setStatus (status : Nat) : Run Unit := modify fun i => { i with status }

/-- Runs an action whose errors are caught. -/
def attempt {α : Type} (action : Run α) : Run (Except Leave α) := fun s => do
  let (result, s) ← action s
  pure (.ok result, s)

end Run

namespace Interpreter

def binding? (i : Interpreter) (name : Bytes) : Option Variable :=
  i.bindings.find? (·.name == name)

/-- The value of a variable. -/
def value? (i : Interpreter) (name : Bytes) : Option Bytes := (i.binding? name).bind (·.value)

/-- The interpreter with a variable replaced. -/
def putVariable (i : Interpreter) (v : Variable) : Interpreter :=
  if (i.binding? v.name).isSome then
    { i with bindings := i.bindings.map fun old => if old.name == v.name then v else old }
  else { i with bindings := i.bindings ++ [v] }

/-- The interpreter without a variable. -/
def dropVariable (i : Interpreter) (name : Bytes) : Interpreter :=
  { i with bindings := i.bindings.filter (·.name != name) }

/-- The characters that separate fields. -/
def separators (i : Interpreter) : Bytes := (i.value? (utf8 "IFS")).getD (utf8 " \t\n")

def hasOption (i : Interpreter) (letter : Char) : Bool := i.options.contains (byte letter)

/-- The value of a parameter, if it has one. -/
def parameter? (i : Interpreter) : Parameter → Option Bytes
  | .position 0 => some i.name
  | .position (index + 1) => i.arguments[index]?
  | .count => some (decimal i.arguments.length)
  | .each | .joined => some ((i.separators.take 1).intercalate i.arguments)
  | .status => some (decimal i.status)
  | .ownPid => some (decimal ownPid)
  | .lastBackground => (i.background.head?).map fun (pid, _) => decimal pid
  | .options => some i.options
  | .variable name => i.value? name

/-- The names and values that programs get. -/
def environment (i : Interpreter) : List (Bytes × Bytes) :=
  i.bindings.filterMap fun v => if v.exported then v.value.map ((v.name, ·)) else none

/-- The text of a document. -/
def document (i : Interpreter) (number : Nat) : Word := (i.documents.lookup number).getD []

/-- The process in which a program is run. Signals with an empty trap are ignored there too. -/
def programProcess (i : Interpreter) : Process :=
  let silenced := i.traps.filter fun (signal, action) =>
    signal != 0 && !uncatchable.contains signal && action.isEmpty
  { i.process with
    environment := i.environment
    ignored := i.process.ignored ++ silenced.map Prod.fst }

/-- Whether something is to be run when a signal comes. -/
def hasTraps (i : Interpreter) : Bool := i.traps.any fun (_, action) => !action.isEmpty

/-- The interpreter as it starts in a child process: what the parent wants to be run when a signal
comes does not concern it. -/
def child (i : Interpreter) : Interpreter :=
  { i with
    traps := i.traps.filter (·.2.isEmpty)
    caught := []
    passedOn := some []
    printed := [] }

end Interpreter

namespace Run

/-- Refuses to change a variable that has to keep its value. -/
def checkWritable (name : Bytes) : Run Unit := do
  if !isName name then fail (name ++ utf8 ": bad variable name")
  if ((← get).binding? name).any (·.readOnly) then fail (name ++ utf8 ": is read only")

/-- Gives a value to a variable. -/
def assign (name value : Bytes) (exported : Bool) : Run Unit := do
  checkWritable name
  let i ← get
  let old := (i.binding? name).getD ⟨name, none, false, false⟩
  let i := i.putVariable { old with
    value := some value
    exported := old.exported || exported || i.hasOption 'a' }
  set (if name = utf8 "OPTIND" then { i with optionPlace := ((decimal? value).getD 1, []) } else i)

/-- Makes a variable local to the innermost command that has variables of its own. -/
def makeLocal (name : Bytes) : Run Unit :=
  modify fun i =>
    let old := (i.binding? name).getD ⟨name, none, false, false⟩
    match i.locals with
    | [] => i
    | frame :: frames => { i with locals := (old :: frame) :: frames }

/-- The number that a variable holds. One without a value counts as zero. -/
def numberOf (name : Bytes) : Run Int := do
  let text := ((← get).value? name).getD []
  match integer? text with
  | some n => pure n
  | none => fail (utf8 "Illegal number: " ++ text)

/-- The decimal digits of a whole number, behind a sign if it is negative. -/
def decimalInt (n : Int) : Bytes := utf8 (toString n)

/-- The value of an arithmetic expression. -/
def arithmetic (text : Bytes) : Run Int := do
  (Expression.ofText text).evaluate
    { get := numberOf
      assign := fun name n => assign name (decimalInt n) false
      fail := fun problem =>
        fail (utf8 "arithmetic expression: " ++ utf8 problem ++ utf8 ": \"" ++ text ++ utf8 "\"") }
    true

/-- Prints something once the command of the interpreter that runs is done. -/
def print (text : Bytes) : Run Unit := modify fun i => { i with printed := i.printed ++ text }

def printLine (text : Bytes) : Run Unit := print (text ++ [newline])

/-- The number that an argument writes, which is not negative and fits into 32 bits. -/
def numberIn (argument : Bytes) : Run Nat := do
  let isBlank := fun (b : UInt8) => b == byte ' ' || (9 ≤ b && b ≤ 13)
  let text := ((argument.dropWhile isBlank).reverse.dropWhile isBlank).reverse
  match decimal? (if text.head? = some (byte '+') then text.drop 1 else text) with
  | some n => if n ≤ 2147483647 then pure n else fail (utf8 "Illegal number: " ++ argument)
  | none => fail (utf8 "Illegal number: " ++ argument)

/-- Lets a signal come to the interpreter. -/
def receive (signal : Nat) : Run Unit := do
  let i ← get
  if !i.process.ignored.contains signal then
    match if uncatchable.contains signal then none else i.traps.lookup signal with
    | some [] => pure ()
    | some _ => set { i with caught := i.caught ++ [signal] }
    | none => if endsProcess [] signal then throw (.gone (.signaled signal))

/-- Sends a signal to the process that a script takes for its own. -/
def raise (signal : Nat) : Run Unit := do
  let i ← get
  match i.passedOn with
  | some signals => set { i with passedOn := some (signals ++ [signal]) }
  | none => receive signal

/-- Runs an action with a value that is put back when it is over, however it is left. -/
def restoring {α β : Type} (read : Interpreter → β) (write : β → Interpreter → Interpreter)
    (action : Run α) : Run α := do
  let old ← ask read
  let result ← attempt action
  modify (write old)
  MonadExcept.ofExcept result

/-- Tells which signal ended a child, unless it is one that says enough by itself. -/
def announce (status : Status) : Run Unit := do
  match status with
  | .exited _ => pure ()
  | .signaled signal =>
    if signal ≠ interrupt ∧ signal ≠ brokenPipe then
      machine (say (← get).process standardError (utf8 (purpose signal) ++ [newline]))

/-- Runs an action in a child process. Answers with the way it ended. -/
def inChild (ending : Run Unit → Run Status) (action : Run Unit) : Run Status := do
  let i ← get
  set i.child
  let status ← ending action
  let signals := ((← get).passedOn).getD []
  set i
  receive childEnded
  for signal in signals do
    match i.passedOn with
    | some _ => raise signal
    | none => receive signal
  pure status

end Run

end MiniShell.Host.Script
