import MiniShell.Host.Script.Builtin

/-!
# Running commands

Every command runs the commands inside of it with less of a bound than its own. What is left of the
bound cannot be told from the outside, unless it is used up.
-/

namespace MiniShell.Host.Script

open Run

/-- The bound on how deep commands may be nested, and on the rounds of a loop. -/
def maxSteps : Nat := 1000000

/-! ## Simple commands -/

/-- What the first field of a command stands for. -/
inductive Callee where
  | function (body : Command)
  | builtin (special : Bool) (run : List Bytes → Run Nat)
  | program

/-- What stands behind the command that says that what follows is no function. -/
def behindCommand? : List Bytes → Option (List Bytes)
  | [] => none
  | name :: rest =>
    if name ≠ utf8 "command" then none
    else
      let operands := if rest.head? = some (utf8 "-p") then rest.drop 1 else rest
      let operands := if operands.head? = some (utf8 "--") then operands.drop 1 else operands
      match operands with
      | [] | (45 :: _ :: _) :: _ => none
      | operands => some operands

/-- The fields without all such commands in front of them, and whether there was one. -/
def stripCommand : (count : Nat) → List Bytes → Bool × List Bytes
  | 0, fields => (false, fields)
  | count + 1, fields =>
    match behindCommand? fields with
    | none => (false, fields)
    | some fields => (true, (stripCommand count fields).2)

/-- The callee of a name. Functions do not count if `plain`, and no command is special then. -/
def callee (i : Interpreter) (tools : Tools) (mode : Mode) (plain : Bool) (name : Bytes) : Callee :=
  match if plain then none else i.functions.lookup name with
  | some body => .function body
  | none =>
    match builtin? tools mode name with
    | some run => .builtin (!plain && specialCommands.contains name) run
    | none => .program

namespace Tools

/-- The fields of the words of a command. Some commands take assignments, which are not cut. -/
def arguments (tools : Tools) (words : List Word) : Run (List Bytes) := do
  let takesAssignments := (words.head?.bind plainText?).any
    [utf8 "export", utf8 "readonly", utf8 "local"].contains
  let fields ← words.mapM fun word =>
    match if takesAssignments then assignment? word else none with
    | some (name, value) => do
      pure [name ++ byte '=' :: (← assignedText tools.capture value)]
    | none => Run.fields tools.capture word
  pure fields.flatten

/-- Runs a program. If nothing comes behind it, the process becomes the program. -/
def runProgram (tools : Tools) (mode : Mode) (name : Bytes) (arguments : List Bytes) :
    Run Unit := do
  let i ← get
  let m ← machine get
  let found : Except Errno Path :=
    if name.contains slash then .ok name else findProgram m i name
  match found with
  | .error errno =>
    Run.complain (refusal name errno)
    setStatus notFound
  | .ok _ =>
    match ← startProgram tools.execute name arguments with
    | .ok status =>
      if mode.last ∧ ¬ i.hasTraps then throw (.gone status)
      receive childEnded
      announce status
      setStatus (codeOf status)
    | .error errno =>
      Run.complain (refusal name errno)
      receive childEnded
      setStatus (refusalCode errno)

/-- A variable as it was before it became local. -/
def putBack (i : Interpreter) (v : Variable) : Interpreter :=
  if v.value.isNone && !v.exported && !v.readOnly then i.dropVariable v.name else i.putVariable v

/-- Makes the assignments of a command. Answers with what they look like when they are shown. If
they are to be taken back, the variables become local first. -/
def assignAll (tools : Tools) (isLocal : Bool) (assignments : List (Bytes × Word)) :
    Run (List Bytes) :=
  assignments.mapM fun (name, word) => do
    let value ← assignedText tools.capture word
    if isLocal then makeLocal name
    assign name value isLocal
    pure (name ++ byte '=' :: value)

/-- Runs an action, and puts back the variables that it makes local. -/
def withLocals (action : Run Unit) : Run Unit := do
  modify fun i => { i with locals := [] :: i.locals }
  let result ← attempt action
  modify fun i => { (i.locals.headD []).foldl putBack i with locals := i.locals.drop 1 }
  MonadExcept.ofExcept result

/-- Calls a function. -/
def call (tools : Tools) (mode : Mode) (body : Command) (arguments : List Bytes) : Run Unit := do
  let outer ← get
  set { outer with arguments, loops := 0, optionPlace := (1, []) }
  let result ← attempt (withLocals (tools.evaluate { mode with last := false } body))
  modify fun i => { i with
    arguments := outer.arguments
    loops := outer.loops
    optionPlace := outer.optionPlace }
  match result with
  | .ok () | .error .endCall => pure ()
  | .error leave => throw leave

/-- Shows a command before it is run, if that was asked for. -/
def trace (p : Process) (words : List Bytes) : Run Unit := do
  let i ← get
  if i.hasOption 'x' then
    let mark := (i.value? (utf8 "PS4")).getD []
    machine (say p standardError (mark ++ joinWords words ++ [newline]))

/-- Runs a simple command. Its redirections last only if it is there for nothing else. -/
def runSimple (tools : Tools) (mode : Mode) (line : Nat) (assignments : List (Bytes × Word))
    (words : List Word) (redirects : List Redirect) : Run Unit := do
  modify fun i => { i with line, outputStatus := 0 }
  let allFields ← tools.arguments words
  let (plain, fields) := stripCommand allFields.length allFields
  let openings ← redirects.mapM (opening tools.capture)
  let p ← ask (·.process)
  match fields with
  | [] =>
    let _ ← redirecting openings do
      let shown ← tools.assignAll false assignments
      trace p shown
      setStatus (← ask (·.outputStatus))
  | name :: arguments =>
    let callee := callee (← get) tools mode plain name
    let isSpecial := callee matches .builtin true _
    let descriptors ← keepingDescriptors openings do
      match ← attempt (applyAll true openings) with
      | .error (.mistake code) =>
        setStatus code
        if isSpecial then throw (.mistake code)
      | .error leave => throw leave
      | .ok () =>
        (if isSpecial then id else withLocals) do
          let shown ← tools.assignAll (!isSpecial) assignments
          trace p (shown ++ allFields)
          match callee with
          | .function body => tools.call mode body arguments
          | .builtin special run => runBuiltin special name (run arguments)
          | .program => tools.runProgram mode name arguments
      ask (·.process.descriptors)
    if name = utf8 "exec" ∧ arguments.isEmpty then
      modify fun i => { i with process := { i.process with descriptors } }

/-! ## Compound commands -/

/-- Runs commands with pipes between them, each in a process of its own. The first reads from the
node `input` if there is one. -/
def runPipeline (tools : Tools) (tested : Bool) (input : Option Nat) : List Command → Run Unit
  | [] => pure ()
  | command :: rest => do
    let output ← if rest.isEmpty then pure none
      else some <$> machine (modifyGet (·.addNode (.pipe [])))
    let status ← tools.inChild do
      input.forM fun node => openFor 0 node .read
      output.forM fun node => openFor 1 node .write
      tools.evaluate ⟨tested, true⟩ command
    announce status
    if rest.isEmpty then setStatus (codeOf status)
    tools.runPipeline tested output rest

/-- Runs a command in the background, with nothing to read. It is done before the script goes on. -/
def runInBackground (tools : Tools) (command : Command) : Run Unit := do
  let status ← tools.inChild do
    modify fun i => { i with process := i.process.drop 0 }
    apply false (.file 0 .input (utf8 "/dev/null"))
    tools.evaluate ⟨false, true⟩ command
  modify fun i => { i with
    background := (ownPid + 1 + i.background.length, status) :: i.background }
  setStatus 0

/-- Runs a command in a child process, or in this one if nothing comes behind it. -/
def runSubshell (tools : Tools) (mode : Mode) (line : Nat) (command : Command)
    (redirects : List Redirect) : Run Unit := do
  modify fun i => { i with line }
  let openings ← redirects.mapM (opening tools.capture)
  let inner := do
    applyAll false openings
    tools.evaluate { mode with last := true } command
  if mode.last ∧ ¬ (← get).hasTraps then
    inner
    throw (.exit (← ask (·.status)))
  else
    let status ← tools.inChild inner
    announce status
    setStatus (codeOf status)

/-- What happens to a loop when its body has been left. -/
def goOn (result : Except Leave Unit) : Run Bool :=
  match result with
  | .ok () | .error (.nextRound 1) => pure true
  | .error (.endLoops 1) => pure false
  | .error (.nextRound (count + 1)) => throw (.nextRound count)
  | .error (.endLoops (count + 1)) => throw (.endLoops count)
  | .error leave => throw leave

/-- Runs an action as a part of a loop. Answers with whether the loop goes on. -/
def inLoop (action : Run Unit) : Run Bool := do
  let result ← restoring (·.loops) (fun loops i => { i with loops }) do
    modify fun i => { i with loops := i.loops + 1 }
    attempt action
  goOn result

/-- Runs a body as long as a condition succeeds, or fails if `untilSuccess`. `status` is that of the
last round. -/
def runLoop (tools : Tools) (tested untilSuccess : Bool) (condition body : Command) :
    (rounds : Nat) → (status : Nat) → Run Unit
  | 0, status => setStatus status
  | rounds + 1, status => do
    if !(← inLoop (tools.evaluate ⟨true, false⟩ condition)) then pure ()
    else if ((← ask (·.status)) = 0) = untilSuccess then setStatus status
    else if ← inLoop (tools.evaluate ⟨tested, false⟩ body) then
      tools.runLoop tested untilSuccess condition body rounds (← ask (·.status))

/-- Runs a body with a variable set to each of some values. -/
def runForEach (tools : Tools) (tested : Bool) (name : Bytes) (body : Command) :
    List Bytes → Run Unit
  | [] => pure ()
  | value :: values => do
    assign name value false
    if ← inLoop (tools.evaluate ⟨tested, false⟩ body) then
      tools.runForEach tested name body values

/-- Whether one of some patterns fits a text. -/
def anyFits (tools : Tools) (text : Bytes) : List Word → Run Bool
  | [] => pure false
  | pattern :: patterns => do
    let atoms ← wordAtoms tools.capture false false (openTilde (← get) false pattern)
    if matchesText atoms text then pure true else tools.anyFits text patterns

/-- Runs the commands behind the first pattern that fits. -/
def runSelect (tools : Tools) (mode : Mode) (text : Bytes) :
    List (List Word × Command) → Run Unit
  | [] => setStatus 0
  | (patterns, body) :: cases => do
    if ← tools.anyFits text patterns then
      match body with
      | .skip => setStatus 0
      | body => tools.evaluate mode body
    else tools.runSelect mode text cases

/-- Runs a command. Answers with whether a failure is its own. That of a command inside of it has
been dealt with there. -/
def run (tools : Tools) (mode : Mode) : Command → Run Bool
  | .skip => pure false
  | .simple line assignments words redirects => do
    tools.runSimple mode line assignments words redirects
    pure true
  | .pipeline commands => do
    tools.runPipeline mode.tested none commands
    pure true
  | .subshell line command redirects => do
    tools.runSubshell mode line command redirects
    pure true
  | .redirected line command redirects => do
    modify fun i => { i with line }
    let openings ← redirects.mapM (opening tools.capture)
    pure !(← redirecting openings (tools.evaluate { mode with last := false } command))
  | .sequence first second => do
    tools.evaluate { mode with last := false } first
    tools.evaluate mode second
    pure false
  | .andThen first second => do
    tools.evaluate ⟨true, false⟩ first
    if (← ask (·.status)) = 0 then tools.evaluate mode second
    pure false
  | .orElse first second => do
    tools.evaluate ⟨true, false⟩ first
    if (← ask (·.status)) ≠ 0 then tools.evaluate mode second
    pure false
  | .negation command => do
    tools.evaluate ⟨true, false⟩ command
    setStatus (if (← ask (·.status)) = 0 then 1 else 0)
    pure false
  | .background command => do
    tools.runInBackground command
    pure false
  | .branch condition yes no => do
    tools.evaluate ⟨true, false⟩ condition
    match ← ask (·.status), no with
    | 0, _ => tools.evaluate mode yes
    | _, .skip => setStatus 0
    | _, no => tools.evaluate mode no
    pure false
  | .loop untilSuccess condition body => do
    tools.runLoop mode.tested untilSuccess condition body maxSteps 0
    pure false
  | .forEach line name words body => do
    modify fun i => { i with line }
    let values ← allFields tools.capture words
    if values.isEmpty then setStatus 0
    tools.runForEach mode.tested name body values
    pure false
  | .select line subject cases => do
    modify fun i => { i with line }
    tools.runSelect mode (← text tools.capture subject) cases
    pure false
  | .define name body => do
    modify fun i => { i with functions := (name, body) :: i.functions.filter (·.1 != name) }
    setStatus 0
    pure false

end Tools

/-- Runs a command, and traps before and behind it. A failure that nothing looks at ends the script
if that was asked for. -/
def evaluate (execute : Execute) : (steps : Nat) → Mode → Command → Run Unit
  | 0, _, _ => throw (.exit misuse)
  | steps + 1, mode, command => do
    let tools : Tools := ⟨execute, evaluate execute steps⟩
    tools.runTraps
    let own ← tools.run mode command
    tools.runTraps
    let i ← get
    if own ∧ ¬ mode.tested ∧ i.status ≠ 0 ∧ i.hasOption 'e' then throw (.exit i.status)

end MiniShell.Host.Script
