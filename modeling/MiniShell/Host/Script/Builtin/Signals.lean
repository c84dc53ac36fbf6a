import MiniShell.Host.Script.Builtin.Output

/-!
# Commands for signals
-/

namespace MiniShell.Host.Script.Builtin

open Run

/-- The names of the first signals, which start at 1. -/
def signalNames : List Bytes :=
  ["HUP", "INT", "QUIT", "ILL", "TRAP", "ABRT", "BUS", "FPE", "KILL", "USR1", "SEGV", "USR2",
    "PIPE", "ALRM", "TERM", "STKFLT", "CHLD", "CONT", "STOP", "TSTP", "TTIN", "TTOU", "URG",
    "XCPU", "XFSZ", "VTALRM", "PROF", "WINCH", "IO", "PWR", "SYS"].map utf8

/-- The name of a signal. Signals without a name go by their number; 0 is the end of the script. -/
def signalName (signal : Nat) : Bytes :=
  if signal = 0 then utf8 "EXIT"
  else
    match signalNames[signal - 1]? with
    | some name => name
    | none =>
      if signal < firstFreeSignal then decimal signal
      else if signal = firstFreeSignal then utf8 "RTMIN"
      else if signal = lastSignal then utf8 "RTMAX"
      else if signal < 50 then utf8 "RTMIN+" ++ decimal (signal - firstFreeSignal)
      else utf8 "RTMAX-" ++ decimal (lastSignal - signal)

def toUpper (b : UInt8) : UInt8 := if byte 'a' ≤ b ∧ b ≤ byte 'z' then b - 32 else b

/-- The signal with a number or a name, from `first` on. -/
def signal? (first : Nat) (text : Bytes) : Option Nat :=
  match (decimal? text).filter (· ≤ lastSignal) with
  | some number => some number
  | none =>
    ((List.range (lastSignal + 1)).drop first).find? fun signal =>
      (signalName signal).map toUpper == text.map toUpper

/-- Complains that the arguments make no sense. -/
def killUsage {α : Type} : Run α :=
  fail (utf8
    "Usage: kill [-s sigspec | -signum | -sigspec] [pid | job]... or\nkill -l [exitstatus]")

/-- Prints the names of all signals, or of one that may be given as an exit code. -/
def listSignals : List Bytes → Run Nat
  | [] => do
    printLine [byte '0']
    for signal in (List.range lastSignal).map (· + 1) do printLine (signalName signal)
    pure 0
  | argument :: _ => do
    let number ← numberIn argument
    let signal := if 128 < number then number - 128 else number
    if signal = 0 ∨ lastSignal < signal then
      fail (utf8 "invalid signal number or exit status: " ++ argument)
    printLine (signalName signal)
    pure 0

/-- Sends a signal to processes. None but the own one is within reach. -/
def sendSignal (signal : Nat) : List Bytes → Run Nat
  | [] => pure 0
  | target :: targets => do
    if target.head? = some (byte '%') then fail (utf8 "No such job: " ++ target)
    let isGroup := target.head? = some (byte '-')
    let number ← numberIn (if isGroup then target.drop 1 else target)
    let reached := number = ownPid ∧ ¬ isGroup
    if reached then
      if signal ≠ 0 then raise signal
    else Run.complain (utf8 "No such process\n")
    let code ← sendSignal signal targets
    pure (if reached then code else 1)

/-- Sends a signal, or tells the names of signals. -/
def kill (arguments : List Bytes) : Run Nat := do
  let send := fun (signal : Nat) (targets : List Bytes) =>
    if targets.isEmpty then killUsage else sendSignal signal targets
  match arguments with
  | [] => killUsage
  | (45 :: text) :: targets =>
    match signal? 1 text with
    | some signal => send signal targets
    | none =>
      withOptions "l" "s" arguments fun options targets => do
        let signals ← options.filterMapM fun (letter, name) =>
          if letter = byte 's' then
            match signal? 1 name with
            | some signal => pure (some signal)
            | none => fail (utf8 "invalid signal number or name: " ++ name)
          else pure none
        if !options.any (·.1 == byte 'l') then send (signals.getLast?.getD terminate) targets
        else if signals.isEmpty then listSignals targets
        else killUsage
  | targets => send terminate targets

/-- The traps with another action for a signal. -/
def setTrap (action : Option Bytes) (signal : Nat) (traps : List (Nat × Bytes)) :
    List (Nat × Bytes) :=
  let others := traps.filter (·.1 != signal)
  match action with
  | none => others
  | some action => (signal, action) :: others

/-- Sets what is run when signals come, up to the first that is no signal. -/
def setTraps (action : Option Bytes) : List Bytes → Run Nat
  | [] => pure 0
  | name :: names => do
    match signal? 0 name with
    | none =>
      let p ← ask (·.process)
      machine (say p standardError (utf8 "trap: " ++ name ++ utf8 ": bad trap\n"))
      pure 1
    | some signal =>
      modify fun i => { i with traps := setTrap action signal i.traps }
      setTraps action names

/-- Sets what is run when signals come, or prints it. -/
def trap (arguments : List Bytes) : Run Nat :=
  withOptions "" "" arguments fun _ operands => do
    match operands with
    | [] =>
      for (signal, action) in (← get).traps.mergeSort fun a b => a.1 ≤ b.1 do
        printLine (utf8 "trap -- " ++ requoted action ++ byte ' ' :: signalName signal)
      pure 0
    | [name] => setTraps none [name]
    | first :: names =>
      if ((decimal? first).filter (· ≤ lastSignal)).isSome then setTraps none operands
      else setTraps (if first = [byte '-'] then none else some first) names

end MiniShell.Host.Script.Builtin
