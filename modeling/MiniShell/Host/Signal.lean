import MiniShell.Bytes

/-!
# Signals

Signals have numbers from 1 on. The first 31 have names of their own, and what they do to a
process that does not care differs: most end it, some stop it, and a few do nothing.
-/

namespace MiniShell.Host

/-- The signal of a user who wants to end a program. -/
def interrupt : Nat := 2

/-- The signal for a write that nobody will read. -/
def brokenPipe : Nat := 13

/-- The signal that asks a process to end. -/
def terminate : Nat := 15

/-- The signal for the end of a child. -/
def childEnded : Nat := 17

/-- The greatest number of a signal with a name of its own. -/
def lastNamedSignal : Nat := 31

/-- The greatest number of a signal. -/
def lastSignal : Nat := 64

/-- The first of the signals that programs may use as they like. -/
def firstFreeSignal : Nat := 34

/-- What the signals with a name are for, from 1 on. -/
def purposes : List String :=
  ["Hangup", "Interrupt", "Quit", "Illegal instruction", "Trace/breakpoint trap", "Aborted",
    "Bus error", "Floating point exception", "Killed", "User defined signal 1",
    "Segmentation fault", "User defined signal 2", "Broken pipe", "Alarm clock", "Terminated",
    "Stack fault", "Child exited", "Continued", "Stopped (signal)", "Stopped",
    "Stopped (tty input)", "Stopped (tty output)", "Urgent I/O condition",
    "CPU time limit exceeded", "File size limit exceeded", "Virtual timer expired",
    "Profiling timer expired", "Window changed", "I/O possible", "Power failure", "Bad system call"]

/-- What a signal is for. -/
def purpose (signal : Nat) : String :=
  match purposes[signal - 1]? with
  | some purpose => purpose
  | none =>
    if signal < firstFreeSignal then "Unknown signal " ++ toString signal
    else "Real-time signal " ++ toString (signal - firstFreeSignal)

/-- Signals that do nothing unless a process asks for them. -/
def harmless : List Nat := [17, 18, 23, 28]

/-- Signals that stop a process and do not end it. -/
def stopping : List Nat := [19, 20, 21, 22]

/-- Signals that a process can neither ignore nor care for. -/
def uncatchable : List Nat := [9, 19]

/-- Whether a signal ends a process that ignores the signals `ignored`. -/
def endsProcess (ignored : List Nat) (signal : Nat) : Bool :=
  signal != 0 && !(ignored ++ harmless ++ stopping).contains signal

end MiniShell.Host
