import MiniShell.Host.Utility.Basic

/-!
# Utilities that print

Words, the working directory, and files, which can be printed with line numbers and with marks for
bytes that cannot be seen.
-/

namespace MiniShell.Host

/-- The options in front of the words to print: whether the line stays open, whether escapes are
read, and the words. -/
def echoOptions (openLine escapes : Bool) : List Bytes → Bool × Bool × List Bytes
  | [] => (openLine, escapes, [])
  | word :: words =>
    match word with
    | 45 :: letter :: letters =>
      if (letter :: letters).all fun b => (utf8 "neE").contains b then
        let lastChoice := (letter :: letters).reverse.find? (· != byte 'n')
        echoOptions (openLine || (letter :: letters).contains (byte 'n'))
          ((lastChoice.map (· == byte 'e')).getD escapes) words
      else (openLine, escapes, word :: words)
    | _ => (openLine, escapes, word :: words)

/-- Prints its arguments. -/
def runEcho (p : Process) : StateM Machine Nat := do
  let (openLine, escapes, words) := echoOptions false false (p.arguments.drop 1)
  let text := joinWords words
  let (out, ended) := if escapes then unescape true text else (text, false)
  printAll p (if openLine || ended then out else out ++ [newline]) 0

/-- The absolute path in the environment, if it leads to the working directory without detours. -/
def namedWorkingDir? (m : Machine) (p : Process) : Option Path :=
  (p.environment.lookup (utf8 "PWD")).filter fun path =>
    path.head? = some slash && (components path).all (fun name => name != dot && name != dotDot) &&
      (m.find p.workingDir path).toOption = some p.workingDir

/-- Prints the working directory: its path without symbolic links, or the one in the environment if
the last option asks for that. -/
def runPrintDir (p : Process) : StateM Machine Nat :=
  withArguments p (.ofNames "LP" "" [named "logical" 'L', named "physical" 'P']) fun arguments => do
    let m ← get
    let asNamed := (arguments.options.getLast?).any (·.letter == byte 'L')
    if !arguments.operands.isEmpty then complain p (utf8 "ignoring non-option arguments")
    match if asNamed then namedWorkingDir? m p else none, m.pathOf p.workingDir with
    | some path, _ | none, some path => printAll p (path ++ [newline]) 0
    | none, none =>
      complain p (utf8 "couldn't find directory entry in '..' with matching i-node")
      pure 1

/-! ## Files -/

/-- How files are printed. -/
structure Layout where
  numbers : Bool
  /-- Empty lines get no number. -/
  numbersOnText : Bool
  squeeze : Bool
  showEnds : Bool
  showTabs : Bool
  showUnprintable : Bool

namespace Layout

def ofArguments (a : Arguments) : Layout where
  numbers := a.has 'n' || a.has 'b'
  numbersOnText := a.has 'b'
  squeeze := a.has 's'
  showEnds := a.has 'E' || a.has 'e' || a.has 'A'
  showTabs := a.has 'T' || a.has 't' || a.has 'A'
  showUnprintable := a.has 'v' || a.has 'e' || a.has 't' || a.has 'A'

/-- Whether files are printed as they are. -/
def isPlain (l : Layout) : Bool :=
  !(l.numbers || l.squeeze || l.showEnds || l.showTabs || l.showUnprintable)

/-- A byte of a line as it is printed. -/
def visible (l : Layout) (b : UInt8) : Bytes :=
  let lower := fun (b : UInt8) =>
    if b < 32 then [byte '^', b + 64] else if b = 127 then utf8 "^?" else [b]
  if b = byte '\t' then (if l.showTabs then utf8 "^I" else [b])
  else if !l.showUnprintable then [b]
  else if b < 128 then lower b
  else utf8 "M-" ++ lower (b - 128)

end Layout

/-- Where a text that is being printed has got to: the number of the last line that got one, and
the number of newlines since the last byte of text, if there was none since the start one more. -/
structure Progress where
  lines : Nat
  newlines : Nat

/-- A line number and the tab behind it. -/
def lineNumber (n : Nat) : Bytes :=
  let digits := utf8 (toString n)
  List.replicate (6 - digits.length) (byte ' ') ++ digits ++ [byte '\t']

/-- Prints the bytes of a file behind others. -/
def Layout.print (l : Layout) (s : Progress) : Bytes → Bytes × Progress
  | [] => ([], s)
  | b :: bytes =>
    let atStart := 0 < s.newlines
    let numbered := l.numbers && atStart && (b != newline || !l.numbersOnText)
    if b = newline && atStart && l.squeeze && 2 ≤ s.newlines then l.print s bytes
    else
      let s' : Progress :=
        ⟨if numbered then s.lines + 1 else s.lines, if b = newline then s.newlines + 1 else 0⟩
      let (more, last) := l.print s' bytes
      let start := if numbered then lineNumber s'.lines else []
      let shown :=
        if b = newline then (if l.showEnds then utf8 "$\n" else [newline])
        else if b = byte '\r' && l.showEnds && bytes.head? = some newline then utf8 "^M"
        else l.visible b
      (start ++ shown ++ more, last)

/-- Whether output goes to the regular file `number`, which is not empty. -/
def isOwnOutput (m : Machine) (p : Process) (number : Nat) : Bool :=
  match m.node? number with
  | some (.file _ content) =>
    ((p.openFile? standardOutput).bind (m.openFiles[·]?)).any (·.node == number) &&
      !content.isEmpty
  | _ => false

/-- Prints the rest of a descriptor. Answers with whether it could be read, or with none if there
is nowhere to print. -/
def copyOut (p : Process) (l : Layout) (s : Progress) (name : Bytes) (descriptor : Nat) :
    StateM Machine (Option Bool × Progress) := do
  match ← modifyGet (·.readAll p descriptor) with
  | .error errno => pure (some (← reportOn p (quotedIfOdd name) (.error errno)), s)
  | .ok bytes =>
    let (out, s) := if l.isPlain then (bytes, s) else l.print s bytes
    match ← modifyGet (·.write p standardOutput out) with
    | .error errno =>
      let _ ← reportOn p (utf8 "write error") (.error errno)
      pure (none, s)
    | .ok () => pure (some true, s)

/-- Prints one file; `-` is the standard input. -/
def printFile (p : Process) (l : Layout) (s : Progress) (name : Bytes) :
    StateM Machine (Option Bool × Progress) := do
  if name = [byte '-'] then copyOut p l s name 0
  else
    let m ← get
    match m.find p.workingDir name with
    | .error errno => pure (some (← reportOn p (quotedIfOdd name) (.error errno)), s)
    | .ok number =>
      if isOwnOutput m p number then
        complain p (quotedIfOdd name ++ utf8 ": input file is output file")
        pure (some false, s)
      else
        let (descriptor, p) ← modifyGet (·.openNode p number .read)
        copyOut p l s name descriptor

/-- Prints files one behind the other. -/
def printFiles (p : Process) (l : Layout) (s : Progress) (code : Nat) :
    List Bytes → StateM Machine Nat
  | [] => pure code
  | name :: names => do
    match ← printFile p l s name with
    | (none, _) => pure 1
    | (some good, s) => printFiles p l s (if good then code else 1) names

/-- Prints files one behind the other, or the standard input. -/
def runCat (p : Process) : StateM Machine Nat :=
  let table := OptionTable.ofNames "benstuvAET" ""
    [named "number-nonblank" 'b', named "number" 'n', named "squeeze-blank" 's',
      named "show-nonprinting" 'v', named "show-ends" 'E', named "show-tabs" 'T',
      named "show-all" 'A']
  withArguments p table fun arguments => do
    if (p.openFile? standardOutput).isNone then
      complain p (utf8 "standard output: Bad file descriptor")
      pure 1
    else
      let names := if arguments.operands.isEmpty then [[byte '-']] else arguments.operands
      let code ← printFiles p (.ofArguments arguments) ⟨0, 1⟩ 0 names
      if names.contains [byte '-'] ∧ (p.openFile? 0).isNone then
        complain p (utf8 "closing standard input: Bad file descriptor")
        pure 1
      else pure code

end MiniShell.Host
