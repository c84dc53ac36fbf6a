import MiniShell.Host.Script.Interpreter

/-!
# Options of the commands of the interpreter

The commands that the interpreter runs itself take options of one letter. The options of the
interpreter have a letter each, too, and most have a name.
-/

namespace MiniShell.Host.Script

namespace Run

/-- Reads the letters of one argument. Answers with the letters and what each was given, and with
the arguments that are left. -/
def lettersOf (letters withValue : Bytes) (rest : List Bytes) :
    Bytes → Run (List (UInt8 × Bytes) × List Bytes)
  | [] => pure ([], rest)
  | letter :: text => do
    if withValue.contains letter then
      match text, rest with
      | [], [] => fail (utf8 "No arg for -" ++ [letter] ++ utf8 " option")
      | [], value :: rest => pure ([(letter, value)], rest)
      | value, rest => pure ([(letter, value)], rest)
    else if letters.contains letter then
      let (options, rest) ← lettersOf letters withValue rest text
      pure ((letter, []) :: options, rest)
    else fail (utf8 "Illegal option -" ++ [letter])

/-- Reads the options at the start of arguments. -/
def options (letters withValue : Bytes) :
    (count : Nat) → List Bytes → Run (List (UInt8 × Bytes) × List Bytes)
  | count + 1, (45 :: letter :: text) :: rest => do
    if letter = byte '-' ∧ text.isEmpty then pure ([], rest)
    else
      let (first, rest) ← lettersOf letters withValue rest (letter :: text)
      let (others, rest) ← options letters withValue count rest
      pure (first ++ others, rest)
  | _, arguments => pure ([], arguments)

/-- Runs an action with the options, each with its value, and the other arguments. -/
def withOptions {α : Type} (letters withValue : String) (arguments : List Bytes)
    (action : List (UInt8 × Bytes) → List Bytes → Run α) : Run α := do
  let (options, operands) ← options (utf8 letters) (utf8 withValue) arguments.length arguments
  action options operands

/-! ## Options of the interpreter -/

/-- The letters of the options that have one, in the order in which they are shown. -/
def optionLetters : Bytes := utf8 "pubaCEVvxsnmiIfe"

/-- The names of the options. Some do nothing and have no letter. -/
def optionNames : List (Bytes × Option UInt8) :=
  [("errexit", some 'e'), ("noglob", some 'f'), ("ignoreeof", some 'I'), ("interactive", some 'i'),
    ("monitor", some 'm'), ("noexec", some 'n'), ("stdin", some 's'), ("xtrace", some 'x'),
    ("verbose", some 'v'), ("vi", some 'V'), ("emacs", some 'E'), ("noclobber", some 'C'),
    ("allexport", some 'a'), ("notify", some 'b'), ("nounset", some 'u'),
    ("privileged", some 'p'), ("nolog", none), ("debug", none)].map
    fun (name, letter) => (utf8 name, letter.map byte)

/-- Turns the option of a letter on or off. -/
def setOption (on : Bool) (letter : UInt8) : Run Unit := do
  if !optionLetters.contains letter then fail (utf8 "Illegal option -" ++ [letter])
  modify fun i => { i with
    options := optionLetters.filter fun l => if l == letter then on else i.options.contains l }

/-- Prints which options are on, for people or as commands. On start those that have not been turned
off are. -/
def printOptions (onStart asCommands : Bool) : Run Unit := do
  let i ← get
  let isOn := fun (letter : Option UInt8) => onStart || letter.any i.options.contains
  if !asCommands then printLine (utf8 "Current option settings")
  for (name, letter) in optionNames do
    if asCommands then
      printLine (utf8 "set " ++ [if isOn letter then byte '-' else byte '+'] ++ utf8 "o " ++ name)
    else
      printLine (name ++ List.replicate (16 - name.length) (byte ' ') ++
        utf8 (if isOn letter then "on" else "off"))

/-- Turns options on or off as the letters of one argument say. Answers with whether a letter asked
for a command in the next argument, and with the arguments that are left. -/
def setLetters (onStart on : Bool) (rest : List Bytes) : Bytes → Run (Bool × List Bytes)
  | [] => pure (false, rest)
  | letter :: text => do
    if letter = byte 'c' ∧ onStart then
      let (_, rest) ← setLetters onStart on rest text
      pure (true, rest)
    else if letter = byte 'l' ∧ onStart then setLetters onStart on rest text
    else if letter = byte 'o' then
      match rest with
      | [] =>
        printOptions onStart !on
        setLetters onStart on [] text
      | name :: rest =>
        match optionNames.lookup name with
        | some letter =>
          letter.forM (setOption on)
          setLetters onStart on rest text
        | none => fail (utf8 "Illegal option -o " ++ name)
    else
      setOption on letter
      setLetters onStart on rest text

/-- How arguments go on behind the options of the interpreter. -/
structure Remainder where
  /-- The first of them is a command. -/
  command : Bool
  /-- The options were ended on purpose. -/
  ended : Bool
  arguments : List Bytes

/-- Turns options on or off as the arguments say, up to the first that is no option. -/
def setOptions (onStart : Bool) (command : Bool) : (count : Nat) → List Bytes → Run Remainder
  | count + 1, (sign :: text) :: rest => do
    if sign = byte '-' ∧ text.isEmpty then
      if !onStart then
        setOption false (byte 'x')
        setOption false (byte 'v')
      pure ⟨command, false, rest⟩
    else if sign = byte '-' ∧ text = [byte '-'] then pure ⟨command, true, rest⟩
    else if sign = byte '-' ∨ sign = byte '+' then
      let (found, rest) ← setLetters onStart (sign = byte '-') rest text
      setOptions onStart (command || found) count rest
    else pure ⟨command, false, (sign :: text) :: rest⟩
  | _, arguments => pure ⟨command, false, arguments⟩

end Run

end MiniShell.Host.Script
