import MiniShell.Host.Script.Builtin.Output
import MiniShell.Host.Script.Field

/-!
# Commands for variables and arguments
-/

namespace MiniShell.Host.Script.Builtin

open Run

/-- A name, and the value behind the equality sign if there is one. -/
def nameAndValue (text : Bytes) : Bytes × Option Bytes :=
  let name := text.takeWhile (· != byte '=')
  (name, if name.length = text.length then none else some (text.drop (name.length + 1)))

/-- Gives variables a property, with the values that come along. -/
def mark (property : Variable → Variable) (arguments : List Bytes) : Run Nat := do
  for argument in arguments do
    let (name, value) := nameAndValue argument
    match value, (← get).binding? name with
    | none, some v => modify (·.putVariable (property v))
    | none, none =>
      checkWritable name
      modify (·.putVariable (property ⟨name, none, false, false⟩))
    | some value, _ =>
      assign name value false
      modify fun i => (i.binding? name).elim i fun v => i.putVariable (property v)
  pure 0

/-- Hands variables on to programs, or prints those that are. -/
def exportVariables (arguments : List Bytes) : Run Nat :=
  withOptions "p" "" arguments fun options operands => do
    if !options.isEmpty ∨ operands.isEmpty then
      printVariables (utf8 "export") (·.exported)
      pure 0
    else mark (fun v => { v with exported := true }) operands

/-- Makes variables keep their values, or prints those that do. -/
def freezeVariables (arguments : List Bytes) : Run Nat :=
  withOptions "p" "" arguments fun options operands => do
    if !options.isEmpty ∨ operands.isEmpty then
      printVariables (utf8 "readonly") (·.readOnly)
      pure 0
    else mark (fun v => { v with readOnly := true }) operands

/-- Forgets variables or functions. -/
def forget (arguments : List Bytes) : Run Nat :=
  withOptions "vf" "" arguments fun options operands => do
    for name in operands do
      if options.getLast?.any (·.1 == byte 'f') then
        modify fun i => { i with functions := i.functions.filter (·.1 != name) }
      else
        checkWritable name
        modify (·.dropVariable name)
    pure 0

/-- Makes variables local to the function that runs. -/
def declareLocal (arguments : List Bytes) : Run Nat := do
  if (← get).locals.isEmpty then fail (utf8 "not in a function")
  for argument in arguments do
    let (name, value) := nameAndValue argument
    if !isName name then fail (name ++ utf8 ": bad variable name")
    makeLocal name
    value.forM fun value => assign name value false
  pure 0

/-- Sets options and arguments, or prints all variables. -/
def setParameters (arguments : List Bytes) : Run Nat := do
  if arguments.isEmpty then printVariables [] (·.value.isSome)
  else
    let remainder ← setOptions false false arguments.length arguments
    if remainder.ended ∨ !remainder.arguments.isEmpty then
      modify fun i => { i with arguments := remainder.arguments, optionPlace := (1, []) }
  pure 0

/-- Drops arguments of the script. -/
def shift (arguments : List Bytes) : Run Nat := do
  let count ← (arguments.head?.map numberIn).getD (pure 1)
  let i ← get
  if i.arguments.length < count then fail (utf8 "can't shift that many")
  set { i with arguments := i.arguments.drop count }
  pure 0

/-! ## Options of scripts -/

/-- The next option among arguments: what its variable and the variable for its value become, what
is said about it, the place for the one after it, and whether it was the last. -/
structure NextOption where
  found : Bytes
  value : Option Bytes
  message : Option Bytes
  place : Nat × Bytes
  done : Bool

/-- Reads an option whose letters are at hand, the next argument being number `next`. -/
def nextLetter (known : Bytes) (arguments : List Bytes) (next : Nat) (letter : UInt8)
    (letters : Bytes) : NextOption :=
  let silent := known.head? = some (byte ':')
  let isKnown := letter != byte ':' && known.contains letter
  let wantsValue := ((known.dropWhile (· != letter)).drop 1).head? = some (byte ':')
  let refuse := fun (found : Char) (message : Bytes) (place : Nat × Bytes) =>
    if silent then (⟨[byte found], some [letter], none, place, false⟩ : NextOption)
    else ⟨[byte '?'], none, some message, place, false⟩
  if !isKnown then refuse '?' (utf8 "Illegal option -" ++ [letter]) (next, letters)
  else if !wantsValue then ⟨[letter], some [], none, (next, letters), false⟩
  else
    match letters, arguments[next - 1]? with
    | [], none => refuse ':' (utf8 "No arg for -" ++ letter :: utf8 " option") (next, [])
    | [], some value => ⟨[letter], some value, none, (next + 1, []), false⟩
    | value, _ => ⟨[letter], some value, none, (next, []), false⟩

/-- Reads the next option. -/
def nextOption (known : Bytes) (arguments : List Bytes) : Nat × Bytes → NextOption
  | (next, letter :: letters) => nextLetter known arguments next letter letters
  | (next, []) =>
    match arguments[next - 1]? with
    | some [45, 45] => ⟨[byte '?'], none, none, (next + 1, []), true⟩
    | some (45 :: letter :: letters) => nextLetter known arguments (next + 1) letter letters
    | _ => ⟨[byte '?'], none, none, (next, []), true⟩

/-- Reads the next option of the script, or of other arguments. -/
def readOption : List Bytes → Run Nat
  | known :: name :: others => do
    let i ← get
    let arguments := if others.isEmpty then i.arguments else others
    let place := if arguments.length + 1 < i.optionPlace.1 then (1, []) else i.optionPlace
    let option := nextOption known arguments place
    option.message.forM fun message => machine (say i.process standardError (message ++ [newline]))
    match option.value with
    | some value => assign (utf8 "OPTARG") value false
    | none => if !option.done then modify (·.dropVariable (utf8 "OPTARG"))
    assign (utf8 "OPTIND") (decimal option.place.1) false
    assign name option.found false
    modify fun i => { i with optionPlace := option.place }
    pure (if option.done then 1 else 0)
  | _ => fail (utf8 "Usage: getopts optstring var [arg...]")

/-! ## Input -/

/-- Reads a line from the standard input, byte by byte. A backslash takes the meaning of the byte
behind it away, unless `raw`. Answers also with whether the line had an end. -/
def inputLine (raw : Bool) : (steps : Nat) → Run (List Atom × Bool)
  | 0 => pure ([], false)
  | steps + 1 => do
    match ← nextByte with
    | none => pure ([], false)
    | some b =>
      if b = newline then pure ([], true)
      else if b = byte '\\' ∧ ¬ raw then
        match ← nextByte with
        | none => pure ([], false)
        | some b => if b = newline then inputLine raw steps else more (.literal b) steps
      else if b = 0 then inputLine raw steps
      else more (.value b) steps
where
  /-- The next byte of the standard input. -/
  nextByte : Run (Option UInt8) := do
    let p ← ask (·.process)
    match ← machine (modifyGet (·.read p 0 1)) with
    | .ok [b] => pure (some b)
    | _ => pure none
  /-- The line behind an atom. -/
  more (atom : Atom) (steps : Nat) : Run (List Atom × Bool) := do
    let (atoms, ended) ← inputLine raw steps
    pure (atom :: atoms, ended)

/-- The line without blanks at its end. -/
def dropBlanks (separators : Bytes) (atoms : List Atom) : List Atom :=
  (atoms.reverse.dropWhile fun a => (a.separator? separators).any isBlankSeparator).reverse

/-- The first field of a line, and the line behind the separator that ends it. -/
def takeField (separators : Bytes) (atoms : List Atom) : List Atom × List Atom :=
  let isBlank := fun (a : Atom) => (a.separator? separators).any isBlankSeparator
  let field := atoms.takeWhile fun a => (a.separator? separators).isNone
  let rest := (atoms.drop field.length).dropWhile isBlank
  let rest :=
    match rest with
    | a :: others =>
      if (a.separator? separators).isSome then others.dropWhile isBlank else rest
    | [] => []
  (field, rest)

/-- What is left of a line for the last variable: a separator at its end counts only behind the
second field. -/
def lastField (separators : Bytes) (atoms : List Atom) : List Atom :=
  let atoms := dropBlanks separators atoms
  let (field, rest) := takeField separators atoms
  if rest.isEmpty then field else atoms

/-- Distributes a line over variables. -/
def distribute (separators : Bytes) : List Bytes → List Atom → Run Unit
  | [], _ => pure ()
  | [name], atoms => assign name (textOf (lastField separators atoms)) false
  | name :: names, atoms => do
    let (field, rest) := takeField separators atoms
    assign name (textOf field) false
    distribute separators names rest

/-- The greatest length of a line that is read into variables. -/
def maxInputLine : Nat := 100000

/-- Reads a line into variables. -/
def readInput (arguments : List Bytes) : Run Nat :=
  withOptions "r" "p" arguments fun options names => do
    if names.isEmpty then fail (utf8 "arg count")
    let (atoms, ended) ← inputLine (options.any (·.1 == byte 'r')) maxInputLine
    let separators := (← get).separators
    let isBlank := fun (a : Atom) => (a.separator? separators).any isBlankSeparator
    distribute separators names (atoms.dropWhile isBlank)
    pure (if ended then 0 else 1)

end MiniShell.Host.Script.Builtin
