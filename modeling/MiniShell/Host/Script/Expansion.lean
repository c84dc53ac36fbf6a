import MiniShell.Host.Script.Field
import MiniShell.Host.Script.Interpreter

/-!
# Putting values into words

Parameters, the output of commands and the values of expressions take their places in a word. What
becomes of the word then depends on its use: it is cut into fields, or stays one text, or is a
pattern.
-/

namespace MiniShell.Host.Script

/-- How the output of a command is got. -/
abbrev Capture := Command → Run Bytes

/-- A value as the atoms of a word. -/
def valueAtoms (quoted : Bool) (value : Bytes) : List Atom :=
  if quoted then .quotes :: value.map .literal else value.map .value

/-- An output as it takes its place in a word: without NUL bytes and the newlines at its end. -/
def trimOutput (output : Bytes) : Bytes :=
  ((output.filter (· != 0)).reverse.dropWhile (· == newline)).reverse

/-- The arguments of a script as the atoms of a word that is cut into fields. -/
def argumentAtoms (quoted : Bool) (arguments : List Bytes) : List Atom :=
  [Atom.boundary].intercalate (arguments.map (valueAtoms quoted))

namespace Run

/-- Makes the mistake of using a parameter that has no value. -/
def notSet {α : Type} (parameter : Parameter) : Run α :=
  fail (parameter.name ++ utf8 ": parameter not set")

/-- The value of a parameter. One without a value counts as empty, unless that is a mistake. -/
def valueOf (parameter : Parameter) : Run Bytes := do
  let i ← get
  match i.parameter? parameter with
  | some value => pure value
  | none => if i.hasOption 'u' then notSet parameter else pure []

mutual

/-- The atoms of a piece. The word is cut into fields if `cuts`, and the piece stands in place of a
value that is cut if `inValue`. -/
def pieceAtoms (capture : Capture) (cuts inValue : Bool) : Piece → Run (List Atom)
  | .byte true b => pure [.literal b]
  | .byte false b => pure [if inValue then .value b else .active b]
  | .emptyQuotes => pure [.quotes]
  | .output quoted command => do pure (valueAtoms quoted (trimOutput (← capture command)))
  | .number quoted expression => do
    let text := textOf (← wordAtoms capture false false expression)
    pure (valueAtoms quoted (decimalInt (← arithmetic text)))
  | .parameter quoted parameter modifier => modifierAtoms capture cuts quoted parameter modifier
termination_by structural piece => piece

def wordAtoms (capture : Capture) (cuts inValue : Bool) : List Piece → Run (List Atom)
  | [] => pure []
  | piece :: word => do
    let first ← pieceAtoms capture cuts inValue piece
    pure (first ++ (← wordAtoms capture cuts inValue word))
termination_by structural word => word

/-- The atoms of a parameter. -/
def modifierAtoms (capture : Capture) (cuts quoted : Bool) (parameter : Parameter) :
    Modifier → Run (List Atom)
  | .none => do
    let value ← valueOf parameter
    let i ← get
    match parameter with
    | .each => pure (if cuts then argumentAtoms quoted i.arguments else valueAtoms quoted value)
    | .joined =>
      pure (if cuts ∧ ¬ quoted then argumentAtoms false i.arguments else valueAtoms quoted value)
    | _ => pure (valueAtoms quoted value)
  | .length => do pure (valueAtoms quoted (decimal (← valueOf parameter).length))
  | .orElse orEmpty word => do
    match (← ask (·.parameter? parameter)).filter fun value => !(orEmpty && value.isEmpty) with
    | some value => pure (valueAtoms quoted value)
    | none => do
      pure ((valueAtoms quoted []) ++ (← wordAtoms capture cuts (cuts && !quoted) word))
  | .andThen orEmpty word => do
    match (← ask (·.parameter? parameter)).filter fun value => !(orEmpty && value.isEmpty) with
    | some _ => do
      pure ((valueAtoms quoted []) ++ (← wordAtoms capture cuts (cuts && !quoted) word))
    | none => pure (valueAtoms quoted [])
  | .orAssign orEmpty word => do
    match (← ask (·.parameter? parameter)).filter fun value => !(orEmpty && value.isEmpty) with
    | some value => pure (valueAtoms quoted value)
    | none =>
      let value := textOf (← wordAtoms capture false false word)
      match parameter with
      | .variable name =>
        assign name value false
        pure (valueAtoms quoted value)
      | _ => fail (parameter.name ++ utf8 ": bad variable name")
  | .orFail orEmpty word => do
    match (← ask (·.parameter? parameter)).filter fun value => !(orEmpty && value.isEmpty) with
    | some value => pure (valueAtoms quoted value)
    | none =>
      let message := textOf (← wordAtoms capture false false word)
      let standard := utf8 (if orEmpty then "parameter not set or null" else "parameter not set")
      fail (parameter.name ++ utf8 ": " ++ if word.isEmpty then standard else message)
  | .trim side longest pattern => do
    let value ← valueOf parameter
    let pattern ← wordAtoms capture false false pattern
    pure (valueAtoms quoted (trim side longest pattern value))
  | .invalid => fail (utf8 "Bad substitution")
termination_by structural modifier => modifier

end

end Run

/-! ## Home directories -/

/-- The home directory of a user, or of the own one for an empty name. -/
def home? (i : Interpreter) (user : Bytes) : Option Bytes :=
  if user.isEmpty then i.value? (utf8 "HOME")
  else [(utf8 "root", utf8 "/root")].lookup user

/-- The word with a home directory in place of a tilde at its start. The name behind the tilde ends
at a slash, or at a colon if `colons`. -/
def openTilde (i : Interpreter) (colons : Bool) (word : Word) : Word :=
  match word with
  | .byte false 126 :: rest =>
    let inName := fun
      | Piece.byte false b => b != slash && !(colons && b == byte ':')
      | .byte true b => b != slash
      | _ => true
    let name := rest.takeWhile inName
    match (plainText? name).bind (home? i) with
    | some home => home.map (.byte true) ++ rest.drop name.length
    | none => word
  | _ => word

/-- The word of an assignment with all home directories in their places: a tilde counts at the
start and behind every colon. -/
def openTildes (i : Interpreter) : (steps : Nat) → Word → Word
  | 0, word => word
  | steps + 1, word =>
    let isColon := fun
      | Piece.byte false b => b == byte ':'
      | _ => false
    let part := word.takeWhile fun piece => !isColon piece
    openTilde i true part ++
      match word.drop part.length with
      | [] => []
      | colon :: rest => colon :: openTildes i steps rest

namespace Run

/-- The one text that a word stands for. -/
def text (capture : Capture) (word : Word) : Run Bytes := do
  pure (textOf (← wordAtoms capture false false (openTilde (← get) false word)))

/-- The value that an assignment gives to its variable. -/
def assignedText (capture : Capture) (word : Word) : Run Bytes := do
  pure (textOf (← wordAtoms capture false false (openTildes (← get) (word.length + 1) word)))

/-- The fields that a word stands for. -/
def fields (capture : Capture) (word : Word) : Run (List Bytes) := do
  let atoms ← wordAtoms capture true false (openTilde (← get) false word)
  let i ← get
  let fields := cut i.separators none false atoms
  if i.hasOption 'f' then pure (fields.map textOf)
  else
    let m ← machine get
    pure (fields.flatMap (expandField m i.process.workingDir))

/-- The fields that words stand for. -/
def allFields (capture : Capture) : List Word → Run (List Bytes)
  | [] => pure []
  | word :: words => do
    let first ← fields capture word
    pure (first ++ (← allFields capture words))

end Run

end MiniShell.Host.Script
