import MiniShell.Host.Script.Syntax

/-!
# The reader of scripts

What is left of a script, and the tokens it is made of. A script can be read before all of it has
arrived: a reader that comes to the end of what is there gives up, unless it is told that nothing
more will come.
-/

namespace MiniShell.Host.Script

/-- What a redirection operator says. -/
inductive RedirectOperator where
  | file (kind : RedirectKind)
  /-- The input is a text in the script, the tabs at the start of its lines left off if so said. -/
  | document (stripTabs : Bool)
  deriving DecidableEq, Repr

/-- What a script is made of. -/
inductive Token where
  | endOfFile
  | newline
  | operator (text : Bytes)
  | redirect (descriptor : Nat) (operator : RedirectOperator)
  | word (word : Word)
  | keyword (text : Bytes)

/-- Words that mean something of their own where a command could start. -/
def keywords : List Bytes :=
  ["!", "case", "do", "done", "elif", "else", "esac", "fi", "for", "if", "in", "then", "until",
    "while", "\x7b", "\x7d"].map utf8

/-- A text that is put between double quotes in a message. -/
def inQuotes (text : Bytes) : Bytes := [byte '"'] ++ text ++ [byte '"']

/-- What a token is called in a message. -/
def Token.name : Token → Bytes
  | .endOfFile => utf8 "end of file"
  | .newline => utf8 "newline"
  | .operator text | .keyword text => inQuotes text
  | .redirect .. => utf8 "redirection"
  | .word _ => utf8 "word"

def Token.isOperator (text : String) : Token → Bool
  | .operator t => t == utf8 text
  | _ => false

def Token.isKeyword (text : String) : Token → Bool
  | .keyword t => t == utf8 text
  | _ => false

/-- Whether a list of commands can end in front of a token. -/
def Token.endsList : Token → Bool
  | .endOfFile => true
  | .operator text => [utf8 ")", utf8 ";;"].contains text
  | .keyword text =>
    (["do", "done", "elif", "else", "esac", "fi", "then", "\x7d"].map utf8).contains text
  | _ => false

/-- A text in the script that is to come behind the line. -/
structure Pending where
  number : Nat
  marker : Bytes
  /-- Whether parameters in it are left alone. -/
  quoted : Bool
  stripTabs : Bool

/-- The state of a reader. -/
structure Reader where
  rest : Bytes
  /-- Nothing more will come behind `rest`. -/
  atEnd : Bool
  line : Nat
  /-- A token that has been looked at and is read again. -/
  pushed : Option Token
  last : Token
  pending : List Pending
  /-- The texts read so far, each with its number. -/
  documents : List (Nat × Word)
  nextDocument : Nat

/-- Why a command could not be read. -/
inductive Trouble where
  | incomplete
  | wrong (line : Nat) (message : Bytes)

abbrev Parse := StateT Reader (Except Trouble)

namespace Parse

/-- A syntax error in the present line. -/
def fail {α : Type} (message : Bytes) : Parse α := do throw (.wrong (← get).line message)

/-- A syntax error at the last token. -/
def unexpected {α : Type} : Parse α := do fail ((← get).last.name ++ utf8 " unexpected")

/-- A syntax error at the last token, with the token that should have been there. -/
def expected {α : Type} (name : Bytes) : Parse α := do
  fail ((← get).last.name ++ utf8 " unexpected (expecting " ++ name ++ utf8 ")")

/-- The next byte, if there is one. -/
def peek? : Parse (Option UInt8) := do
  let r ← get
  match r.rest with
  | b :: _ => pure (some b)
  | [] => if r.atEnd then pure none else throw .incomplete

/-- Goes on behind the next byte. -/
def advance : Parse Unit :=
  modify fun r =>
    match r.rest with
    | [] => r
    | b :: rest => { r with rest, line := if b = newline then r.line + 1 else r.line }

/-- The bytes without the joints at their start, and how many there were. A backslash at the end of
a line joins it to the next. -/
def withoutJoints : Bytes → Nat × Bytes
  | 92 :: 10 :: rest =>
    let (count, rest) := withoutJoints rest
    (count + 1, rest)
  | rest => (0, rest)

/-- The next byte that is no part of a joint between lines. -/
def peekJoined? : Parse (Option UInt8) := do
  let r ← get
  let (count, rest) := withoutJoints r.rest
  set { r with rest, line := r.line + count }
  if rest = [byte '\\'] ∧ ¬ r.atEnd then throw .incomplete
  peek?

/-- Goes on behind the next byte if it is the given one, and says whether it was. -/
def accept (c : Char) : Parse Bool := do
  if (← peekJoined?) = some (byte c) then
    advance
    pure true
  else pure false

/-- Bytes up to the first that does not pass a test, joints between lines left off. -/
def takeJoined (test : UInt8 → Bool) : (count : Nat) → Parse Bytes
  | 0 => pure []
  | count + 1 => do
    match ← peekJoined? with
    | some b =>
      if test b then
        advance
        pure (b :: (← takeJoined test count))
      else pure []
    | none => pure []

/-- A bound on the number of steps to read what is left. -/
def bound : Parse Nat := do pure ((← get).rest.length + 1)

/-- The bytes up to a given one, which is read too. -/
def takeUntil (last : Char) (orElse : Bytes) : Parse Bytes := do
  let r ← get
  let text := r.rest.takeWhile (· != byte last)
  match r.rest.drop text.length with
  | _ :: rest =>
    set { r with rest, line := r.line + text.count newline }
    pure text
  | [] =>
    if r.atEnd then
      set { r with rest := [], line := r.line + text.count newline }
      fail orElse
    else throw .incomplete

/-! ## Texts in the script -/

/-- Whether a line ends with a backslash that joins it to the next. -/
def isJoined (line : Bytes) : Bool := (line.reverse.takeWhile (· == byte '\\')).length % 2 == 1

/-- Reads the lines of a text, up to its marker or to the end. -/
def documentLines (p : Pending) : (count : Nat) → (afterJoint : Bool) → Parse Bytes
  | 0, _ => pure []
  | count + 1, afterJoint => do
    let r ← get
    let line := r.rest.takeWhile (· != newline)
    let rest := r.rest.drop line.length
    if rest.isEmpty ∧ ¬ r.atEnd then throw .incomplete
    let text := if p.stripTabs ∧ ¬ afterJoint then line.dropWhile (· == byte '\t') else line
    set { r with rest := rest.drop 1, line := r.line + (rest.take 1).length }
    if ¬ afterJoint ∧ text = p.marker then pure []
    else if rest.isEmpty then pure text
    else pure (text ++ newline :: (← documentLines p count (!p.quoted && isJoined line)))

/-! ## Tokens outside of words -/

/-- Skips blanks, joints between lines and comments. -/
def skipBlanks : (count : Nat) → Parse Unit
  | 0 => pure ()
  | count + 1 => do
    match ← peekJoined? with
    | some b =>
      if b = byte ' ' ∨ b = byte '\t' then
        advance
        skipBlanks count
      else if b = byte '#' then
        let r ← get
        let rest := r.rest.dropWhile (· != newline)
        set { r with rest }
        if rest.isEmpty ∧ ¬ r.atEnd then throw .incomplete
      else pure ()
    | none => pure ()

/-- Whether a byte ends a word that is not quoted. -/
def endsWord (b : UInt8) : Bool := (utf8 " \t\n;&|<>()").contains b

/-- Reads the operator that starts with the byte `b`, which has been read. -/
def operator (b : UInt8) : Parse Token := do
  if (utf8 ";&|").contains b ∧ (← peekJoined?) = some b then
    advance
    pure (.operator [b, b])
  else pure (.operator [b])

/-- Reads the redirection that starts with the byte `b`, which has been read, for the descriptor in
front of it if there is one. -/
def redirection (b : UInt8) (descriptor : Option Nat) : Parse Token := do
  if b = byte '>' then
    let kind : RedirectKind ←
      if ← accept '>' then pure .append
      else if ← accept '|' then pure .clobber
      else if ← accept '&' then pure .duplicate
      else pure .output
    pure (.redirect (descriptor.getD 1) (.file kind))
  else
    let operator : RedirectOperator ←
      if ← accept '<' then pure (.document (← accept '-'))
      else if ← accept '&' then pure (.file .duplicate)
      else if ← accept '>' then pure (.file .inputOutput)
      else pure (.file .input)
    pure (.redirect (descriptor.getD 0) operator)

/-- Takes the last token back. -/
def pushBack : Parse Unit := modify fun r => { r with pushed := some r.last }

end Parse

end MiniShell.Host.Script
