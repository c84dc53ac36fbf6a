import MiniShell.Host.Escape

/-!
# The script language

Scripts are made of words, which are pieces of text and values to be put in, and of commands,
which are put together from simple ones.
-/

namespace MiniShell.Host.Script

/-- A value that a script can refer to. -/
inductive Parameter where
  /-- The name of the script is at 0 and its arguments follow. -/
  | position (index : Nat)
  /-- The number of arguments. -/
  | count
  /-- The arguments, each for itself. -/
  | each
  /-- The arguments with a separator between them. -/
  | joined
  /-- The exit code of the last command. -/
  | status
  /-- The number of the process. -/
  | ownPid
  /-- The number of the last process in the background. -/
  | lastBackground
  /-- The letters of the options that are on. -/
  | options
  | variable (name : Bytes)
  deriving DecidableEq, Repr

/-- Which end of a value a pattern is cut off from. -/
inductive End where
  | front
  | back
  deriving DecidableEq, Repr

/-- How a redirection uses its target. -/
inductive RedirectKind where
  | output
  /-- Output to a file that may be emptied whatever the options say. -/
  | clobber
  | append
  | input
  | inputOutput
  /-- The target is the number of another descriptor. -/
  | duplicate
  deriving DecidableEq, Repr

mutual

/-- A piece of a word. Text and values that are quoted are not cut and hold no wildcards. -/
inductive Piece where
  | byte (quoted : Bool) (b : UInt8)
  /-- Quotes around nothing. -/
  | emptyQuotes
  | parameter (quoted : Bool) (parameter : Parameter) (modifier : Modifier)
  /-- The output of a command. -/
  | output (quoted : Bool) (command : Command)
  /-- The value of an arithmetic expression. -/
  | number (quoted : Bool) (expression : List Piece)

/-- What is done with the value of a parameter. -/
inductive Modifier where
  | none
  | length
  /-- Another word takes the place of a missing value; an empty one is missing too if `orEmpty`. -/
  | orElse (orEmpty : Bool) (word : List Piece)
  | orAssign (orEmpty : Bool) (word : List Piece)
  | orFail (orEmpty : Bool) (word : List Piece)
  /-- Another word takes the place of a value that is there. -/
  | andThen (orEmpty : Bool) (word : List Piece)
  | trim (side : End) (longest : Bool) (pattern : List Piece)
  /-- Braces that say nothing that can be understood. -/
  | invalid

/-- The target of a redirection. -/
inductive Target where
  | word (word : List Piece)
  /-- A text in the script, by its number. -/
  | document (number : Nat)

/-- A redirection of one descriptor. -/
inductive Redirect where
  | mk (descriptor : Nat) (kind : RedirectKind) (target : Target)

/-- A command. -/
inductive Command where
  | skip
  | simple (line : Nat) (assignments : List (Bytes × List Piece)) (words : List (List Piece))
      (redirects : List Redirect)
  | sequence (first second : Command)
  /-- The second is run if the first succeeds. -/
  | andThen (first second : Command)
  /-- The second is run if the first fails. -/
  | orElse (first second : Command)
  | negation (command : Command)
  /-- The output of each is the input of the next. -/
  | pipeline (commands : List Command)
  | background (command : Command)
  | redirected (line : Nat) (command : Command) (redirects : List Redirect)
  | subshell (line : Nat) (command : Command) (redirects : List Redirect)
  | branch (condition yes no : Command)
  /-- The body is run as long as the condition succeeds, or fails if `untilSuccess`. -/
  | loop (untilSuccess : Bool) (condition body : Command)
  /-- The body is run with the variable set to each field of the words. -/
  | forEach (line : Nat) (name : Bytes) (words : List (List Piece)) (body : Command)
  /-- The body behind the first pattern that fits is run. -/
  | select (line : Nat) (subject : List Piece) (cases : List (List (List Piece) × Command))
  | define (name : Bytes) (body : Command)

end

abbrev Word := List Piece

instance : Inhabited Command := ⟨.skip⟩

/-- The text of a word that is written without quotes and parameters. -/
def plainText? (word : Word) : Option Bytes :=
  word.mapM fun
    | .byte false b => some b
    | _ => none

def isDigit (b : UInt8) : Bool := byte '0' ≤ b && b ≤ byte '9'

def isNameStart (b : UInt8) : Bool :=
  (byte 'a' ≤ b && b ≤ byte 'z') || (byte 'A' ≤ b && b ≤ byte 'Z') || b == byte '_'

def isNameByte (b : UInt8) : Bool := isNameStart b || isDigit b

/-- Whether a text is the name of a variable. -/
def isName : Bytes → Bool
  | [] => false
  | b :: rest => isNameStart b && rest.all isNameByte

/-- The number that a string of digits writes, if it is one. -/
def decimal? (digits : Bytes) : Option Nat :=
  if digits.isEmpty || !digits.all isDigit then none
  else some (digits.foldl (fun value b => value * 10 + (b.toNat - 48)) 0)

/-- The decimal digits of a number. -/
def decimal (n : Nat) : Bytes := utf8 (toString n)

/-- The parameter of a single byte. -/
def special? (b : UInt8) : Option Parameter :=
  if isDigit b then some (.position (b.toNat - 48))
  else
    [(byte '#', .count), (byte '@', .each), (byte '*', .joined), (byte '?', .status),
      (byte '$', .ownPid), (byte '!', .lastBackground), (byte '-', .options)].lookup b

/-- The name of a parameter. -/
def Parameter.name : Parameter → Bytes
  | .position index => decimal index
  | .count => [byte '#']
  | .each => [byte '@']
  | .joined => [byte '*']
  | .status => [byte '?']
  | .ownPid => [byte '$']
  | .lastBackground => [byte '!']
  | .options => [byte '-']
  | .variable name => name

/-- The assignment at the start of a word: the variable and the rest of the word. -/
def assignment? (word : Word) : Option (Bytes × Word) :=
  let name := word.takeWhile fun
    | .byte false b => isNameByte b
    | _ => false
  match plainText? name, word.drop name.length with
  | some name, .byte false 61 :: value => if isName name then some (name, value) else none
  | _, _ => none

end MiniShell.Host.Script
