import MiniShell.Operands

/-!
# Readers of operands

A command declares its operands, and a reader finds what is given for them among the words of a
command line. Of a reader no more is assumed than what it does with words behind the marker: they
are the operands in their order, a word too many is refused, and so is the lack of a required one
(`OperandReader.Lawful`). Nothing is assumed of words in front of the marker, where a reader is
free to see options.

So all lawful readers agree on words behind the marker (`OperandReader.Lawful.read_eq`), and the
reader that knows of no options at all is one of them (`OperandReader.lawful_plain`).
-/

namespace MiniShell

/-- An operand that a command declares. -/
inductive Operand where
  /-- It has to be given. -/
  | required
  /-- It may be left out. -/
  | optional
  deriving DecidableEq, Repr

/-- What can be given for an operand. -/
def Operand.Value : Operand → Type
  | .required => String
  | .optional => Option String

/-- What can be given for operands in a row. -/
def Values : List Operand → Type
  | [] => Unit
  | operand :: operands => operand.Value × Values operands

/-- Gives the words for the operands, first to first, if there are neither too many nor too few. -/
def give : (operands : List Operand) → List String → Option (Values operands)
  | [], [] => some ()
  | [], _ :: _ => none
  | .required :: _, [] => none
  | .required :: operands, word :: words => (give operands words).map fun values => (word, values)
  | .optional :: operands, [] => (give operands []).map fun values => (none, values)
  | .optional :: operands, word :: words =>
    (give operands words).map fun values => (some word, values)

/-- A way to read the words of a command line for a command with the given operands. It answers
with nothing if the words do not suit the command. -/
abbrev OperandReader := (operands : List Operand) → List String → Option (Values operands)

/-- What a reader does with the words behind the marker. -/
structure OperandReader.Lawful (read : OperandReader) : Prop where
  /-- Every word is an operand, whatever it looks like. -/
  accepts : ∀ {operands words values}, give operands words = some values →
    read operands (endOfOptions :: words) = some values
  /-- A word too many is an error, and so is the lack of a required operand. -/
  refuses : ∀ {operands words}, give operands words = none →
    read operands (endOfOptions :: words) = none

namespace OperandReader

variable {read : OperandReader}

/-- Words behind the marker are given as they stand. -/
theorem Lawful.read_eq (h : read.Lawful) (operands : List Operand) (words : List String) :
    read operands (asOperands words) = give operands words := by
  cases hgive : give operands words with
  | none => exact h.refuses hgive
  | some values => exact h.accepts hgive

/-- The reader for commands without options, which refuses whatever looks like one. -/
def plain : OperandReader := fun operands words => (operands? words).bind (give operands)

theorem plain_asOperands (operands : List Operand) (words : List String) :
    plain operands (asOperands words) = give operands words := by
  rw [plain, operands?_asOperands]
  rfl

theorem lawful_plain : plain.Lawful where
  accepts h := (plain_asOperands _ _).trans h
  refuses h := (plain_asOperands _ _).trans h

end OperandReader

end MiniShell
