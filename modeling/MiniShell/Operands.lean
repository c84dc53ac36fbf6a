/-!
# Operands of a command

The commands of the shell take operands and no options. The words after the marker `--` are
operands whatever they look like, so a list of words that is meant as operands only is handed on
behind the marker.
-/

namespace MiniShell

/-- The word after which every word is an operand. -/
def endOfOptions : String := "--"

/-- The words as operands, whatever they look like. -/
def asOperands (words : List String) : List String := endOfOptions :: words

/-- Whether a word in front of the marker asks for something other than an operand. -/
def looksLikeOption (word : String) : Bool := word.toList.head? = some '-' || word == "help"

/-- The operands among the words given to a command that knows no options. -/
def operands? : List String → Option (List String)
  | [] => some []
  | word :: words =>
    if word == endOfOptions then some words
    else if looksLikeOption word then none
    else (operands? words).map (word :: ·)

@[simp] theorem operands?_asOperands (words : List String) :
    operands? (asOperands words) = some words := by
  simp [asOperands, operands?]

end MiniShell
