import MiniShell.Error.Failure
import MiniShell.Tokens.Basic

/-!
# Redirection of a command's output

A command may end in `> file`. The operator is a token of its own, only the first one counts, and
the name of the command is never one. Exactly one token has to follow it.
-/

namespace MiniShell

/-- The redirection operator. -/
def redirectOperator : String := ">"

namespace Tokens

/-- Takes a trailing `> file` off the sequence and answers with the file, if there is one. A
malformed redirection leaves the sequence as it was. -/
def takeRedirection (t : Tokens) : Except Failure (Option String) × Tokens :=
  match t.position 1 redirectOperator with
  | none => (.ok none, t)
  | some operator =>
    if t.length ≠ operator + 2 then (.error .redirectSyntax, t)
    else
      match t.get? (operator + 1) with
      | none => (.error .redirectSyntax, t)
      | some target => (.ok (some target), t.truncate operator)

end Tokens

end MiniShell
