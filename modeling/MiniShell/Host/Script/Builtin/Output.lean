import MiniShell.Host.Script.Format
import MiniShell.Host.Script.Letters

/-!
# Commands that print
-/

namespace MiniShell.Host.Script.Builtin

open Run

/-- Prints its arguments, in which escapes are read. -/
def echo (arguments : List Bytes) : Run Nat := do
  let openLine := arguments.head? = some (utf8 "-n")
  let (out, ended) :=
    unescape false (joinWords (if openLine then arguments.drop 1 else arguments))
  print (if openLine ∨ ended then out else out ++ [newline])
  pure 0

/-- Prints its arguments in a format. -/
def printf (arguments : List Bytes) : Run Nat := do
  withOptions "" "" arguments fun _ operands =>
    match operands with
    | [] => fail (utf8 "usage: printf format [arg ...]")
    | format :: arguments => do
      let shown := Format.render format arguments
      shown.messages.forM Run.complain
      print shown.output
      match shown.mistake with
      | some message => fail message
      | none => pure (if shown.messages.isEmpty then 0 else 1)

/-- A text in quotes, from which it can be read again. Single quotes stand in double ones. -/
def requoted (text : Bytes) : Bytes :=
  go (text.length + 1) text
where
  /-- The parts of a text, with and without single quotes. -/
  go : (steps : Nat) → Bytes → Bytes
  | 0, _ => []
  | steps + 1, text =>
    let part := text.takeWhile (· != byte '\'')
    let rest := text.drop part.length
    let quotes := rest.takeWhile (· == byte '\'')
    let shown := byte '\'' :: part ++ [byte '\'']
    if quotes.isEmpty then shown
    else
      shown ++ [byte '"'] ++ quotes ++ [byte '"'] ++
        if quotes.length = rest.length then [] else go steps (rest.drop quotes.length)

/-- Prints variables in the order of their names, behind a word if one is given. -/
def printVariables (word : Bytes) (choose : Variable → Bool) : Run Unit := do
  let chosen := ((← get).bindings.filter choose).mergeSort fun a b => bytesLE a.name b.name
  for v in chosen do
    let value := (v.value.map fun value => byte '=' :: requoted value).getD []
    printLine ((if word.isEmpty then [] else word ++ [byte ' ']) ++ v.name ++ value)

end MiniShell.Host.Script.Builtin
