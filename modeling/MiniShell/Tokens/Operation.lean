import MiniShell.Tokens.Redirection

/-!
# Histories of a token sequence

The operations on a token sequence as data, with the answer each gives. A history is a list of
operations applied to one sequence after the other.
-/

namespace MiniShell

/-- An operation on a token sequence. -/
inductive Operation where
  | push (token : String)
  | get (index : Nat)
  | position (start : Nat) (token : String)
  | truncate (index : Nat)
  /-- Lists the tokens. -/
  | list
  /-- Compares with the sequence of the given capacity to which the tokens were offered. -/
  | compare (tokens : List String) (capacity : Nat)
  /-- Replaces the sequence by the tokens of a line. -/
  | split (line : String) (capacity : Nat)
  | takeRedirection
  deriving DecidableEq, Repr

/-- The answer of an operation. -/
inductive Answer where
  | done
  | truth (holds : Bool)
  | token (token : Option String)
  | index (index : Option Nat)
  | tokens (tokens : List String)
  | redirection (target : Except Failure (Option String))

namespace Operation

/-- The answer of an operation and the sequence after it. -/
def apply (t : Tokens) : Operation → Answer × Tokens
  | .push token =>
    let (accepted, t') := t.push token
    (.truth accepted, t')
  | .get index => (.token (t.get? index), t)
  | .position start token => (.index (t.position start token), t)
  | .truncate index => (.done, t.truncate index)
  | .list => (.tokens t.toList, t)
  | .compare tokens capacity => (.truth (t = (Tokens.empty capacity).offer tokens), t)
  | .split line capacity => (.done, Tokens.ofLine line capacity)
  | .takeRedirection =>
    let (target, t') := t.takeRedirection
    (.redirection target, t')

/-- The answers of a history, each with the sequence after it. -/
def history (t : Tokens) : List Operation → List (Answer × Tokens)
  | [] => []
  | op :: ops =>
    let step := op.apply t
    step :: history step.2 ops

end Operation

end MiniShell
