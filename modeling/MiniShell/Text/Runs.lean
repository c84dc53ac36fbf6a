/-!
# Maximal runs

A list is cut at its separators; what is left are its maximal runs of other elements. Separators
at either end and next to each other leave nothing behind.
-/

namespace MiniShell

variable {α : Type}

/-- The runs of `as`, when `current` (last element first) has been read of a run before it. -/
def runsAfter (isSeparator : α → Bool) (current : List α) : List α → List (List α)
  | [] => if current.isEmpty then [] else [current.reverse]
  | a :: as =>
    if isSeparator a then
      if current.isEmpty then runsAfter isSeparator [] as
      else current.reverse :: runsAfter isSeparator [] as
    else runsAfter isSeparator (a :: current) as

/-- The maximal runs of elements that are no separators, in order. -/
def runs (isSeparator : α → Bool) (as : List α) : List (List α) := runsAfter isSeparator [] as

@[simp] theorem runs_nil (isSeparator : α → Bool) : runs isSeparator [] = [] := rfl

/-- A separator ends the run before it and starts afresh. -/
theorem runsAfter_append_cons {isSeparator : α → Bool} {c : α} (hc : isSeparator c = true)
    (b : List α) (a : List α) (current : List α) :
    runsAfter isSeparator current (a ++ c :: b) =
      runsAfter isSeparator current a ++ runs isSeparator b := by
  induction a generalizing current with
  | nil => cases current <;> simp [runsAfter, runs, hc]
  | cons x xs ih =>
    by_cases hx : isSeparator x = true
    · cases current <;> simp [runsAfter, hx, ih]
    · simp [runsAfter, hx, ih]

/-- Cutting at a separator cuts both sides on their own. -/
theorem runs_append_cons {isSeparator : α → Bool} {c : α} (hc : isSeparator c = true)
    (a b : List α) :
    runs isSeparator (a ++ c :: b) = runs isSeparator a ++ runs isSeparator b :=
  runsAfter_append_cons hc b a []

end MiniShell
