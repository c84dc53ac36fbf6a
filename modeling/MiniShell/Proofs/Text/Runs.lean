import Mathlib.Data.List.Basic
import Mathlib.Tactic.SplitIfs
import MiniShell.Text.Runs

/-!
# Runs, splits and what they hold

The runs of a list are its pieces between separators, without the empty ones
(`runs_eq_splitOnP`). Together they hold everything but the separators (`flatten_runs`), and where
a separator or an end of the list is, the runs on the two sides are found on their own
(`runs_append_of_getLast`, `runs_append_of_head`). So what holds of words and goes on at separators
holds of any list (`cut_induction`).
-/

namespace MiniShell

variable {α : Type} {p : α → Bool}

/-! ## Pieces between separators -/

theorem runsAfter_eq_splitOnPPrepend [DecidableEq α] (as current : List α) :
    runsAfter p current as = (as.splitOnPPrepend p current).filter (· ≠ []) := by
  induction as generalizing current with
  | nil => cases current <;> simp [runsAfter]
  | cons a as ih =>
    by_cases ha : p a = true
    · rw [List.splitOnPPrepend_cons_pos ha, ← List.splitOnPPrepend_nil_right]
      cases current <;> simp [runsAfter, ha, ih]
    · rw [Bool.not_eq_true] at ha
      rw [List.splitOnPPrepend_cons_neg ha, ← ih, runsAfter, ha]
      rfl

/-- Runs are the pieces between separators that are not empty. -/
theorem runs_eq_splitOnP [DecidableEq α] (as : List α) :
    runs p as = (as.splitOnP p).filter (· ≠ []) :=
  runsAfter_eq_splitOnPPrepend as []

theorem flatten_runsAfter (as current : List α) :
    (runsAfter p current as).flatten = current.reverse ++ as.filter (!p ·) := by
  induction as generalizing current with
  | nil => cases current <;> simp [runsAfter]
  | cons a as ih =>
    by_cases ha : p a = true
    · cases current <;> simp [runsAfter, ha, ih]
    · simp [runsAfter, ha, ih]

/-- Runs hold what is no separator, in order. -/
theorem flatten_runs (as : List α) : (runs p as).flatten = as.filter (!p ·) :=
  flatten_runsAfter as []

theorem runs_of_forall_not [DecidableEq α] {as : List α} (h : ∀ a ∈ as, p a = false) :
    runs p as = if as = [] then [] else [as] := by
  rw [runs_eq_splitOnP, List.splitOnP_eq_singleton h]
  split_ifs with hnil <;> simp [hnil]

/-! ## Cutting in two -/

theorem runs_append_of_getLast {before : List α} (h : ∀ a ∈ before.getLast?, p a = true)
    (after : List α) : runs p (before ++ after) = runs p before ++ runs p after := by
  rcases List.eq_nil_or_concat' before with rfl | ⟨init, last, rfl⟩
  · rfl
  · have hlast : p last = true := h last List.getLast?_concat
    rw [List.append_assoc, List.singleton_append, runs_append_cons hlast,
      runs_append_cons hlast, runs_nil, List.append_nil]

theorem runs_append_of_head {after : List α} (h : ∀ a ∈ after.head?, p a = true)
    (before : List α) : runs p (before ++ after) = runs p before ++ runs p after := by
  rcases after with _ | ⟨first, rest⟩
  · rw [List.append_nil, runs_nil, List.append_nil]
  · have hfirst : p first = true := h first rfl
    have hrest := runs_append_cons hfirst [] rest
    rw [List.nil_append, runs_nil, List.nil_append] at hrest
    rw [runs_append_cons hfirst, hrest]

/-- A list is a word, or a word with a separator and a rest behind it. -/
@[elab_as_elim]
theorem cut_induction (p : α → Bool) {motive : List α → Prop}
    (word : ∀ word, (∀ a ∈ word, p a = false) → motive word)
    (append : ∀ word c rest, (∀ a ∈ word, p a = false) → p c = true → motive rest →
      motive (word ++ c :: rest)) (as : List α) : motive as := by
  -- In front of what is left stands a word that no separator has ended yet.
  have hopen : ∀ front, (∀ a ∈ front, p a = false) → motive (front ++ as) := by
    induction as with
    | nil =>
      intro front hfront
      rw [List.append_nil]
      exact word front hfront
    | cons b as ih =>
      intro front hfront
      by_cases hb : p b = true
      · exact append front b as hfront hb (ih [] (by simp))
      · rw [← List.singleton_append, ← List.append_assoc]
        apply ih
        intro a ha
        rcases List.mem_append.1 ha with ha | ha
        · exact hfront a ha
        · rw [List.mem_singleton.1 ha]
          exact Bool.not_eq_true _ ▸ hb
  exact hopen [] (by simp)

/-- A word with separators or the ends of the list around it is a run. -/
theorem runs_append_word [DecidableEq α] {before word after : List α}
    (hbefore : ∀ a ∈ before.getLast?, p a = true) (hword : ∀ a ∈ word, p a = false)
    (hne : word ≠ []) (hafter : ∀ a ∈ after.head?, p a = true) :
    runs p (before ++ word ++ after) = runs p before ++ word :: runs p after := by
  rw [runs_append_of_head hafter, runs_append_of_getLast hbefore, runs_of_forall_not hword,
    if_neg hne, List.append_assoc, List.singleton_append]

end MiniShell
