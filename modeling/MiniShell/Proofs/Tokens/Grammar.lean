import MiniShell.Proofs.Tokens.Redirection
import Mathlib.Algebra.Group.Nat.Defs
import Mathlib.Data.Nat.Find

/-!
# The grammar of redirections

A sequence of tokens has no redirection (`Unredirected`), or it is a command with its output sent
to a file (`Redirects`), or it is malformed, that is neither of the two.

1. `takeRedirection` tells the three apart, changes the sequence in the second case only, and finds
   nothing more to do when it is called again (`takeRedirection_by_grammar`).
2. The tokens of a line are its first words. What becomes of a redirection is decided by where the
   first operator stands among all words, relative to the number of words that are kept
   (`takeRedirection_ofLine`). The verdict changes at the last three places that are kept.
-/

namespace MiniShell

namespace Tokens

/-! ## Two forms of a command -/

/-- No token behind the name is the operator. -/
def Unredirected (t : Tokens) : Prop :=
  ∀ index, 1 ≤ index → t.get? index ≠ some redirectOperator

/-- The tokens are a command, the operator and a target. The command has a name, which may be
anything, and no operator behind it. The target may be anything. -/
structure Redirects (t : Tokens) (command : List String) (target : String) : Prop where
  toList_eq : t.toList = command ++ [redirectOperator, target]
  command_ne_nil : command ≠ []
  not_mem_tail : redirectOperator ∉ command.tail

variable {t : Tokens} {command : List String} {target : String}

theorem unredirected_iff : t.Unredirected ↔ redirectOperator ∉ t.arguments := by
  unfold Unredirected arguments
  constructor
  · intro h hmem
    obtain ⟨i, hi⟩ := List.mem_iff_getElem?.mp hmem
    rw [List.getElem?_drop] at hi
    exact h (1 + i) (by omega) hi
  · intro h index hindex hget
    apply h
    apply List.mem_iff_getElem?.mpr
    refine ⟨index - 1, ?_⟩
    rw [List.getElem?_drop, show 1 + (index - 1) = index by omega]
    exact hget

theorem absent_iff_unredirected : t.redirection = .absent ↔ t.Unredirected :=
  redirection_eq_absent_iff.trans unredirected_iff.symm

/-- The form of a command with a redirection fixes where it ends and what the target is. -/
theorem Redirects.redirection_eq (h : t.Redirects command target) :
    t.redirection = .file target ∧ t.command = command := by
  obtain ⟨name, before, rfl⟩ := List.exists_cons_of_ne_nil h.command_ne_nil
  have hfirst : redirectOperator ∉ before := h.not_mem_tail
  have ht : t.toList = name :: (before ++ redirectOperator :: [target]) := h.toList_eq
  exact ⟨redirection_of_operator hfirst ht, command_of_operator hfirst ht⟩

theorem redirects_of_file (h : t.redirection = .file target) : t.Redirects t.command target := by
  rcases cases_operator t with hnone | ⟨name, before, after, hfirst, ht⟩
  · rw [redirection_of_not_mem hnone] at h
    cases h
  · rw [redirection_of_operator hfirst ht] at h
    rcases after with _ | ⟨only, _ | ⟨extra, more⟩⟩
    · cases h
    · cases h
      rw [command_of_operator hfirst ht]
      exact ⟨ht, List.cons_ne_nil _ _, hfirst⟩
    · cases h

/-- A command with a redirection is not one without. -/
theorem Redirects.not_unredirected (h : t.Redirects command target) : ¬ t.Unredirected := by
  intro hnone
  have habsent := absent_iff_unredirected.mpr hnone
  rw [h.redirection_eq.1] at habsent
  cases habsent

/-! ## What is taken off -/

theorem takeRedirection_of_unredirected (h : t.Unredirected) :
    t.takeRedirection = (.ok none, t) := by
  rw [takeRedirection_eq, absent_iff_unredirected.mpr h]

theorem takeRedirection_of_redirects (h : t.Redirects command target) :
    t.takeRedirection = (.ok (some target), ⟨command, t.capacity⟩) := by
  obtain ⟨hredirection, hcommand⟩ := h.redirection_eq
  rw [takeRedirection_eq, hredirection]
  show (_, { t with toList := t.command }) = _
  rw [hcommand]

theorem takeRedirection_of_malformed (hnone : ¬ t.Unredirected)
    (hfile : ∀ command target, ¬ t.Redirects command target) :
    t.takeRedirection = (.error .redirectSyntax, t) := by
  rw [takeRedirection_eq]
  cases h : t.redirection with
  | absent => exact absurd (absent_iff_unredirected.mp h) hnone
  | file target => exact absurd (redirects_of_file h) (hfile _ _)
  | malformed => rfl

/-- A command from which the redirection was taken has none. -/
theorem Redirects.unredirected (h : t.Redirects command target) :
    Unredirected ⟨command, t.capacity⟩ := by
  rw [unredirected_iff]
  show redirectOperator ∉ command.drop 1
  rw [List.drop_one]
  exact h.not_mem_tail

/-- A second call finds nothing, or the same fault again, and leaves everything as it is. -/
theorem takeRedirection_again (t : Tokens) :
    t.takeRedirection.2.takeRedirection =
      (t.takeRedirection.1.map fun _ => none, t.takeRedirection.2) := by
  by_cases hnone : t.Unredirected
  · rw [takeRedirection_of_unredirected hnone]
    exact takeRedirection_of_unredirected hnone
  by_cases hfile : ∃ command target, t.Redirects command target
  · obtain ⟨command, target, hfile⟩ := hfile
    rw [takeRedirection_of_redirects hfile]
    exact takeRedirection_of_unredirected hfile.unredirected
  · have hbad := takeRedirection_of_malformed hnone
      fun command target h => hfile ⟨command, target, h⟩
    rw [hbad]
    exact hbad

/-! ## Indices -/

/-- The index of a token is that of an element. -/
theorem position_eq_some {start index : Nat} {token : String}
    (h : t.position start token = some index) :
    start ≤ index ∧ index < t.length ∧ t.get? index = some token := by
  unfold position at h
  obtain ⟨i, hfind, rfl⟩ := Option.map_eq_some_iff.mp h
  obtain ⟨hlt, hi, -⟩ := List.findIdx?_eq_some_iff_getElem.mp hfind
  rw [List.length_drop] at hlt
  rw [List.getElem_drop, beq_iff_eq] at hi
  refine ⟨by omega, by unfold length; omega, ?_⟩
  rw [get?, Nat.add_comm i start, List.getElem?_eq_getElem (by omega), hi]

/-- An operator that is followed by one token is followed by a token. -/
theorem get?_target {index : Nat} (h : t.length = index + 2) :
    ∃ target, t.get? (index + 1) = some target := by
  unfold length at h
  exact ⟨_, List.getElem?_eq_getElem (show index + 1 < t.toList.length by omega)⟩

/-! ## Building a sequence -/

theorem offer_eq_fill (t : Tokens) (tokens : List String) : t.offer tokens = t.fill tokens := by
  induction tokens generalizing t with
  | nil => rfl
  | cons token tokens ih =>
    show (t.push token).2.offer tokens = t.fill (token :: tokens)
    rw [ih]
    by_cases hfull : t.isFull = true
    · -- The sequence is as full for the other tokens as it is for the first.
      have hroom : t.capacity - t.length = 0 := by
        have : t.capacity ≤ t.length := by simpa [isFull] using hfull
        omega
      rw [push_of_full hfull, fill_eq, fill_eq, hroom, List.take_zero, List.take_zero]
    · rw [Bool.not_eq_true] at hfull
      simp only [fill, push_of_room hfull]

theorem offer_empty_eq (tokens : List String) (capacity : Nat) :
    (empty capacity).offer tokens = ⟨tokens.take capacity, capacity⟩ := by
  rw [offer_eq_fill, fill_eq]
  rfl

theorem offer_empty {tokens : List String} {capacity : Nat} (h : tokens.length ≤ capacity) :
    (empty capacity).offer tokens = ⟨tokens, capacity⟩ := by
  rw [offer_empty_eq, List.take_of_length_le h]

/-- **Redirections by their grammar.** A sequence without an operator behind its name is left as it
is. A command with a redirection is cut at the operator, and the target is the answer. Any other
sequence is malformed, and left as it is. No sequence is of both forms, and a command that was
built with a redirection is parted from it again. A second call changes nothing, and answers with
nothing or with the same fault. When the target is looked up it is there, and where a signed number
of so many bits can count the tokens, an unsigned one holds the index behind the target. -/
theorem takeRedirection_by_grammar (t : Tokens) :
    (t.Unredirected → t.takeRedirection = (.ok none, t)) ∧
      (∀ command target, t.Redirects command target →
        t.takeRedirection = (.ok (some target), ⟨command, t.capacity⟩)) ∧
      (¬ t.Unredirected → (∀ command target, ¬ t.Redirects command target) →
        t.takeRedirection = (.error .redirectSyntax, t)) ∧
      (∀ command target, t.Redirects command target → ¬ t.Unredirected) ∧
      (∀ command target capacity, command ≠ [] → redirectOperator ∉ command.tail →
        command.length + 2 ≤ capacity →
          ((empty capacity).offer (command ++ [redirectOperator, target])).takeRedirection =
            (.ok (some target), ⟨command, capacity⟩)) ∧
      t.takeRedirection.2.takeRedirection =
        (t.takeRedirection.1.map fun _ => none, t.takeRedirection.2) ∧
      ∀ operator, t.position 1 redirectOperator = some operator →
        (t.length = operator + 2 → ∃ target, t.get? (operator + 1) = some target) ∧
          ∀ bits, t.length < 2 ^ (bits - 1) → operator + 2 < 2 ^ bits := by
  refine ⟨takeRedirection_of_unredirected, fun command target => takeRedirection_of_redirects,
    takeRedirection_of_malformed, fun command target h => h.not_unredirected, ?_,
    takeRedirection_again t, ?_⟩
  · intro command target capacity hne htail hcapacity
    rw [offer_empty (by simpa using hcapacity)]
    exact takeRedirection_of_redirects ⟨rfl, hne, htail⟩
  · intro operator hposition
    obtain ⟨-, hlt, -⟩ := position_eq_some hposition
    refine ⟨get?_target, fun bits hbits => ?_⟩
    cases bits with
    | zero => simp at hbits; omega
    | succ bits =>
      rw [Nat.add_sub_cancel] at hbits
      rw [Nat.pow_succ]
      omega

/-- The operator can be the name of a command and the target of its redirection as well. -/
example : Redirects ⟨[">", ">", ">"], 3⟩ [">"] ">" := ⟨rfl, by decide, by decide⟩

end Tokens

/-! ## The first operator of a line -/

/-- The word at `index` is the first operator behind the name. -/
structure IsFirstOperator (words : List String) (index : Nat) : Prop where
  pos : 1 ≤ index
  get_eq : words[index]? = some redirectOperator
  least : ∀ i, 1 ≤ i → i < index → words[i]? ≠ some redirectOperator

/-- The words in front of the first operator are a name and others that are no operators. -/
theorem IsFirstOperator.split {words : List String} {index : Nat}
    (h : IsFirstOperator words index) :
    ∃ name before after, redirectOperator ∉ before ∧ before.length + 1 = index ∧
      words = name :: (before ++ redirectOperator :: after) := by
  obtain ⟨hlt, hget⟩ := List.getElem?_eq_some_iff.mp h.get_eq
  rcases words with _ | ⟨name, rest⟩
  · exact absurd hlt (Nat.not_lt_zero _)
  · obtain ⟨i, rfl⟩ : ∃ i, index = i + 1 := ⟨index - 1, by have := h.pos; omega⟩
    rw [List.length_cons, Nat.add_lt_add_iff_right] at hlt
    rw [List.getElem_cons_succ] at hget
    refine ⟨name, rest.take i, rest.drop (i + 1), ?_, ?_, ?_⟩
    · intro hmem
      obtain ⟨j, hj⟩ := List.mem_iff_getElem?.mp hmem
      have hji : j < i := by
        have := (List.getElem?_eq_some_iff.mp hj).1
        rw [List.length_take] at this
        omega
      rw [List.getElem?_take_of_lt hji] at hj
      exact h.least (j + 1) (by omega) (by omega) hj
    · rw [List.length_take]
      omega
    · rw [← hget, ← List.drop_eq_getElem_cons, List.take_append_drop]

theorem exists_isFirstOperator {words : List String} {index : Nat} (hindex : 1 ≤ index)
    (hget : words[index]? = some redirectOperator) :
    ∃ first, first ≤ index ∧ IsFirstOperator words first := by
  have h : ∃ i, 1 ≤ i ∧ words[i]? = some redirectOperator := ⟨index, hindex, hget⟩
  refine ⟨Nat.find h, Nat.find_min' h ⟨hindex, hget⟩, (Nat.find_spec h).1, (Nat.find_spec h).2, ?_⟩
  intro i hi hlt heq
  exact Nat.find_min h hlt ⟨hi, heq⟩

/-- There is no more than one first operator. -/
theorem IsFirstOperator.unique {words : List String} {index other : Nat}
    (h : IsFirstOperator words index) (h' : IsFirstOperator words other) : index = other := by
  rcases Nat.lt_trichotomy index other with hlt | heq | hlt
  · exact absurd h.get_eq (h'.least index h.pos hlt)
  · exact heq
  · exact absurd h'.get_eq (h.least other h'.pos hlt)

namespace Tokens

variable {line : String} {capacity index : Nat}

/-- An operator that is lost, or not there, redirects nothing. -/
theorem unredirected_ofLine (h : ∀ index, IsFirstOperator (words line) index → capacity ≤ index) :
    (ofLine line capacity).Unredirected := by
  intro index hindex hget
  rw [get?, toList_ofLine, List.getElem?_take] at hget
  split at hget
  · obtain ⟨first, hle, hfirst⟩ := exists_isFirstOperator hindex hget
    have := h first hfirst
    omega
  · cases hget

/-- After an operator that is kept, what is kept of the words behind it decides. -/
theorem takeRedirection_of_kept (h : IsFirstOperator (words line) index)
    (hkept : index < capacity) :
    (ofLine line capacity).takeRedirection =
      match ((words line).drop (index + 1)).take (capacity - (index + 1)) with
      | [target] => (.ok (some target), ⟨(words line).take index, capacity⟩)
      | _ => (.error .redirectSyntax, ofLine line capacity) := by
  obtain ⟨name, before, after, hfirst, rfl, hwords⟩ := h.split
  obtain ⟨hredirection, hcommand⟩ := ofLine_of_kept hfirst hwords hkept
  have htake : (words line).take (before.length + 1) = name :: before := by
    rw [hwords, List.take_succ_cons, List.take_left]
  have hdrop : (words line).drop (before.length + 1 + 1) = after := by
    rw [hwords, List.drop_succ_cons, List.drop_append, List.drop_eq_nil_of_le (by omega),
      Nat.add_sub_cancel_left]
    rfl
  rw [takeRedirection_eq, hredirection, hcommand, htake, hdrop]
  show _ = match after.take (capacity - (before.length + 2)) with
    | [target] => _
    | _ => _
  rcases after.take (capacity - (before.length + 2)) with _ | ⟨target, _ | ⟨extra, more⟩⟩
  · rfl
  · dsimp only
    rw [capacity_ofLine]
    rfl
  · rfl

/-- **Redirections and the bound on tokens.** An operator that is lost, or not there, redirects
nothing. One that is the last word kept is malformed, whatever follows. One that is the last but
one has the word behind it as its target, however many more there are. In front of that, exactly
one word must follow. -/
theorem takeRedirection_ofLine (line : String) (capacity : Nat) :
    ((∀ index, ¬ IsFirstOperator (words line) index) →
        (ofLine line capacity).takeRedirection = (.ok none, ofLine line capacity)) ∧
      ∀ index, IsFirstOperator (words line) index →
        (capacity ≤ index →
          (ofLine line capacity).takeRedirection = (.ok none, ofLine line capacity)) ∧
        (index + 1 = capacity →
          (ofLine line capacity).takeRedirection =
            (.error .redirectSyntax, ofLine line capacity)) ∧
        (index + 2 = capacity →
          (∀ target, (words line)[index + 1]? = some target →
            (ofLine line capacity).takeRedirection =
              (.ok (some target), ⟨(words line).take index, capacity⟩)) ∧
          ((words line)[index + 1]? = none →
            (ofLine line capacity).takeRedirection =
              (.error .redirectSyntax, ofLine line capacity))) ∧
        (index + 2 < capacity →
          (∀ target, (words line)[index + 1]? = some target → (words line).length = index + 2 →
            (ofLine line capacity).takeRedirection =
              (.ok (some target), ⟨(words line).take index, capacity⟩)) ∧
          ((words line).length ≠ index + 2 →
            (ofLine line capacity).takeRedirection =
              (.error .redirectSyntax, ofLine line capacity))) := by
  refine ⟨fun h =>
    takeRedirection_of_unredirected (unredirected_ofLine fun i hi => absurd hi (h i)),
    fun index h => ?_⟩
  have hlt : index < (words line).length := (List.getElem?_eq_some_iff.mp h.get_eq).1
  have hhead : (words line)[index + 1]? = ((words line).drop (index + 1)).head? :=
    List.head?_drop.symm
  have hlength : (words line).length = index + 1 + ((words line).drop (index + 1)).length := by
    rw [List.length_drop]
    omega
  refine ⟨fun hlost => ?_, fun hlast => ?_, fun hroom => ?_, fun hroom => ?_⟩
  · apply takeRedirection_of_unredirected
    apply unredirected_ofLine
    intro first hfirst
    rwa [hfirst.unique h]
  · rw [takeRedirection_of_kept h (by omega), ← hlast, Nat.sub_self, List.take_zero]
  · -- There is room for one word behind the operator.
    rw [takeRedirection_of_kept h (by omega), hhead, ← hroom,
      show index + 2 - (index + 1) = 1 by omega]
    rcases (words line).drop (index + 1) with _ | ⟨first, more⟩
    · exact ⟨fun target htarget => (nomatch htarget), fun _ => rfl⟩
    · refine ⟨fun target htarget => ?_, fun hnone => (nomatch hnone)⟩
      cases htarget
      rfl
  · -- There is room for two words behind the operator, and more than one is too many.
    obtain ⟨room, hcapacity⟩ : ∃ room, capacity - (index + 1) = room + 2 :=
      ⟨capacity - (index + 3), by omega⟩
    rw [takeRedirection_of_kept h (by omega), hhead, hlength, hcapacity]
    rcases (words line).drop (index + 1) with _ | ⟨first, _ | ⟨second, more⟩⟩
    · exact ⟨fun target htarget => (nomatch htarget), fun _ => rfl⟩
    · refine ⟨fun target htarget _ => ?_, fun hnot => absurd rfl hnot⟩
      cases htarget
      rfl
    · refine ⟨fun target _ hone => ?_, fun _ => rfl⟩
      simp only [List.length_cons] at hone
      omega

/-- Five words, cut down to two and more: the operator is lost, then it is all that is left of the
redirection, then the target is there, and then one word too many. -/
example : ([2, 3, 4, 5].map fun capacity =>
    (ofLine "echo a > b c" capacity).takeRedirection.2.toList) =
      [["echo", "a"], ["echo", "a", ">"], ["echo", "a"], ["echo", "a", ">", "b", "c"]] := by decide

end Tokens

end MiniShell
