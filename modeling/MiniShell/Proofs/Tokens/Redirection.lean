import MiniShell.Tokens.Redirection

/-!
# Where a command ends and its redirection begins

The tokens in front of the operator are the command, and the tokens from the operator on say where
its output goes. `takeRedirection_eq` reads both off the list of tokens, without an index.
-/

namespace MiniShell

/-- What the tokens from the operator on come to. -/
inductive Redirection where
  | absent
  | file (target : String)
  | malformed
  deriving DecidableEq, Repr

/-- What the tokens after the operator come to: exactly one must follow. -/
def Redirection.ofOperands : List String → Redirection
  | [target] => .file target
  | _ => .malformed

theorem Redirection.ofOperands_of_ne {operands : List String}
    (h : ∀ target, operands ≠ [target]) : ofOperands operands = .malformed := by
  rcases operands with _ | ⟨target, _ | ⟨extra, more⟩⟩
  · rfl
  · exact absurd rfl (h target)
  · rfl

/-- Any token but the operator. -/
def isPlain (token : String) : Bool := token != redirectOperator

theorem isPlain_of_not_mem {tokens : List String} (h : redirectOperator ∉ tokens) :
    ∀ token ∈ tokens, isPlain token = true :=
  fun _ htoken => bne_iff_ne.mpr fun heq => h (heq ▸ htoken)

namespace Tokens

/-- The tokens in front of the operator, and all of them if there is none. The name of the command
is never the operator. -/
def command (t : Tokens) : List String := t.toList.take 1 ++ t.arguments.takeWhile isPlain

/-- Where the output goes. -/
def redirection (t : Tokens) : Redirection :=
  match t.arguments.dropWhile isPlain with
  | [] => .absent
  | _ :: operands => .ofOperands operands

variable {t : Tokens} {name : String} {before after : List String}

/-- There is no operator, or there is a first one. -/
theorem cases_operator (t : Tokens) :
    redirectOperator ∉ t.arguments ∨
      ∃ name before after, redirectOperator ∉ before ∧
        t.toList = name :: (before ++ redirectOperator :: after) := by
  by_cases h : redirectOperator ∈ t.arguments
  · obtain ⟨before, after, hsplit, hfirst⟩ := List.eq_append_cons_of_mem h
    rcases htokens : t.toList with _ | ⟨name, arguments⟩
    · rw [arguments, htokens] at h
      exact absurd h (List.not_mem_nil)
    · rw [Tokens.arguments, htokens, List.drop_succ_cons, List.drop_zero] at hsplit
      exact .inr ⟨name, before, after, hfirst, by rw [hsplit]⟩
  · exact .inl h

/-! ## No operator -/

theorem command_of_not_mem (h : redirectOperator ∉ t.arguments) : t.command = t.toList := by
  have hall : (t.arguments ++ []).takeWhile isPlain = t.arguments ++ [].takeWhile isPlain :=
    List.takeWhile_append_of_pos (isPlain_of_not_mem h)
  rw [List.takeWhile_nil, List.append_nil] at hall
  rw [command, hall]
  exact List.take_append_drop 1 t.toList

theorem redirection_of_not_mem (h : redirectOperator ∉ t.arguments) : t.redirection = .absent := by
  have hall : (t.arguments ++ []).dropWhile isPlain = [].dropWhile isPlain :=
    List.dropWhile_append_of_pos (isPlain_of_not_mem h)
  rw [List.append_nil] at hall
  rw [redirection, hall]
  rfl

theorem position_of_not_mem (h : redirectOperator ∉ t.arguments) :
    t.position 1 redirectOperator = none := by
  rw [position, Option.map_eq_none_iff, List.findIdx?_eq_none_iff]
  intro token htoken
  exact beq_eq_false_iff_ne.mpr fun heq => h (heq ▸ htoken)

/-! ## The first operator -/

section Operator

variable (hfirst : redirectOperator ∉ before)
  (ht : t.toList = name :: (before ++ redirectOperator :: after))

include hfirst ht

theorem command_of_operator : t.command = name :: before := by
  rw [command, arguments, ht, List.drop_succ_cons, List.drop_zero,
    List.takeWhile_append_of_pos (isPlain_of_not_mem hfirst),
    List.takeWhile_cons_of_neg (by decide), List.append_nil]
  rfl

theorem redirection_of_operator : t.redirection = .ofOperands after := by
  rw [redirection, arguments, ht, List.drop_succ_cons, List.drop_zero,
    List.dropWhile_append_of_pos (isPlain_of_not_mem hfirst),
    List.dropWhile_cons_of_neg (by decide)]

theorem position_of_operator : t.position 1 redirectOperator = some (before.length + 1) := by
  have hbefore : before.findIdx? (· == redirectOperator) = none := by
    rw [List.findIdx?_eq_none_iff]
    intro token htoken
    exact beq_eq_false_iff_ne.mpr fun heq => hfirst (heq ▸ htoken)
  rw [position, ht, List.drop_succ_cons, List.drop_zero, List.findIdx?_append, hbefore,
    List.findIdx?_cons]
  simp

end Operator

theorem redirection_eq_absent_iff : t.redirection = .absent ↔ redirectOperator ∉ t.arguments := by
  constructor
  · intro h hmem
    rcases cases_operator t with hnone | ⟨name, before, after, hfirst, ht⟩
    · exact hnone hmem
    · rw [redirection_of_operator hfirst ht] at h
      rcases after with _ | ⟨target, _ | ⟨extra, more⟩⟩ <;> cases h
  · exact redirection_of_not_mem

theorem command_of_absent (h : t.redirection = .absent) : t.command = t.toList :=
  command_of_not_mem (redirection_eq_absent_iff.mp h)

/-- **Redirections.** The redirection is taken off a command, or left where it is if it is
malformed. -/
theorem takeRedirection_eq (t : Tokens) :
    t.takeRedirection =
      match t.redirection with
      | .absent => (.ok none, t)
      | .file target => (.ok (some target), { t with toList := t.command })
      | .malformed => (.error .redirectSyntax, t) := by
  rcases cases_operator t with hnone | ⟨name, before, after, hfirst, ht⟩
  · rw [takeRedirection, position_of_not_mem hnone, redirection_of_not_mem hnone]
  · have hlength : t.length = before.length + after.length + 2 := by
      rw [length, ht, List.length_cons, List.length_append, List.length_cons]
      omega
    rw [takeRedirection, position_of_operator hfirst ht, redirection_of_operator hfirst ht]
    rcases after with _ | ⟨target, _ | ⟨extra, more⟩⟩
    · dsimp only
      rw [if_pos (by rw [hlength, List.length_nil]; omega)]
      rfl
    · -- The target is the last token, and the operator is the one before.
      have hget : t.get? (before.length + 1 + 1) = some target := by
        rw [get?, ht]
        simp
      have htake : t.toList.take (before.length + 1) = t.command := by
        rw [command_of_operator hfirst ht, ht, List.take_succ_cons, List.take_left']
        rfl
      dsimp only
      rw [if_neg (by rw [hlength, List.length_singleton]; omega), hget, truncate, htake]
      rfl
    · dsimp only
      rw [if_pos (by rw [hlength, List.length_cons, List.length_cons]; omega)]
      rfl

/-! ## Lines with more words than tokens -/

section OfLine

variable {line : String} {capacity : Nat} (hfirst : redirectOperator ∉ before)
  (hwords : words line = name :: (before ++ redirectOperator :: after))

include hfirst hwords

/-- An operator that is not among the tokens is as good as none. -/
theorem ofLine_of_lost (hcapacity : capacity ≤ before.length + 1) :
    (ofLine line capacity).redirection = .absent ∧
      (ofLine line capacity).command = (words line).take capacity := by
  have hnone : redirectOperator ∉ (ofLine line capacity).arguments := by
    intro hmem
    rw [arguments, toList_ofLine, hwords] at hmem
    cases capacity with
    | zero => exact List.not_mem_nil hmem
    | succ room =>
      rw [List.take_succ_cons, List.drop_succ_cons, List.drop_zero,
        List.take_append_of_le_length (by omega)] at hmem
      exact hfirst (List.mem_of_mem_take hmem)
  exact ⟨redirection_of_not_mem hnone, by rw [command_of_not_mem hnone, toList_ofLine]⟩

/-- After an operator that is among the tokens, only the words that are tokens count. -/
theorem ofLine_of_kept (hcapacity : before.length + 1 < capacity) :
    (ofLine line capacity).redirection =
        .ofOperands (after.take (capacity - (before.length + 2))) ∧
      (ofLine line capacity).command = name :: before := by
  obtain ⟨room, rfl⟩ : ∃ room, capacity = before.length + room + 1 + 1 :=
    ⟨capacity - (before.length + 2), by omega⟩
  have ht : (ofLine line (before.length + room + 1 + 1)).toList =
      name :: (before ++ redirectOperator :: after.take room) := by
    rw [toList_ofLine, hwords, List.take_succ_cons, Nat.add_assoc,
      List.take_length_add_append, List.take_succ_cons]
  have hroom : before.length + room + 1 + 1 - (before.length + 2) = room := by omega
  rw [hroom]
  exact ⟨redirection_of_operator hfirst ht, command_of_operator hfirst ht⟩

end OfLine

end Tokens

end MiniShell
