import MiniShell.Proofs.Tokens.Splitting
import MiniShell.Tokens.Operation

/-!
# Sequences of tokens as bounded lists

What the operations on a sequence of tokens do, said of a list and a bound (`Effect`): which of
them answer what, when, and what they leave. Nothing else happens when an operation is applied
(`effect_iff`), and so a history is the one course that such a list can take (`Effects`).

The list stays within its bound through any history (`fits_history`). After it was cut off it takes
as many tokens as it lost (`history_push`). A search that starts anywhere is over before the end of
the list, so that its index is a machine word as long as the number of tokens is one
(`wordPosition_eq`).
-/

namespace MiniShell

/-! ## Searching -/

/-- The first place of the token in the list, not looking before `start`. -/
structure IsFirst (tokens : List String) (start : Nat) (token : String) (index : Nat) : Prop where
  le : start ≤ index
  get_eq : tokens[index]? = some token
  least : ∀ i, start ≤ i → i < index → tokens[i]? ≠ some token

namespace Tokens

variable {t : Tokens} {start index : Nat} {token : String}

theorem position_of_isFirst (h : IsFirst t.toList start token index) :
    t.position start token = some index := by
  obtain ⟨hlt, hget⟩ := List.getElem?_eq_some_iff.mp h.get_eq
  have hle := h.le
  have hfind : (t.toList.drop start).findIdx? (· == token) = some (index - start) := by
    rw [List.findIdx?_eq_some_iff_getElem]
    refine ⟨by rw [List.length_drop]; omega, ?_, ?_⟩
    · rw [List.getElem_drop, beq_iff_eq, ← hget]
      congr 1
      omega
    · intro j hj heq
      rw [List.getElem_drop, beq_iff_eq] at heq
      apply h.least (start + j) (by omega) (by omega)
      rw [List.getElem?_eq_getElem (by omega), heq]
  rw [position, hfind, Option.map_some, Nat.sub_add_cancel hle]

theorem isFirst_of_position (h : t.position start token = some index) :
    IsFirst t.toList start token index := by
  obtain ⟨hle, hlt, hget⟩ := position_eq_some h
  refine ⟨hle, hget, ?_⟩
  intro i hi hlti htoken
  obtain ⟨j, hfind, rfl⟩ := Option.map_eq_some_iff.mp h
  obtain ⟨_, -, hnot⟩ := List.findIdx?_eq_some_iff_getElem.mp hfind
  apply hnot (i - start) (by omega)
  obtain ⟨hlength, hi'⟩ := List.getElem?_eq_some_iff.mp htoken
  rw [List.getElem_drop, beq_iff_eq, ← hi']
  congr 1
  omega

theorem position_eq_some_iff :
    t.position start token = some index ↔ IsFirst t.toList start token index :=
  ⟨isFirst_of_position, position_of_isFirst⟩

theorem position_eq_none_iff :
    t.position start token = none ↔ ∀ i, start ≤ i → t.toList[i]? ≠ some token := by
  rw [position, Option.map_eq_none_iff, List.findIdx?_eq_none_iff]
  constructor
  · intro h i hi hget
    have hmem : token ∈ t.toList.drop start := by
      apply List.mem_iff_getElem?.mpr
      refine ⟨i - start, ?_⟩
      rw [List.getElem?_drop, Nat.add_sub_cancel' hi]
      exact hget
    have hfalse := h token hmem
    rw [beq_self_eq_true] at hfalse
    cases hfalse
  · intro h other hmem
    obtain ⟨i, hi⟩ := List.mem_iff_getElem?.mp hmem
    rw [List.getElem?_drop] at hi
    apply beq_eq_false_iff_ne.mpr
    rintro rfl
    exact h (start + i) (Nat.le_add_right start i) hi

/-- The search with its sum in machine words. -/
def wordPosition (t : Tokens) (start : UInt64) (token : String) : Option UInt64 :=
  ((t.toList.drop start.toNat).findIdx? (· == token)).map fun index => UInt64.ofNat index + start

/-- The sum is an index of the sequence, and does not wrap. -/
theorem wordPosition_eq (hlength : t.length ≤ 2 ^ 64) (start : UInt64) (token : String) :
    (t.wordPosition start token).map UInt64.toNat = t.position start.toNat token := by
  unfold wordPosition position
  cases hfind : (t.toList.drop start.toNat).findIdx? (· == token) with
  | none => rfl
  | some index =>
    obtain ⟨hlt, -, -⟩ := List.findIdx?_eq_some_iff_getElem.mp hfind
    rw [List.length_drop] at hlt
    unfold length at hlength
    rw [Option.map_some, Option.map_some, Option.map_some, UInt64.toNat_add, UInt64.toNat_ofNat',
      Nat.mod_add_mod, Nat.mod_eq_of_lt (by omega)]

end Tokens

/-! ## What an operation does -/

/-- On a list of tokens with a bound, the operation gives the answer and leaves the list and bound
that come last. -/
inductive Effect : Tokens → Operation → Answer → Tokens → Prop where
  | pushed {t : Tokens} {token : String} (h : t.length < t.capacity) :
      Effect t (.push token) (.truth true) ⟨t.toList ++ [token], t.capacity⟩
  | refused {t : Tokens} {token : String} (h : t.capacity ≤ t.length) :
      Effect t (.push token) (.truth false) t
  | present {t : Tokens} {index : Nat} (h : index < t.toList.length) :
      Effect t (.get index) (.token (some t.toList[index])) t
  | missing {t : Tokens} {index : Nat} (h : t.length ≤ index) :
      Effect t (.get index) (.token none) t
  | found {t : Tokens} {start index : Nat} {token : String}
      (h : IsFirst t.toList start token index) :
      Effect t (.position start token) (.index (some index)) t
  | sought {t : Tokens} {start : Nat} {token : String}
      (h : ∀ i, start ≤ i → t.toList[i]? ≠ some token) :
      Effect t (.position start token) (.index none) t
  | truncated {t : Tokens} {index : Nat} :
      Effect t (.truncate index) .done ⟨t.toList.take (min index t.length), t.capacity⟩
  | listed {t : Tokens} : Effect t .list (.tokens t.toList) t
  | same {t : Tokens} {tokens : List String} {capacity : Nat}
      (htokens : t.toList = tokens.take capacity) (hcapacity : t.capacity = capacity) :
      Effect t (.compare tokens capacity) (.truth true) t
  | different {t : Tokens} {tokens : List String} {capacity : Nat}
      (h : t.toList = tokens.take capacity → t.capacity ≠ capacity) :
      Effect t (.compare tokens capacity) (.truth false) t
  /-- The sequence is replaced, and its bound too. -/
  | split {t : Tokens} {line : String} {capacity : Nat} :
      Effect t (.split line capacity) .done ⟨(words line).take capacity, capacity⟩
  | unredirected {t : Tokens} (h : t.Unredirected) :
      Effect t .takeRedirection (.redirection (.ok none)) t
  | redirected {t : Tokens} {command : List String} {target : String}
      (h : t.Redirects command target) :
      Effect t .takeRedirection (.redirection (.ok (some target))) ⟨command, t.capacity⟩
  | malformed {t : Tokens} (hnone : ¬ t.Unredirected)
      (hfile : ∀ command target, ¬ t.Redirects command target) :
      Effect t .takeRedirection (.redirection (.error .redirectSyntax)) t

section Effect

variable {t t' : Tokens} {op : Operation} {answer : Answer}

theorem compare_eq_iff {tokens : List String} {capacity : Nat} :
    t = (Tokens.empty capacity).offer tokens ↔
      t.toList = tokens.take capacity ∧ t.capacity = capacity := by
  rw [Tokens.offer_empty_eq]
  constructor
  · rintro rfl
    exact ⟨rfl, rfl⟩
  · rintro ⟨htokens, hcapacity⟩
    rw [← htokens, ← hcapacity]

theorem Effect.apply_eq (h : Effect t op answer t') : op.apply t = (answer, t') := by
  cases h with
  | pushed h =>
    have hroom : t.isFull = false := by simpa [Tokens.isFull] using h
    simp only [Operation.apply, Tokens.push_of_room hroom]
  | refused h =>
    have hfull : t.isFull = true := by simpa [Tokens.isFull] using h
    simp only [Operation.apply, Tokens.push_of_full hfull]
  | present h => simp only [Operation.apply, Tokens.get?, List.getElem?_eq_getElem h]
  | missing h => simp only [Operation.apply, Tokens.get?, List.getElem?_eq_none h]
  | found h => simp only [Operation.apply, Tokens.position_eq_some_iff.mpr h]
  | sought h => simp only [Operation.apply, Tokens.position_eq_none_iff.mpr h]
  | truncated =>
    simp only [Operation.apply, Tokens.truncate, Tokens.length, ← List.take_eq_take_min]
  | listed => rfl
  | same htokens hcapacity =>
    simp only [Operation.apply, compare_eq_iff.mpr ⟨htokens, hcapacity⟩, decide_true]
  | different h =>
    have hne : ¬ t = (Tokens.empty _).offer _ := fun heq =>
      h (compare_eq_iff.mp heq).1 (compare_eq_iff.mp heq).2
    simp only [Operation.apply, hne, decide_false]
  | split => simp only [Operation.apply, Tokens.ofLine_eq]
  | unredirected h => simp only [Operation.apply, Tokens.takeRedirection_of_unredirected h]
  | redirected h => simp only [Operation.apply, Tokens.takeRedirection_of_redirects h]
  | malformed hnone hfile =>
    simp only [Operation.apply, Tokens.takeRedirection_of_malformed hnone hfile]

/-- One of the cases is always there. -/
theorem exists_effect (t : Tokens) (op : Operation) : ∃ answer t', Effect t op answer t' := by
  cases op with
  | push token =>
    rcases Nat.lt_or_ge t.length t.capacity with h | h
    · exact ⟨_, _, .pushed h⟩
    · exact ⟨_, _, .refused h⟩
  | get index =>
    rcases Nat.lt_or_ge index t.length with h | h
    · exact ⟨_, _, .present h⟩
    · exact ⟨_, _, .missing h⟩
  | position start token =>
    cases h : t.position start token with
    | none => exact ⟨_, _, .sought (Tokens.position_eq_none_iff.mp h)⟩
    | some index => exact ⟨_, _, .found (Tokens.position_eq_some_iff.mp h)⟩
  | truncate index => exact ⟨_, _, .truncated⟩
  | list => exact ⟨_, _, .listed⟩
  | compare tokens capacity =>
    by_cases h : t.toList = tokens.take capacity ∧ t.capacity = capacity
    · exact ⟨_, _, .same h.1 h.2⟩
    · exact ⟨_, _, .different fun htokens hcapacity => h ⟨htokens, hcapacity⟩⟩
  | split line capacity => exact ⟨_, _, .split⟩
  | takeRedirection =>
    by_cases hnone : t.Unredirected
    · exact ⟨_, _, .unredirected hnone⟩
    · by_cases hfile : ∃ command target, t.Redirects command target
      · obtain ⟨command, target, hfile⟩ := hfile
        exact ⟨_, _, .redirected hfile⟩
      · exact ⟨_, _, .malformed hnone fun command target h => hfile ⟨command, target, h⟩⟩

/-- Applying an operation has its effect, and no other. -/
theorem effect_iff : Effect t op answer t' ↔ op.apply t = (answer, t') := by
  constructor
  · exact Effect.apply_eq
  · intro h
    obtain ⟨other, after, heffect⟩ := exists_effect t op
    rw [heffect.apply_eq] at h
    cases h
    exact heffect

theorem effect_apply (t : Tokens) (op : Operation) :
    Effect t op (op.apply t).1 (op.apply t).2 :=
  effect_iff.mpr rfl

/-- The list is no longer than its bound allows. -/
def Tokens.Fits (t : Tokens) : Prop := t.length ≤ t.capacity

theorem Tokens.fits_empty (capacity : Nat) : (Tokens.empty capacity).Fits := Nat.zero_le capacity

/-- No operation takes a list beyond its bound. -/
theorem Effect.fits (h : Effect t op answer t') (ht : t.Fits) : t'.Fits := by
  unfold Tokens.Fits Tokens.length at *
  cases h with
  | pushed h =>
    unfold Tokens.length at h
    rw [List.length_append, List.length_singleton]
    exact h
  | truncated =>
    rw [List.length_take]
    exact Nat.le_trans (Nat.min_le_right _ _) ht
  | split => exact List.length_take_le _ _
  | redirected h =>
    rw [h.toList_eq, List.length_append] at ht
    exact Nat.le_trans (Nat.le_add_right _ _) ht
  | refused | present | missing | found | sought | listed | same | different | unredirected
  | malformed => exact ht

/-- Only cutting a line changes the bound. -/
theorem Effect.capacity_eq (h : Effect t op answer t')
    (hop : ∀ line capacity, op ≠ .split line capacity) : t'.capacity = t.capacity := by
  cases h with
  | split => exact absurd rfl (hop _ _)
  | pushed | truncated | redirected => rfl
  | refused | present | missing | found | sought | listed | same | different | unredirected
  | malformed => rfl

/-- Whether an operation only looks at the sequence. -/
def Operation.isRead : Operation → Bool
  | .get _ | .position _ _ | .list | .compare _ _ => true
  | .push _ | .truncate _ | .split _ _ | .takeRedirection => false

theorem Effect.eq_of_isRead (h : Effect t op answer t') (hop : op.isRead = true) : t' = t := by
  cases h with
  | present | missing | found | sought | listed | same | different => rfl
  | pushed | refused | truncated | split | unredirected | redirected | malformed => cases hop

end Effect

/-! ## Histories -/

/-- What operations, one after the other, do to a list of tokens with a bound. -/
inductive Effects : Tokens → List Operation → List (Answer × Tokens) → Prop where
  | nil {t : Tokens} : Effects t [] []
  | cons {t t' : Tokens} {op : Operation} {answer : Answer} {ops : List Operation}
      {steps : List (Answer × Tokens)} (h : Effect t op answer t') (hrest : Effects t' ops steps) :
      Effects t (op :: ops) ((answer, t') :: steps)

namespace Operation

theorem effects_iff {t : Tokens} {ops : List Operation} {steps : List (Answer × Tokens)} :
    Effects t ops steps ↔ steps = history t ops := by
  constructor
  · intro h
    induction h with
    | nil => rfl
    | cons h _ ih =>
      rw [history, h.apply_eq]
      exact congrArg _ ih
  · rintro rfl
    induction ops generalizing t with
    | nil => exact .nil
    | cons op ops ih => exact .cons (effect_apply t op) ih

theorem fits_history {t : Tokens} (ht : t.Fits) (ops : List Operation) :
    ∀ step ∈ history t ops, step.2.Fits := by
  induction ops generalizing t with
  | nil => exact fun step hstep => absurd hstep List.not_mem_nil
  | cons op ops ih =>
    have hnext := (effect_apply t op).fits ht
    intro step hstep
    rcases List.mem_cons.mp hstep with rfl | hstep
    · exact hnext
    · exact ih hnext step hstep

/-- Tokens are accepted one by one up to the bound, and refused from there on. -/
theorem history_push (t : Tokens) {tokens : List String} {j : Nat} (hj : j < tokens.length) :
    (history t (tokens.map .push))[j]? = some (.truth (decide (t.length + j < t.capacity)),
      ⟨t.toList ++ (tokens.take (j + 1)).take (t.capacity - t.length), t.capacity⟩) := by
  induction tokens generalizing t j with
  | nil => exact absurd hj (Nat.not_lt_zero j)
  | cons token tokens ih =>
    rw [List.map_cons, history]
    rcases Nat.lt_or_ge t.length t.capacity with hroom | hfull
    · obtain ⟨room, hcapacity⟩ : ∃ room, t.capacity = t.length + 1 + room :=
        ⟨t.capacity - (t.length + 1), by omega⟩
      have hpush : (Operation.push token).apply t =
          (.truth true, ⟨t.toList ++ [token], t.capacity⟩) := (Effect.pushed hroom).apply_eq
      have hlength : (⟨t.toList ++ [token], t.capacity⟩ : Tokens).length = t.length + 1 := by
        simp [Tokens.length]
      have hleft : t.capacity - t.length = room + 1 := by omega
      rw [hpush, hleft]
      cases j with
      | zero => simp [hroom]
      | succ j =>
        have hrest := ih ⟨t.toList ++ [token], t.capacity⟩ (Nat.lt_of_succ_lt_succ hj)
        have hnext : t.capacity - (t.length + 1) = room := by omega
        rw [hlength, hnext] at hrest
        rw [List.getElem?_cons_succ, hrest, List.take_succ_cons, List.take_succ_cons,
          List.append_assoc, Nat.add_assoc, Nat.add_comm 1 j]
        rfl
    · have hpush : (Operation.push token).apply t = (.truth false, t) :=
        (Effect.refused hfull).apply_eq
      have hnone : t.capacity - t.length = 0 := by omega
      rw [hpush, hnone, List.take_zero, List.append_nil]
      cases j with
      | zero => simp [hfull]
      | succ j =>
        have hrest := ih t (Nat.lt_of_succ_lt_succ hj)
        rw [hnone, List.take_zero, List.append_nil] at hrest
        have hlater : ∀ i, decide (t.length + i < t.capacity) = false := by
          intro i
          rw [decide_eq_false_iff_not]
          omega
        rw [List.getElem?_cons_succ, hrest, hlater, hlater]

/-- **Bounded lists.** Any history takes the one course that a list with a bound can take, and
stays within the bound. Only cutting a line changes the bound, and looking changes nothing. A list
that was cut off takes tokens again, up to the bound. The name and the arguments make up the list.
An index that is found is one of the list, and its sum fits a machine word. Sequences are equal
when their lists and bounds are. -/
theorem history_bounded (capacity : Nat) (ops : List Operation) :
    (∀ steps, Effects (Tokens.empty capacity) ops steps ↔
        steps = history (Tokens.empty capacity) ops) ∧
      (∀ step ∈ history (Tokens.empty capacity) ops, step.2.length ≤ step.2.capacity) ∧
      ∀ t : Tokens,
        (∀ op : Operation, (∀ line room, op ≠ .split line room) →
          (op.apply t).2.capacity = t.capacity) ∧
        (∀ op : Operation, op.isRead = true → (op.apply t).2 = t) ∧
        (∀ (index : Nat) (tokens : List String) (j : Nat), j < tokens.length →
          (history (t.truncate index) (tokens.map .push))[j]? =
            some (.truth (decide (min index t.length + j < t.capacity)),
              ⟨t.toList.take index ++
                (tokens.take (j + 1)).take (t.capacity - min index t.length), t.capacity⟩)) ∧
        (t.name? = t.get? 0 ∧ t.toList = t.name?.toList ++ t.arguments) ∧
        (∀ start token index, t.position start token = some index → index < t.length) ∧
        (∀ start token, t.length ≤ 2 ^ 64 →
          (t.wordPosition start token).map UInt64.toNat = t.position start.toNat token) ∧
        ∀ t' : Tokens, t = t' ↔ t.toList = t'.toList ∧ t.capacity = t'.capacity := by
  refine ⟨fun steps => effects_iff, fits_history (Tokens.fits_empty capacity) ops, fun t => ?_⟩
  refine ⟨fun op hop => (effect_apply t op).capacity_eq hop,
    fun op hop => (effect_apply t op).eq_of_isRead hop, ?_, ⟨rfl, ?_⟩,
    fun start token index h => (Tokens.position_eq_some h).2.1,
    fun start token h => Tokens.wordPosition_eq h start token, ?_⟩
  · intro index tokens j hj
    have hlength : (t.truncate index).length = min index t.length := List.length_take
    have hpush := history_push (t.truncate index) hj
    rw [hlength] at hpush
    exact hpush
  · rw [Tokens.name?, Tokens.get?, Tokens.arguments]
    cases t.toList <;> rfl
  · intro t'
    constructor
    · rintro rfl
      exact ⟨rfl, rfl⟩
    · rintro ⟨htokens, hcapacity⟩
      cases t
      cases t'
      cases htokens
      cases hcapacity
      rfl

/-- A full sequence refuses a token, is cut off and takes one again, but not two. -/
theorem history_bounded_of_refill :
    let ops : List Operation := [.push "a", .push ">", .push "b", .truncate 1, .push "c"]
    let t : Tokens := ⟨["a", ">"], 2⟩
    (.truth false, t) ∈ history (Tokens.empty 2) ops ∧ t.length ≤ t.capacity ∧
      ((Operation.truncate 1).apply t).2.capacity = 2 ∧
      ((Operation.position 0 ">").apply t).2 = t ∧
      (history (t.truncate 1) (["c", "d"].map .push))[1]? =
        some (.truth false, ⟨["a", "c"], 2⟩) ∧
      t.position 1 ">" = some 1 ∧ 1 < t.length ∧
      (t.wordPosition 18446744073709551615 ">").map UInt64.toNat =
        t.position 18446744073709551615 ">" := by
  intro ops t
  have h := history_bounded 2 ops
  have hmem : (Answer.truth false, t) ∈ history (Tokens.empty 2) ops :=
    List.mem_cons_of_mem _ (List.mem_cons_of_mem _ List.mem_cons_self)
  have hfound : t.position 1 ">" = some 1 := by decide
  obtain ⟨hcapacity, hread, hrefill, -, hindex, hword, -⟩ := h.2.2 t
  exact ⟨hmem, h.2.1 _ hmem, hcapacity (.truncate 1) (by simp), hread (.position 0 ">") rfl,
    hrefill 1 ["c", "d"] 1 (by decide), hfound, hindex _ _ _ hfound,
    hword 18446744073709551615 ">" (by decide)⟩

end Operation

end MiniShell
