import Mathlib.Tactic.Common
import MiniShell.Proofs.Text.Runs

/-!
# Where the runs of a list stand

What the runs of a list are, said without cutting it. A list spaces words out when it consists of
the words and of separators in front of them, behind them and at least one between neighbours
(`Spaced`). A maximal run is an interval of the list that holds no separator and is bounded by
separators or by an end of the list (`IsMaximalRun`).

1. A list spaces out its runs and no other words (`runs_eq_iff`).
2. The maximal runs of a list lie one behind the other, and its runs are what stands in them
   (`exists_spans`).
-/

namespace MiniShell

variable {α : Type} {p : α → Bool}

/-! ## Words with separators around them -/

/-- What can be a run: something without separators. -/
structure IsWord (p : α → Bool) (word : List α) : Prop where
  ne_nil : word ≠ []
  not_separator : ∀ a ∈ word, p a = false

/-- The list consists of the words, in order, and of separators around them, at least one between
two words. -/
inductive Spaced (p : α → Bool) : List (List α) → List α → Prop where
  /-- There is no word. -/
  | blank {gap : List α} (hgap : ∀ a ∈ gap, p a = true) : Spaced p [] gap
  /-- The list ends with its last word. -/
  | last {gap : List α} (hgap : ∀ a ∈ gap, p a = true) (word : List α) :
      Spaced p [word] (gap ++ word)
  /-- A separator stands behind the first word. -/
  | word {gap : List α} (hgap : ∀ a ∈ gap, p a = true) (word : List α) {c : α}
      (hc : p c = true) {words : List (List α)} {rest : List α} (h : Spaced p words rest) :
      Spaced p (word :: words) (gap ++ word ++ c :: rest)

/-- One more separator in front changes nothing. -/
theorem Spaced.cons {words : List (List α)} {as : List α} (h : Spaced p words as) {c : α}
    (hc : p c = true) : Spaced p words (c :: as) := by
  have hcons : ∀ gap : List α, (∀ a ∈ gap, p a = true) → ∀ a ∈ c :: gap, p a = true := by
    intro gap hgap a ha
    rcases List.mem_cons.mp ha with rfl | ha
    · exact hc
    · exact hgap a ha
  cases h with
  | blank hgap => exact .blank (hcons _ hgap)
  | last hgap word => exact .last (hcons _ hgap) word
  | word hgap word hd h => exact .word (hcons _ hgap) word hd h

/-- Every list spaces out its runs. -/
theorem spaced_runs [DecidableEq α] (p : α → Bool) (as : List α) : Spaced p (runs p as) as := by
  have hnil : ∀ a ∈ ([] : List α), p a = true := by simp
  induction as using cut_induction p with
  | word word hword =>
    rw [runs_of_forall_not hword]
    split_ifs with hempty
    · rw [hempty]
      exact .blank hnil
    · exact .last hnil word
  | append word c rest hword hc ih =>
    rw [runs_append_cons hc, runs_of_forall_not hword]
    split_ifs with hempty
    · rw [hempty]
      exact ih.cons hc
    · exact .word hnil word hc ih

theorem isWord_of_mem_runs [DecidableEq α] {word as : List α} (h : word ∈ runs p as) :
    IsWord p word where
  ne_nil := by
    rw [runs_eq_splitOnP] at h
    simpa using (List.mem_filter.mp h).2
  not_separator := by
    intro a ha
    have hmem : a ∈ (runs p as).flatten := List.mem_flatten.mpr ⟨word, h, ha⟩
    rw [flatten_runs] at hmem
    simpa using (List.mem_filter.mp hmem).2

theorem runs_of_blank {gap : List α} (h : ∀ a ∈ gap, p a = true) : runs p gap = [] := by
  induction gap with
  | nil => rfl
  | cons a gap ih =>
    have hcut := runs_append_cons (h a List.mem_cons_self) [] gap
    rw [List.nil_append, runs_nil, List.nil_append] at hcut
    rw [hcut, ih fun b hb => h b (List.mem_cons_of_mem a hb)]

theorem runs_gap_append_word [DecidableEq α] {gap word : List α} (hgap : ∀ a ∈ gap, p a = true)
    (hword : IsWord p word) : runs p (gap ++ word) = [word] := by
  have hlast : ∀ a ∈ gap.getLast?, p a = true := fun a ha => hgap a (List.mem_of_getLast? ha)
  rw [runs_append_of_getLast hlast, runs_of_blank hgap, runs_of_forall_not hword.not_separator,
    if_neg hword.ne_nil, List.nil_append]

theorem Spaced.runs_eq [DecidableEq α] {words : List (List α)} {as : List α}
    (h : Spaced p words as) (hwords : ∀ word ∈ words, IsWord p word) : runs p as = words := by
  induction h with
  | blank hgap => exact runs_of_blank hgap
  | last hgap word => exact runs_gap_append_word hgap (hwords word List.mem_cons_self)
  | word hgap word hc h ih =>
    rw [runs_append_cons hc, runs_gap_append_word hgap (hwords word List.mem_cons_self),
      ih fun other hother => hwords other (List.mem_cons_of_mem word hother)]
    rfl

/-- A list spaces out its runs, and no other words. -/
theorem runs_eq_iff [DecidableEq α] {words : List (List α)} {as : List α} :
    runs p as = words ↔ Spaced p words as ∧ ∀ word ∈ words, IsWord p word := by
  constructor
  · rintro rfl
    exact ⟨spaced_runs p as, fun word hword => isWord_of_mem_runs hword⟩
  · rintro ⟨h, hwords⟩
    exact h.runs_eq hwords

/-! ## Maximal runs -/

/-- The interval from `start` up to `stop` holds something, but no separator, and next to it on
either side is a separator or nothing. -/
structure IsMaximalRun (p : α → Bool) (as : List α) (start stop : Nat) : Prop where
  lt : start < stop
  le : stop ≤ as.length
  inside : ∀ i, start ≤ i → i < stop → ∀ a ∈ as[i]?, p a = false
  before : ∀ i, i + 1 = start → ∀ a ∈ as[i]?, p a = true
  after : ∀ a ∈ as[stop]?, p a = true

section Maximal

variable {start stop : Nat}

theorem not_isMaximalRun_of_blank {gap : List α} (hgap : ∀ a ∈ gap, p a = true) :
    ¬ IsMaximalRun p gap start stop := by
  intro h
  have hlt : start < gap.length := Nat.lt_of_lt_of_le h.lt h.le
  have hfalse := h.inside start (Nat.le_refl _) h.lt _ (List.getElem?_eq_getElem hlt)
  rw [hgap _ (List.getElem_mem hlt)] at hfalse
  cases hfalse

theorem isMaximalRun_gap_append_word {gap word : List α} (hgap : ∀ a ∈ gap, p a = true)
    (hword : IsWord p word) :
    IsMaximalRun p (gap ++ word) start stop ↔
      start = gap.length ∧ stop = gap.length + word.length := by
  have hin : ∀ i, i < gap.length → ∃ a, (gap ++ word)[i]? = some a ∧ p a = true := by
    intro i hi
    refine ⟨gap[i], ?_, hgap _ (List.getElem_mem hi)⟩
    rw [List.getElem?_append_left hi, List.getElem?_eq_getElem hi]
  have hout : ∀ i, gap.length ≤ i → ∀ a ∈ (gap ++ word)[i]?, p a = false := by
    intro i hi a ha
    rw [List.getElem?_append_right hi] at ha
    exact hword.not_separator a (List.mem_of_getElem? ha)
  constructor
  · intro h
    have hle := h.le
    have hlt := h.lt
    rw [List.length_append] at hle
    have hstart : gap.length ≤ start := by
      by_contra hcon
      obtain ⟨a, ha, hsep⟩ := hin start (by omega)
      rw [h.inside start (Nat.le_refl _) hlt a ha] at hsep
      cases hsep
    -- In front of a later start, or at an earlier stop, stands a part of the word.
    have hexists : ∀ i, i < gap.length + word.length → ∃ a, (gap ++ word)[i]? = some a := by
      intro i hi
      exact ⟨_, List.getElem?_eq_getElem (by rw [List.length_append]; exact hi)⟩
    refine ⟨?_, ?_⟩
    · by_contra hcon
      obtain ⟨i, rfl⟩ : ∃ i, start = i + 1 := ⟨start - 1, by omega⟩
      obtain ⟨a, ha⟩ := hexists i (by omega)
      have hsep := h.before i rfl a ha
      rw [hout i (by omega) a ha] at hsep
      cases hsep
    · by_contra hcon
      obtain ⟨a, ha⟩ := hexists stop (by omega)
      have hsep := h.after a ha
      rw [hout stop (by omega) a ha] at hsep
      cases hsep
  · rintro ⟨rfl, rfl⟩
    have hpos := List.length_pos_iff.mpr hword.ne_nil
    have hlength : (gap ++ word).length = gap.length + word.length := List.length_append
    refine ⟨by omega, Nat.le_of_eq hlength.symm, fun i hi _ => hout i hi, ?_, ?_⟩
    · intro i hi a ha
      obtain ⟨b, hb, hsep⟩ := hin i (by omega)
      rw [hb] at ha
      cases ha
      exact hsep
    · intro a ha
      rw [List.getElem?_eq_none (Nat.le_of_eq hlength)] at ha
      cases ha

end Maximal

/-! ## Cutting at a separator -/

section Cut

variable {start stop : Nat} (front rest : List α) {c : α}

theorem getElem?_behind (c : α) (i : Nat) :
    (front ++ c :: rest)[front.length + 1 + i]? = rest[i]? := by
  rw [List.getElem?_append_right (by omega),
    show front.length + 1 + i - front.length = i + 1 by omega, List.getElem?_cons_succ]

theorem getElem?_separator (c : α) : (front ++ c :: rest)[front.length]? = some c := by
  rw [List.getElem?_append_right (Nat.le_refl _), Nat.sub_self, List.getElem?_cons_zero]

variable (hc : p c = true)

include hc

/-- In front of a separator the list may as well end. -/
theorem isMaximalRun_in_front (hstop : stop ≤ front.length) :
    IsMaximalRun p (front ++ c :: rest) start stop ↔ IsMaximalRun p front start stop := by
  have hget : ∀ i, i < front.length → (front ++ c :: rest)[i]? = front[i]? :=
    fun i hi => List.getElem?_append_left hi
  constructor
  · intro h
    have hlt := h.lt
    refine ⟨hlt, hstop, ?_, ?_, ?_⟩
    · intro i hi hi' a ha
      exact h.inside i hi hi' a (hget i (by omega) ▸ ha)
    · intro i hi a ha
      exact h.before i hi a (hget i (by omega) ▸ ha)
    · intro a ha
      exact h.after a (hget stop (List.getElem?_eq_some_iff.mp ha).1 ▸ ha)
  · intro h
    have hlt := h.lt
    refine ⟨hlt, by rw [List.length_append]; omega, ?_, ?_, ?_⟩
    · intro i hi hi' a ha
      exact h.inside i hi hi' a (hget i (by omega) ▸ ha)
    · intro i hi a ha
      exact h.before i hi a (hget i (by omega) ▸ ha)
    · intro a ha
      rcases Nat.lt_or_eq_of_le hstop with hlt | rfl
      · exact h.after a (hget stop hlt ▸ ha)
      · rw [getElem?_separator] at ha
        cases ha
        exact hc

/-- Behind a separator the list may as well begin. -/
theorem isMaximalRun_behind :
    IsMaximalRun p (front ++ c :: rest) (front.length + 1 + start) (front.length + 1 + stop) ↔
      IsMaximalRun p rest start stop := by
  have hget := getElem?_behind front rest c
  have hlength : (front ++ c :: rest).length = front.length + 1 + rest.length := by
    rw [List.length_append, List.length_cons]
    omega
  constructor
  · intro h
    have hlt := h.lt
    have hle := h.le
    refine ⟨by omega, by omega, ?_, ?_, ?_⟩
    · intro i hi hi' a ha
      exact h.inside (front.length + 1 + i) (by omega) (by omega) a ((hget i).trans ha)
    · intro i hi a ha
      exact h.before (front.length + 1 + i) (by omega) a ((hget i).trans ha)
    · intro a ha
      exact h.after a ((hget stop).trans ha)
  · intro h
    have hlt := h.lt
    have hle := h.le
    refine ⟨by omega, by omega, ?_, ?_, ?_⟩
    · intro i hi hi' a ha
      obtain ⟨j, rfl⟩ : ∃ j, i = front.length + 1 + j := ⟨i - (front.length + 1), by omega⟩
      exact h.inside j (by omega) (by omega) a ((hget j).symm.trans ha)
    · intro i hi a ha
      rcases Nat.eq_zero_or_pos start with rfl | hpos
      · -- Only the separator stands between the two sides.
        obtain rfl : i = front.length := by omega
        rw [getElem?_separator] at ha
        cases ha
        exact hc
      · obtain ⟨j, rfl⟩ : ∃ j, i = front.length + 1 + j := ⟨i - (front.length + 1), by omega⟩
        exact h.before j (by omega) a ((hget j).symm.trans ha)
    · intro a ha
      exact h.after a ((hget stop).symm.trans ha)

/-- A separator lies in no maximal run, and the two sides of it have their own. -/
theorem isMaximalRun_append_cons :
    IsMaximalRun p (front ++ c :: rest) start stop ↔
      IsMaximalRun p front start stop ∨
        ∃ first last, IsMaximalRun p rest first last ∧
          start = front.length + 1 + first ∧ stop = front.length + 1 + last := by
  constructor
  · intro h
    have hlt := h.lt
    rcases Nat.lt_or_ge front.length stop with hstop | hstop
    · rcases Nat.lt_or_ge front.length start with hstart | hstart
      · obtain ⟨first, rfl⟩ : ∃ first, start = front.length + 1 + first :=
          ⟨start - (front.length + 1), by omega⟩
        obtain ⟨last, rfl⟩ : ∃ last, stop = front.length + 1 + last :=
          ⟨stop - (front.length + 1), by omega⟩
        exact .inr ⟨first, last, (isMaximalRun_behind front rest hc).mp h, rfl, rfl⟩
      · have hfalse := h.inside _ hstart hstop c (getElem?_separator front rest c)
        rw [hc] at hfalse
        cases hfalse
    · exact .inl ((isMaximalRun_in_front front rest hc hstop).mp h)
  · rintro (h | ⟨first, last, h, rfl, rfl⟩)
    · exact (isMaximalRun_in_front front rest hc h.le).mpr h
    · exact (isMaximalRun_behind front rest hc).mpr h

end Cut

/-! ## The maximal runs in order -/

theorem extract_gap_append_word (gap word rest : List α) :
    (gap ++ word ++ rest).extract gap.length (gap.length + word.length) = word := by
  simp [List.extract_eq_take_drop]

theorem extract_behind (front rest : List α) (c : α) (first last : Nat) :
    (front ++ c :: rest).extract (front.length + 1 + first) (front.length + 1 + last) =
      rest.extract first last := by
  have hdrop : (front ++ c :: rest).drop (front.length + 1 + first) = rest.drop first := by
    rw [Nat.add_assoc, ← List.drop_drop, List.drop_left, Nat.add_comm, List.drop_succ_cons]
  rw [List.extract_eq_take_drop, List.extract_eq_take_drop, hdrop, Nat.add_sub_add_left]

/-- The maximal runs of a list that spaces words out hold the words. -/
theorem Spaced.exists_spans {words : List (List α)} {as : List α} (h : Spaced p words as)
    (hwords : ∀ word ∈ words, IsWord p word) :
    ∃ spans : List (Nat × Nat), spans.Pairwise (fun span next => span.2 < next.1) ∧
      (∀ start stop, (start, stop) ∈ spans ↔ IsMaximalRun p as start stop) ∧
      spans.map (fun span => as.extract span.1 span.2) = words := by
  induction h with
  | blank hgap =>
    refine ⟨[], List.Pairwise.nil, ?_, rfl⟩
    intro start stop
    exact iff_of_false List.not_mem_nil (not_isMaximalRun_of_blank hgap)
  | @last gap hgap word =>
    have hword := hwords word List.mem_cons_self
    refine ⟨[(gap.length, gap.length + word.length)], List.pairwise_singleton _ _, ?_, ?_⟩
    · intro start stop
      rw [isMaximalRun_gap_append_word hgap hword, List.mem_singleton, Prod.mk.injEq]
    · have hextract := extract_gap_append_word gap word []
      rw [List.append_nil] at hextract
      rw [List.map_singleton, hextract]
  | @word gap hgap word c hc words rest h ih =>
    have hword := hwords word List.mem_cons_self
    obtain ⟨spans, hordered, hspans, hmap⟩ :=
      ih fun other hother => hwords other (List.mem_cons_of_mem word hother)
    let front := gap ++ word
    have hlength : front.length = gap.length + word.length := List.length_append
    let behind : Nat × Nat → Nat × Nat :=
      fun span => (front.length + 1 + span.1, front.length + 1 + span.2)
    refine ⟨(gap.length, gap.length + word.length) :: spans.map behind, ?_, ?_, ?_⟩
    · apply List.Pairwise.cons
      · intro next hnext
        obtain ⟨span, -, rfl⟩ := List.mem_map.mp hnext
        show gap.length + word.length < front.length + 1 + span.1
        omega
      · rw [List.pairwise_map]
        refine hordered.imp ?_
        intro span next hlt
        show front.length + 1 + span.2 < front.length + 1 + next.1
        omega
    · intro start stop
      rw [isMaximalRun_append_cons (gap ++ word) rest hc, isMaximalRun_gap_append_word hgap hword,
        List.mem_cons, Prod.mk.injEq]
      apply or_congr_right
      constructor
      · intro hmem
        obtain ⟨⟨first, last⟩, hspan, heq⟩ := List.mem_map.mp hmem
        obtain ⟨rfl, rfl⟩ := Prod.mk.inj heq
        exact ⟨first, last, (hspans first last).mp hspan, rfl, rfl⟩
      · rintro ⟨first, last, hrun, rfl, rfl⟩
        exact List.mem_map.mpr ⟨(first, last), (hspans first last).mpr hrun, rfl⟩
    · rw [List.map_cons, extract_gap_append_word, List.map_map, ← hmap]
      apply congrArg (word :: ·)
      apply List.map_congr_left
      intro span _
      exact extract_behind (gap ++ word) rest c span.1 span.2

/-- **Maximal runs.** The maximal runs of a list lie one behind the other, and what stands in them
are the runs of the list. -/
theorem exists_spans [DecidableEq α] (p : α → Bool) (as : List α) :
    ∃ spans : List (Nat × Nat), spans.Pairwise (fun span next => span.2 < next.1) ∧
      (∀ start stop, (start, stop) ∈ spans ↔ IsMaximalRun p as start stop) ∧
      spans.map (fun span => as.extract span.1 span.2) = runs p as :=
  (spaced_runs p as).exists_spans fun _ hword => isWord_of_mem_runs hword

end MiniShell
