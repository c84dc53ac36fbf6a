import MiniShell.Proofs.Text.Spans
import MiniShell.Proofs.Tokens.Grammar

/-!
# Lines and their tokens

The tokens of a line are the first of its maximal runs of characters that are no separators
(`ofLine_firstRuns`), and two laws say which function of the line that is: a word is one token, and
a separator parts what is before it from what is behind it (`cutsAtSeparators_iff`). A bound is a
number, however large: that there is memory for so many tokens is taken for granted.

Written out with separators between them, tokens are the tokens of the text (`ofLine_of_spaced`).
So a sequence that was cut from a line is known from the way it is displayed
(`display_roundTrip`).
-/

namespace MiniShell

/-! ## Tokens and words -/

theorem isSeparator_iff {c : Char} : isSeparator c = true ↔ c = ' ' ∨ c = '\t' ∨ c = '\n' := by
  simp [isSeparator, separators]

/-- What can be a token: it is not empty, and holds no blank, tab or newline. -/
structure IsToken (token : String) : Prop where
  ne_empty : token ≠ ""
  no_blank : ' ' ∉ token.toList
  no_tab : '\t' ∉ token.toList
  no_newline : '\n' ∉ token.toList

theorem isToken_iff {token : String} : IsToken token ↔ IsWord isSeparator token.toList := by
  constructor
  · intro h
    refine ⟨mt String.toList_eq_nil_iff.mp h.ne_empty, ?_⟩
    intro c hc
    rw [← Bool.not_eq_true, isSeparator_iff]
    rintro (rfl | rfl | rfl)
    · exact h.no_blank hc
    · exact h.no_tab hc
    · exact h.no_newline hc
  · intro h
    have hnot : ∀ c, isSeparator c = true → c ∉ token.toList := by
      intro c hc hmem
      rw [h.not_separator c hmem] at hc
      cases hc
    exact ⟨mt String.toList_eq_nil_iff.mpr h.ne_nil, hnot ' ' rfl, hnot '\t' rfl, hnot '\n' rfl⟩

theorem words_eq_iff_runs {line : String} {tokens : List String} :
    words line = tokens ↔ runs isSeparator line.toList = tokens.map String.toList := by
  constructor
  · rintro rfl
    rw [words, List.map_map]
    exact (List.map_id'' (fun _ => String.toList_ofList) _).symm
  · intro h
    rw [words, h, List.map_map]
    exact List.map_id'' (fun _ => String.ofList_toList) _

/-- The words of a text are the tokens that it spaces out. -/
theorem words_eq_iff {text : String} {tokens : List String} :
    words text = tokens ↔
      Spaced isSeparator (tokens.map String.toList) text.toList ∧
        ∀ token ∈ tokens, IsToken token := by
  rw [words_eq_iff_runs, runs_eq_iff, List.forall_mem_map]
  simp only [isToken_iff]

theorem isToken_of_mem_words {line token : String} (h : token ∈ words line) : IsToken token :=
  (words_eq_iff.mp rfl).2 token h

theorem words_eq_nil_iff {line : String} :
    words line = [] ↔ ∀ c ∈ line.toList, isSeparator c = true := by
  rw [words_eq_iff_runs, List.map_nil]
  constructor
  · intro h
    have hspaced := spaced_runs isSeparator line.toList
    rw [h] at hspaced
    cases hspaced with
    | blank hgap => exact hgap
  · exact runs_of_blank

theorem words_append {before after : String} {c : Char} (hc : isSeparator c = true) :
    words (before.push c ++ after) = words before ++ words after := by
  have hline : (before.push c ++ after).toList = before.toList ++ c :: after.toList := by simp
  rw [words, hline, runs_append_cons hc, List.map_append]
  rfl

theorem words_of_word {word : String} (h : ∀ c ∈ word.toList, isSeparator c = false) :
    words word = if word = "" then [] else [word] := by
  rw [words, runs_of_forall_not h]
  by_cases hnil : word = ""
  · rw [if_pos hnil, if_pos (String.toList_eq_nil_iff.mpr hnil)]
    rfl
  · rw [if_neg hnil, if_neg (mt String.toList_eq_nil_iff.mp hnil), List.map_singleton,
      String.ofList_toList]

/-! ## The laws of cutting -/

/-- What is left of a list behind its first `n` elements depends on how many these are. -/
theorem take_append_take {α : Type} (n : Nat) (as bs : List α) :
    (as ++ bs).take n = as.take n ++ bs.take (n - (as.take n).length) := by
  have hlength : n - (as.take n).length = n - as.length := by
    rw [List.length_take]
    omega
  rw [hlength, List.take_append]

/-- A function that cuts lines into so many words: a line without separators is a word, unless it
is empty, and at a separator the two sides are cut on their own, the second into the words for
which the first leaves room. -/
structure CutsAtSeparators (cut : String → Nat → List String) : Prop where
  word : ∀ word capacity, (∀ c ∈ word.toList, isSeparator c = false) →
    cut word capacity = (if word = "" then [] else [word]).take capacity
  append : ∀ before c after capacity, isSeparator c = true →
    cut (before.push c ++ after) capacity =
      cut before capacity ++ cut after (capacity - (cut before capacity).length)

theorem cutsAtSeparators_take :
    CutsAtSeparators fun line capacity => (words line).take capacity where
  word word capacity h := by rw [words_of_word h]
  append before c after capacity hc := by rw [words_append hc, take_append_take]

/-- The laws leave no choice. -/
theorem CutsAtSeparators.eq_take {cut : String → Nat → List String} (h : CutsAtSeparators cut)
    (chars : List Char) (capacity : Nat) :
    cut (String.ofList chars) capacity = (words (String.ofList chars)).take capacity := by
  induction chars using cut_induction isSeparator generalizing capacity with
  | word word hword =>
    rw [← String.toList_ofList (l := word)] at hword
    rw [h.word _ capacity hword, words_of_word hword]
  | append word c rest hword hc ih =>
    have hline : String.ofList (word ++ c :: rest) =
        (String.ofList word).push c ++ String.ofList rest := by
      rw [← String.toList_inj]
      simp
    rw [← String.toList_ofList (l := word)] at hword
    rw [hline, h.append _ c _ capacity hc, words_append hc, take_append_take, ih,
      h.word _ capacity hword, words_of_word hword]

namespace Tokens

theorem cutsAtSeparators_iff (cut : String → Nat → List String) :
    CutsAtSeparators cut ↔ ∀ line capacity, cut line capacity = (ofLine line capacity).toList := by
  constructor
  · intro h line capacity
    have hcut := h.eq_take line.toList capacity
    rw [String.ofList_toList] at hcut
    rw [hcut, toList_ofLine]
  · intro h
    have hcut : cut = fun line capacity => (words line).take capacity := by
      funext line capacity
      rw [h, toList_ofLine]
    rw [hcut]
    exact cutsAtSeparators_take

theorem ofLine_eq (line : String) (capacity : Nat) :
    ofLine line capacity = ⟨(words line).take capacity, capacity⟩ := by
  rw [ofLine, fill_eq]
  rfl

theorem isToken_of_mem_ofLine {line token : String} {capacity : Nat}
    (h : token ∈ (ofLine line capacity).toList) : IsToken token := by
  rw [toList_ofLine] at h
  exact isToken_of_mem_words (List.mem_of_mem_take h)

theorem length_ofLine_le (line : String) (capacity : Nat) :
    (ofLine line capacity).length ≤ capacity := by
  rw [length, toList_ofLine]
  exact List.length_take_le capacity (words line)

theorem isEmpty_ofLine {line : String} {capacity : Nat} :
    (ofLine line capacity).isEmpty = true ↔
      capacity = 0 ∨ ∀ c ∈ line.toList, isSeparator c = true := by
  rw [isEmpty, toList_ofLine, List.isEmpty_iff, List.take_eq_nil_iff, words_eq_nil_iff]

/-- **Tokens.** The tokens of a line are its maximal runs of characters other than separators, in
order, as many of them as the capacity allows. None is empty or has a separator in it. At a
separator the line may as well be cut in two, and there are no tokens only if there is no room for
any or nothing but separators. Whether words are offered after the first that is refused plays no
part. The laws of cutting hold of no other function of the line. -/
theorem ofLine_firstRuns (line : String) (capacity : Nat) :
    (ofLine line capacity).capacity = capacity ∧
      (∃ spans : List (Nat × Nat), spans.Pairwise (fun span next => span.2 < next.1) ∧
        (∀ start stop,
          (start, stop) ∈ spans ↔ IsMaximalRun isSeparator line.toList start stop) ∧
        (ofLine line capacity).toList = (spans.take capacity).map fun span =>
          String.ofList (line.toList.extract span.1 span.2)) ∧
      (∀ token ∈ (ofLine line capacity).toList, IsToken token) ∧
      (∀ c, isSeparator c = true ↔ c = ' ' ∨ c = '\t' ∨ c = '\n') ∧
      (∀ before c after, isSeparator c = true → line = before.push c ++ after →
        (ofLine line capacity).toList = (ofLine before capacity).toList ++
          (ofLine after (capacity - (ofLine before capacity).length)).toList) ∧
      ((ofLine line capacity).isEmpty = true ↔
        capacity = 0 ∨ ∀ c ∈ line.toList, isSeparator c = true) ∧
      (empty capacity).offer (((line.toList.splitOnP isSeparator).filter (· ≠ [])).map
        String.ofList) = ofLine line capacity ∧
      ∀ cut, CutsAtSeparators cut ↔
        ∀ line capacity, cut line capacity = (ofLine line capacity).toList := by
  refine ⟨capacity_ofLine line capacity, ?_, fun token htoken => isToken_of_mem_ofLine htoken,
    fun c => isSeparator_iff, ?_, isEmpty_ofLine, ?_, cutsAtSeparators_iff⟩
  · obtain ⟨spans, hordered, hspans, hruns⟩ := exists_spans isSeparator line.toList
    refine ⟨spans, hordered, hspans, ?_⟩
    rw [toList_ofLine, words, ← hruns, List.map_map, List.map_take]
    rfl
  · rintro before c after hc rfl
    exact ((cutsAtSeparators_iff _).mpr fun _ _ => rfl).append before c after capacity hc
  · rw [offer_empty_eq, ← runs_eq_splitOnP, ofLine_eq]
    rfl

/-- Separators of all three kinds, other blank characters that are none, and a run more than there
is room for. -/
theorem ofLine_firstRuns_of_unicode :
    let line := " a\u00A0b\t\t\rc\u0000\n d"
    (ofLine line 2).toList = ["a\u00A0b", "\rc\u0000"] ∧ IsToken "\rc\u0000" ∧
      isSeparator '\t' = true ∧ line = " a\u00A0b".push '\t' ++ "\t\rc\u0000\n d" ∧
      (ofLine line 2).toList = (ofLine " a\u00A0b" 2).toList ++
        (ofLine "\t\rc\u0000\n d" (2 - (ofLine " a\u00A0b" 2).length)).toList := by
  intro line
  have h := ofLine_firstRuns line 2
  have htokens : (ofLine line 2).toList = ["a\u00A0b", "\rc\u0000"] := by decide +kernel
  have hmem : "\rc\u0000" ∈ (ofLine line 2).toList := by
    rw [htokens]
    decide
  have hline : line = " a\u00A0b".push '\t' ++ "\t\rc\u0000\n d" := by decide +kernel
  exact ⟨htokens, h.2.2.1 _ hmem, rfl, hline, h.2.2.2.2.1 _ '\t' _ rfl hline⟩

/-! ## Displayed sequences -/

/-- One blank between neighbours is a way to space tokens out. -/
theorem spaced_intercalate (tokens : List String) :
    Spaced isSeparator (tokens.map String.toList) (" ".intercalate tokens).toList := by
  have hnil : ∀ c ∈ ([] : List Char), isSeparator c = true := by simp
  induction tokens with
  | nil => exact .blank hnil
  | cons token tokens ih =>
    cases tokens with
    | nil =>
      rw [String.intercalate_singleton]
      exact .last hnil token.toList
    | cons next tokens =>
      have hblank : isSeparator ' ' = true := rfl
      have hcons := Spaced.word hnil token.toList hblank ih
      rw [String.intercalate_cons_cons, String.toList_append, String.toList_append,
        List.append_assoc]
      exact hcons

/-- Tokens are read off a text that spaces them out, if there is room for all. -/
theorem ofLine_of_spaced {tokens : List String} {text : String} {capacity : Nat}
    (htokens : ∀ token ∈ tokens, IsToken token) (hcapacity : tokens.length ≤ capacity)
    (h : Spaced isSeparator (tokens.map String.toList) text.toList) :
    ofLine text capacity = ⟨tokens, capacity⟩ := by
  rw [ofLine_eq, words_eq_iff.mpr ⟨h, htokens⟩, List.take_of_length_le hcapacity]

theorem ofLine_display {t : Tokens} (htokens : ∀ token ∈ t.toList, IsToken token)
    {capacity : Nat} (hcapacity : t.length ≤ capacity) :
    ofLine t.display capacity = ⟨t.toList, capacity⟩ :=
  ofLine_of_spaced htokens hcapacity (spaced_intercalate t.toList)

/-- Cutting a displayed sequence gives the sequence, if it was cut from a line. -/
theorem ofLine_display_ofLine (line : String) (capacity : Nat) :
    ofLine (ofLine line capacity).display capacity = ofLine line capacity := by
  have htokens : ∀ token ∈ (ofLine line capacity).toList, IsToken token :=
    fun token htoken => isToken_of_mem_ofLine htoken
  rw [ofLine_display htokens (length_ofLine_le line capacity), toList_ofLine, ofLine_eq]

/-- **Display.** Tokens that are spaced out in a text, whatever the separators, are the tokens of
the text if there is room for them, and one blank between neighbours will do. So cutting a
displayed sequence gives it back, and lines have the same tokens when these are displayed alike. -/
theorem display_roundTrip :
    (∀ (tokens : List String) (capacity : Nat), (∀ token ∈ tokens, IsToken token) →
        tokens.length ≤ capacity →
        (∀ text : String, Spaced isSeparator (tokens.map String.toList) text.toList →
          ofLine text capacity = ⟨tokens, capacity⟩) ∧
        ∀ t : Tokens, t.toList = tokens → ofLine t.display capacity = ⟨tokens, capacity⟩) ∧
      (∀ line capacity, ofLine (ofLine line capacity).display capacity = ofLine line capacity) ∧
      ∀ line line' capacity,
        (ofLine line capacity).toList = (ofLine line' capacity).toList ↔
          (ofLine line capacity).display = (ofLine line' capacity).display := by
  refine ⟨?_, ofLine_display_ofLine, ?_⟩
  · intro tokens capacity htokens hcapacity
    refine ⟨fun text h => ofLine_of_spaced htokens hcapacity h, ?_⟩
    rintro t rfl
    exact ofLine_display htokens hcapacity
  · intro line line' capacity
    constructor
    · intro h
      rw [display, display, h]
    · intro h
      rw [← ofLine_display_ofLine line, h, ofLine_display_ofLine]

/-- Two tokens with all kinds of separators around them, one of which has a blank character that is
no separator. -/
theorem display_roundTrip_of_two :
    (∀ token ∈ ["a", "\rb\u2003"], IsToken token) ∧ ["a", "\rb\u2003"].length ≤ 2 ∧
      Spaced isSeparator (["a", "\rb\u2003"].map String.toList) "\n\ta \n\rb\u2003 ".toList ∧
      ofLine "\n\ta \n\rb\u2003 " 2 = ⟨["a", "\rb\u2003"], 2⟩ ∧
      ofLine "a \rb\u2003" 2 = ⟨["a", "\rb\u2003"], 2⟩ := by
  have htokens : ∀ token ∈ ["a", "\rb\u2003"], IsToken token := by
    intro token htoken
    rcases List.mem_cons.mp htoken with rfl | htoken
    · exact ⟨by decide, by decide, by decide, by decide⟩
    · rw [List.mem_singleton.mp htoken]
      exact ⟨by decide, by decide, by decide, by decide⟩
  have hspaced : Spaced isSeparator (["a", "\rb\u2003"].map String.toList)
      "\n\ta \n\rb\u2003 ".toList := by
    have hfront : ∀ c ∈ ['\n', '\t'], isSeparator c = true := by simp [isSeparator_iff]
    have hgap : ∀ c ∈ ['\n'], isSeparator c = true := by simp [isSeparator_iff]
    have hblank : isSeparator ' ' = true := rfl
    have hend : Spaced isSeparator [] [] := .blank (by simp)
    exact .word hfront "a".toList hblank (.word hgap "\rb\u2003".toList hblank hend)
  have h := display_roundTrip.1 ["a", "\rb\u2003"] 2 htokens (by decide)
  exact ⟨htokens, by decide, hspaced, h.1 _ hspaced, h.2 ⟨["a", "\rb\u2003"], 5⟩ rfl⟩

end Tokens

end MiniShell
