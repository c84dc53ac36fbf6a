import MiniShell.Proofs.Input.Delivery
import MiniShell.Proofs.Text.Encoding

/-!
# Lines that are cut

The limit of a line counts bytes, and what is delivered is a text. Of a line that is a text and too
long, the characters that fit are kept (`fitting`), and a character that the limit goes through
(`Cuts`) leaves one replacement behind, wherever it is cut (`reads_take_of_cuts`).

`readLine_cut` says what is delivered of the next line, whatever its bytes are. That there is memory
for as many bytes as the limit allows is taken for granted.
-/

namespace MiniShell

open String (utf8EncodeChar)

/-! ## Characters that fit -/

/-- The number of bytes of characters. -/
def byteLength (chars : List Char) : Nat := (chars.flatMap utf8EncodeChar).length

theorem byteLength_cons (c : Char) (chars : List Char) :
    byteLength (c :: chars) = (utf8EncodeChar c).length + byteLength chars := by
  rw [byteLength, List.flatMap_cons, List.length_append]
  rfl

/-- The first characters, as long as there is room for all their bytes. -/
def fitting : Nat → List Char → List Char
  | _, [] => []
  | room, c :: chars =>
    if (utf8EncodeChar c).length ≤ room then
      c :: fitting (room - (utf8EncodeChar c).length) chars
    else []

/-- The characters `kept` are the longest start of `chars` that has no more than `limit` bytes. -/
structure IsLongestFit (limit : Nat) (chars kept : List Char) : Prop where
  isPrefix : kept <+: chars
  fits : byteLength kept ≤ limit
  longest : ∀ other, other <+: chars → byteLength other ≤ limit → other <+: kept

theorem isLongestFit_fitting (limit : Nat) (chars : List Char) :
    IsLongestFit limit chars (fitting limit chars) := by
  induction chars generalizing limit with
  | nil => exact ⟨List.prefix_refl [], Nat.zero_le limit, fun other h _ => h⟩
  | cons c chars ih =>
    by_cases hc : (utf8EncodeChar c).length ≤ limit
    · have hrest := ih (limit - (utf8EncodeChar c).length)
      rw [fitting, if_pos hc]
      refine ⟨(List.prefix_cons_inj c).mpr hrest.isPrefix, ?_, ?_⟩
      · have := hrest.fits
        rw [byteLength_cons]
        omega
      · intro other hother hlength
        rcases other with _ | ⟨d, other⟩
        · exact List.nil_prefix
        · obtain ⟨rfl, hstart⟩ := List.cons_prefix_cons.mp hother
          rw [byteLength_cons] at hlength
          exact (List.prefix_cons_inj d).mpr (hrest.longest other hstart (by omega))
    · rw [fitting, if_neg hc]
      refine ⟨List.nil_prefix, Nat.zero_le limit, ?_⟩
      intro other hother hlength
      rcases other with _ | ⟨d, other⟩
      · exact List.nil_prefix
      · obtain ⟨rfl, -⟩ := List.cons_prefix_cons.mp hother
        rw [byteLength_cons] at hlength
        omega

/-! ## The character at the limit -/

/-- The limit goes through a character: some of its bytes are within the limit and some are not. -/
def Cuts (limit : Nat) (chars : List Char) : Prop :=
  ∃ front c back, chars = front ++ c :: back ∧ byteLength front < limit ∧
    limit < byteLength (front ++ [c])

section Cuts

variable {limit : Nat} {c : Char} {chars : List Char}

theorem not_cuts_nil : ¬ Cuts limit [] := by
  rintro ⟨front, c, back, h, -⟩
  exact absurd h.symm (List.append_ne_nil_of_right_ne_nil front (List.cons_ne_nil c back))

theorem cuts_cons_of_le (hc : (utf8EncodeChar c).length ≤ limit) :
    Cuts limit (c :: chars) ↔ Cuts (limit - (utf8EncodeChar c).length) chars := by
  constructor
  · rintro ⟨front, d, back, h, hfront, hlimit⟩
    rcases front with _ | ⟨b, front⟩
    · obtain ⟨rfl, rfl⟩ := List.cons.inj h
      rw [List.nil_append, byteLength_cons] at hlimit
      have : byteLength [] = 0 := rfl
      omega
    · obtain ⟨rfl, rfl⟩ := List.cons.inj h
      rw [List.cons_append, byteLength_cons] at hlimit
      rw [byteLength_cons] at hfront
      exact ⟨front, d, back, rfl, by omega, by omega⟩
  · rintro ⟨front, d, back, rfl, hfront, hlimit⟩
    refine ⟨c :: front, d, back, rfl, ?_, ?_⟩
    · rw [byteLength_cons]
      omega
    · rw [List.cons_append, byteLength_cons]
      omega

theorem cuts_cons_of_lt (hc : limit < (utf8EncodeChar c).length) :
    Cuts limit (c :: chars) ↔ 0 < limit := by
  constructor
  · rintro ⟨front, d, back, -, hfront, -⟩
    exact Nat.zero_lt_of_lt hfront
  · intro hpos
    refine ⟨[], c, chars, rfl, hpos, ?_⟩
    rw [List.nil_append, byteLength_cons]
    exact Nat.lt_of_lt_of_le hc (Nat.le_add_right _ _)

end Cuts

/-! ## The text of a cut -/

/-- A part of an encoding, with nothing behind it, is broken as a whole. -/
theorem broken_of_proper {part : Bytes} {c : Char} (hne : part ≠ [])
    (hpart : part <+: utf8EncodeChar c) (hproper : part.length < (utf8EncodeChar c).length) :
    Broken part [] where
  ne_nil := hne
  no_char d hd := by
    rw [List.append_nil] at hd
    obtain ⟨rest, hrest⟩ := hd.trans hpart
    rw [← List.append_nil (utf8EncodeChar c)] at hrest
    obtain ⟨rfl, -⟩ := encode_append_inj hrest
    have := hd.length_le
    omega
  starts := .inr ⟨c, hpart⟩
  longest longer d hlonger _ := by
    rw [List.append_nil] at hlonger
    exact hlonger.length_le

section Take

variable {limit : Nat} {chars : List Char}

theorem take_encode_of_le {c : Char} (hc : (utf8EncodeChar c).length ≤ limit) :
    ((c :: chars).flatMap utf8EncodeChar).take limit =
      utf8EncodeChar c ++
        (chars.flatMap utf8EncodeChar).take (limit - (utf8EncodeChar c).length) := by
  rw [List.flatMap_cons, List.take_append, List.take_of_length_le hc]

theorem take_encode_of_lt {c : Char} (hc : limit < (utf8EncodeChar c).length) :
    ((c :: chars).flatMap utf8EncodeChar).take limit = (utf8EncodeChar c).take limit := by
  rw [List.flatMap_cons, List.take_append_of_le_length (Nat.le_of_lt hc)]

/-- A character that is cut reads as one replacement, wherever it is cut. -/
theorem reads_take_of_cuts (h : Cuts limit chars) :
    Reads ((chars.flatMap utf8EncodeChar).take limit) (fitting limit chars ++ [replacement]) := by
  induction chars generalizing limit with
  | nil => exact absurd h not_cuts_nil
  | cons c chars ih =>
    by_cases hc : (utf8EncodeChar c).length ≤ limit
    · rw [take_encode_of_le hc, fitting, if_pos hc]
      exact .char c (ih ((cuts_cons_of_le hc).mp h))
    · have hlt : limit < (utf8EncodeChar c).length := Nat.lt_of_not_le hc
      have hpos : 0 < limit := (cuts_cons_of_lt hlt).mp h
      have hlength : ((utf8EncodeChar c).take limit).length = limit := by
        rw [List.length_take]
        omega
      have hbroken : Broken ((utf8EncodeChar c).take limit) [] := by
        apply broken_of_proper
        · exact List.length_pos_iff.mp (by omega)
        · exact List.take_prefix limit _
        · omega
      have hreads := Reads.broken hbroken .nil
      rw [List.append_nil] at hreads
      rw [take_encode_of_lt hlt, fitting, if_neg hc]
      exact hreads

theorem reads_take_of_not_cuts (h : ¬ Cuts limit chars) :
    Reads ((chars.flatMap utf8EncodeChar).take limit) (fitting limit chars) := by
  induction chars generalizing limit with
  | nil =>
    rw [List.flatMap_nil, List.take_nil]
    exact .nil
  | cons c chars ih =>
    by_cases hc : (utf8EncodeChar c).length ≤ limit
    · rw [take_encode_of_le hc, fitting, if_pos hc]
      exact .char c (ih (mt (cuts_cons_of_le hc).mpr h))
    · have hlt : limit < (utf8EncodeChar c).length := Nat.lt_of_not_le hc
      obtain rfl : limit = 0 := Nat.eq_zero_of_not_pos (mt (cuts_cons_of_lt hlt).mpr h)
      rw [fitting, if_neg hc, List.take_zero]
      exact .nil

end Take

/-! ## Newlines -/

theorem newline_mem_decodeLossy {bytes : Bytes} (h : '\n' ∈ (decodeLossy bytes).toList) :
    newline ∈ bytes := by
  have hreads := (reads_decodeAfter bytes).1
  rw [decodeLossy, String.toList_ofList] at h
  rcases hreads.infix_of_mem h with heq | hinfix
  · exact absurd heq (by decide)
  · have henc : utf8EncodeChar '\n' = [newline] := by decide
    rw [henc] at hinfix
    exact hinfix.subset List.mem_cons_self

/-- The text of a line ends with its newline. -/
theorem toList_decodeLossy_line (body : Bytes) :
    (decodeLossy (body ++ [newline])).toList = (decodeLossy body).toList ++ ['\n'] :=
  toList_decodeLossy_append_cons (by decide) body []

/-! ## The next line -/

namespace Input

/-- The line that is read next: one that ends, or all that is left. -/
inductive NextLine (input : Input) : Bytes → Prop where
  | ended {body : Bytes} {rest : Content} (hbody : newline ∉ body)
      (h : input.content = (body ++ [newline]).map .ok ++ rest) : NextLine input (body ++ [newline])
  | unended {tail : Bytes} (htail : newline ∉ tail) (hne : tail ≠ [])
      (h : input.content = tail.map .ok) : NextLine input tail

variable {input : Input} {line : Bytes} {limit : Nat}

theorem NextLine.readLine_eq (h : input.NextLine line) (hlimit : 0 < limit) :
    (input.readLine limit).1 = .ok (some (decodeLossy (line.take limit))) := by
  cases h with
  | ended hbody h => exact (readLine_line hlimit hbody h).1
  | unended htail hne h => exact (readLine_tail hlimit htail hne h).1

/-- The newline is the last byte of a line. -/
theorem NextLine.newline_not_mem_take (h : input.NextLine line) (hlong : limit < line.length) :
    newline ∉ line.take limit := by
  cases h with
  | @ended body rest hbody h =>
    rw [List.length_append, List.length_singleton] at hlong
    rw [List.take_append_of_le_length (by omega)]
    exact fun hmem => hbody (List.mem_of_mem_take hmem)
  | unended htail hne h => exact fun hmem => htail (List.mem_of_mem_take hmem)

/-- A newline that is kept ends the text. -/
theorem NextLine.exists_front (h : input.NextLine line) (hmem : newline ∈ line.take limit) :
    ∃ front, '\n' ∉ front ∧ (decodeLossy (line.take limit)).toList = front ++ ['\n'] := by
  have hshort : line.length ≤ limit := by
    by_contra hlong
    exact h.newline_not_mem_take (Nat.lt_of_not_le hlong) hmem
  rw [List.take_of_length_le hshort] at hmem ⊢
  cases h with
  | @ended body rest hbody h =>
    exact ⟨_, mt newline_mem_decodeLossy hbody, toList_decodeLossy_line body⟩
  | unended htail hne h => exact absurd hmem htail

/-- **Cut lines.** A line that is a text is delivered as it is if its bytes are within the limit.
Otherwise its longest start of whole characters within the limit is delivered, and one replacement
behind it when the limit goes through a character, but no newline. Whatever the bytes of a line
are, its newline is the last character delivered if it is within the limit, and there is no other;
and what is delivered has no more than three times as many bytes as the limit. -/
theorem readLine_cut (maxLength : Nat) (hlimit : limit = max 1 (maxLength - 1))
    (h : input.NextLine line) :
    ∃ delivered : String,
      (input.readLine (lineLimit maxLength)).1 = .ok (some delivered) ∧
        (∀ text : String, utf8 text = line →
          (line.length ≤ limit → delivered = text) ∧
          (limit < line.length →
            ∃ kept : List Char, IsLongestFit limit text.toList kept ∧
              (Cuts limit text.toList → delivered.toList = kept ++ ['\uFFFD']) ∧
              (¬ Cuts limit text.toList → delivered.toList = kept) ∧
              '\n' ∉ delivered.toList)) ∧
        (newline ∈ line.take limit →
          ∃ front, '\n' ∉ front ∧ delivered.toList = front ++ ['\n']) ∧
        (newline ∉ line.take limit → '\n' ∉ delivered.toList) ∧
        (utf8 delivered).length ≤ 3 * limit := by
  have hpos : 0 < limit := by omega
  have hno : newline ∉ line.take limit → '\n' ∉ (decodeLossy (line.take limit)).toList :=
    mt newline_mem_decodeLossy
  have hread : (input.readLine (lineLimit maxLength)).1 =
      .ok (some (decodeLossy (line.take limit))) := by
    rw [lineLimit, ← hlimit]
    exact h.readLine_eq hpos
  refine ⟨decodeLossy (line.take limit), hread, ?_, h.exists_front, hno, ?_⟩
  · rintro text rfl
    have htext : ∀ {chars}, Reads ((utf8 text).take limit) chars →
        (decodeLossy ((utf8 text).take limit)).toList = chars := by
      intro chars hreads
      rw [decodeLossy, String.toList_ofList]
      exact (reads_decodeAfter _).1.unique hreads
    refine ⟨fun hshort => ?_, fun hlong => ?_⟩
    · rw [List.take_of_length_le hshort, decodeLossy_utf8]
    · exact ⟨fitting limit text.toList, isLongestFit_fitting limit text.toList,
        fun hcuts => htext (reads_take_of_cuts hcuts),
        fun hcuts => htext (reads_take_of_not_cuts hcuts), hno (h.newline_not_mem_take hlong)⟩
  · have hbytes := length_utf8_decodeLossy_le (line.take limit)
    have hlength := List.length_take_le limit line
    omega

/-- A euro sign is cut behind its second byte, and comes in two blocks itself. -/
theorem readLine_cut_of_euro :
    let text := "aé€b\n"
    let input : Input := ofSource [.block [0x61, 0xC3, 0xA9, 0xE2], .interrupted,
      .block [0x82, 0xAC, 0x62], .block [0x0A, 0x63]]
    5 = max 1 (6 - 1) ∧ input.NextLine (utf8 text) ∧ 5 < (utf8 text).length ∧
      Cuts 5 text.toList ∧
      ∃ kept, IsLongestFit 5 text.toList kept ∧
        (input.readLine (lineLimit 6)).1 = .ok (some (String.ofList (kept ++ ['\uFFFD']))) := by
  intro text input
  have hcontent : input.content = (utf8 "aé€b" ++ [newline]).map .ok ++ [.ok 0x63] := rfl
  have hline : utf8 text = utf8 "aé€b" ++ [newline] := by decide +kernel
  have hnext : input.NextLine (utf8 text) := by
    rw [hline]
    exact .ended (by decide +kernel) hcontent
  have hlong : 5 < (utf8 text).length := by decide +kernel
  have hcuts : Cuts 5 text.toList :=
    ⟨['a', 'é'], '€', ['b', '\n'], by decide +kernel, by decide +kernel, by decide +kernel⟩
  obtain ⟨delivered, hread, htext, -⟩ := readLine_cut 6 rfl hnext
  obtain ⟨kept, hkept, hdelivered, -⟩ := (htext text rfl).2 hlong
  refine ⟨rfl, hnext, hlong, hcuts, kept, hkept, ?_⟩
  rw [← hdelivered hcuts, String.ofList_toList]
  exact hread

end Input

end MiniShell
