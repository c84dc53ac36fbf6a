import MiniShell.Proofs.Input.Delivery
import MiniShell.Proofs.Text.Decoding
import MiniShell.Proofs.Tokens.Splitting

/-!
# Words of a decoded line

A line is decoded first and cut into words then. It may as well be cut first, at the bytes that are
separators: these stay what they are whatever invalid bytes stand in front of them
(`toList_decodeLossy_append_cons`), and no other bytes come to be separators
(`not_isSeparator_of_mem`). So each word is decoded on its own (`words_decodeLossy`), and what it
is made of is nothing to the other words (`words_decodeLossy_append`).
-/

namespace MiniShell

/-! ## Separators -/

/-- The bytes between words: blank, tab and newline. -/
def separatorBytes : Bytes := [0x20, 0x09, 0x0A]

def isSeparatorByte (b : UInt8) : Bool := separatorBytes.contains b

/-- All words of the bytes of a line. -/
def byteWords (bytes : Bytes) : List Bytes := (bytes.splitOnP isSeparatorByte).filter (· ≠ [])

theorem byteWords_eq_runs (bytes : Bytes) : byteWords bytes = runs isSeparatorByte bytes :=
  (runs_eq_splitOnP bytes).symm

theorem isSeparatorByte_iff {b : UInt8} :
    isSeparatorByte b = true ↔ b = 0x20 ∨ b = 0x09 ∨ b = 0x0A := by
  simp [isSeparatorByte, separatorBytes]

theorem isSeparator_ofNat {b : UInt8} (h : isSeparatorByte b = true) :
    isSeparator (Char.ofNat b.toNat) = true := by
  rcases isSeparatorByte_iff.1 h with rfl | rfl | rfl <;> decide

theorem toNat_le_of_isSeparatorByte {b : UInt8} (h : isSeparatorByte b = true) :
    b.toNat ≤ 0x7F := by
  rcases isSeparatorByte_iff.1 h with rfl | rfl | rfl <;> decide

/-- A separator stays one, and the bytes on its two sides are decoded on their own. -/
theorem toList_decodeLossy_append_cons {c : UInt8} (hc : isSeparatorByte c = true)
    (before after : Bytes) :
    (decodeLossy (before ++ c :: after)).toList =
      (decodeLossy before).toList ++ Char.ofNat c.toNat :: (decodeLossy after).toList := by
  simp only [decodeLossy, String.toList_ofList]
  exact decodeAfter_append_cons (toNat_le_of_isSeparatorByte hc) before after (by simp)

/-- Other bytes do not come to be separators. -/
theorem not_isSeparator_of_mem {word : Bytes} (hword : ∀ b ∈ word, isSeparatorByte b = false) :
    ∀ c ∈ (decodeLossy word).toList, isSeparator c = false := by
  intro c hc
  rw [← Bool.not_eq_true]
  intro hsep
  rw [decodeLossy, String.toList_ofList] at hc
  obtain rfl | hinfix := (reads_decodeAfter word).1.infix_of_mem hc
  · exact absurd hsep (by decide)
  · -- A separator is encoded as the one byte that is a separator.
    have hbyte : ∃ b, String.utf8EncodeChar c = [b] ∧ isSeparatorByte b = true := by
      rcases isSeparator_iff.1 hsep with rfl | rfl | rfl
      · exact ⟨0x20, by decide, by decide⟩
      · exact ⟨0x09, by decide, by decide⟩
      · exact ⟨0x0A, by decide, by decide⟩
    obtain ⟨b, henc, hb⟩ := hbyte
    have hmem : b ∈ word := hinfix.subset (henc ▸ List.mem_singleton_self b)
    exact absurd hb (by rw [hword b hmem]; decide)

/-! ## Cutting and decoding -/

theorem decodeLossy_eq_empty_iff (bytes : Bytes) :
    (decodeLossy bytes).toList = [] ↔ bytes = [] := by
  rw [decodeLossy, String.toList_ofList]
  exact (reads_decodeAfter bytes).1.eq_nil_iff

theorem words_decodeLossy_of_word {word : Bytes}
    (hword : ∀ b ∈ word, isSeparatorByte b = false) :
    words (decodeLossy word) = if word = [] then [] else [decodeLossy word] := by
  rw [words_of_word (not_isSeparator_of_mem hword)]
  simp only [← String.toList_eq_nil_iff, decodeLossy_eq_empty_iff]

theorem words_decodeLossy_append_cons {c : UInt8} (hc : isSeparatorByte c = true)
    (before after : Bytes) :
    words (decodeLossy (before ++ c :: after)) =
      words (decodeLossy before) ++ words (decodeLossy after) := by
  rw [words, toList_decodeLossy_append_cons hc, runs_append_cons (isSeparator_ofNat hc),
    List.map_append]
  rfl

/-- The bytes may be cut before they are decoded. -/
theorem words_decodeLossy (bytes : Bytes) :
    words (decodeLossy bytes) = (byteWords bytes).map decodeLossy := by
  rw [byteWords_eq_runs]
  induction bytes using cut_induction isSeparatorByte with
  | word word hword =>
    rw [words_decodeLossy_of_word hword, runs_of_forall_not hword]
    split_ifs <;> rfl
  | append word c rest hword hc ih =>
    rw [words_decodeLossy_append_cons hc, runs_append_cons hc, List.map_append, ih,
      words_decodeLossy_of_word hword, runs_of_forall_not hword]
    split_ifs <;> rfl

/-- What a word is made of is nothing to the words before and after it. -/
theorem words_decodeLossy_append {before word after : Bytes}
    (hbefore : ∀ b ∈ before.getLast?, isSeparatorByte b = true)
    (hword : ∀ b ∈ word, isSeparatorByte b = false) (hne : word ≠ [])
    (hafter : ∀ b ∈ after.head?, isSeparatorByte b = true) :
    words (decodeLossy (before ++ word ++ after)) =
      words (decodeLossy before) ++ decodeLossy word :: words (decodeLossy after) := by
  simp only [words_decodeLossy, byteWords_eq_runs, runs_append_word hbefore hword hne hafter,
    List.map_append, List.map_cons]

/-! ## Lines of a source -/

/-- The lines of a content that a reader has to deliver, whole: all that end, and what stands
behind the last failure. -/
def Content.wholeLines (content : Content) : List Bytes :=
  (content.segments.failed.flatMap fun (bytes, _) => (cutLines bytes).1) ++
    allLines content.segments.last

namespace Input

/-- The lines that reading meets, its failures left out. -/
theorem filterMap_lines {limit : Nat} (hlimit : 0 < limit) (input : Input) :
    (input.lines limit).filterMap Except.toOption =
      input.content.wholeLines.map (Content.shown limit) := by
  have hok : ∀ lines : List Bytes,
      (lines.map fun line => (.ok (Content.shown limit line) : Except IoError String)).filterMap
        Except.toOption = lines.map (Content.shown limit) := by
    intro lines
    rw [List.filterMap_map, ← List.filterMap_eq_map]
    rfl
  rw [lines_eq hlimit, Content.deliveries, List.filterMap_append, hok, Content.wholeLines,
    List.map_append, List.filterMap_flatMap, List.map_flatMap]
  congr 2
  funext segment
  rw [List.filterMap_append, hok]
  exact List.append_nil _

end Input

/-- **Words.** Cutting a decoded line into tokens is cutting its bytes and decoding the pieces, for
all bytes and so for what is kept of every line that a reader delivers. A separator is never taken
into what stands in front of it, and a word goes by itself, whatever bytes it consists of. -/
theorem tokens_of_bytes (maxLength size capacity : Nat) (source : Source) (bytes : Bytes) :
    (Tokens.ofLine (decodeLossy bytes) capacity).toList =
        ((((bytes.splitOnP isSeparatorByte).filter (· ≠ [])).take capacity).map decodeLossy) ∧
      (((Input.ofSource (source.buffered size)).lines (lineLimit maxLength)).filterMap
          Except.toOption).map (fun line => (Tokens.ofLine line capacity).toList) =
        source.content.wholeLines.map (fun whole =>
          ((byteWords (whole.take (max 1 (maxLength - 1)))).take capacity).map decodeLossy) ∧
      (∀ before c after, isSeparatorByte c = true → bytes = before ++ c :: after →
        (decodeLossy bytes).toList =
          (decodeLossy before).toList ++ Char.ofNat c.toNat :: (decodeLossy after).toList) ∧
      (∀ before word after, bytes = before ++ word ++ after → word ≠ [] →
        (∀ b ∈ word, isSeparatorByte b = false) →
        (∀ b ∈ before.getLast?, isSeparatorByte b = true) →
        (∀ b ∈ after.head?, isSeparatorByte b = true) →
        words (decodeLossy bytes) =
          words (decodeLossy before) ++ decodeLossy word :: words (decodeLossy after)) ∧
      ∀ text : String, Reads bytes text.toList ↔ text = decodeLossy bytes := by
  have htokens : ∀ bytes : Bytes, (Tokens.ofLine (decodeLossy bytes) capacity).toList =
      ((byteWords bytes).take capacity).map decodeLossy := by
    intro bytes
    rw [Tokens.toList_ofLine, words_decodeLossy, List.map_take]
  refine ⟨htokens bytes, ?_, ?_, ?_, fun text => reads_iff⟩
  · rw [Input.filterMap_lines (lineLimit_pos maxLength), Input.content_ofSource, content_buffered,
      List.map_map]
    exact List.map_congr_left fun whole _ => htokens (whole.take (lineLimit maxLength))
  · rintro before c after hc rfl
    exact toList_decodeLossy_append_cons hc before after
  · rintro before word after rfl hne hword hbefore hafter
    exact words_decodeLossy_append hbefore hword hne hafter

/-- A euro sign that is cut off in front of a blank, a byte that is nowhere in an encoding, and a
limit inside a character. -/
theorem tokens_of_broken_bytes :
    let bytes : Bytes := [0x61, 0xE2, 0x82, 0x20, 0xFF, 0x09, 0xC3]
    let source : Source := [.block [0x61, 0xE2, 0x82, 0x20, 0xFF], .interrupted,
      .block [0x09, 0xC3, 0xA9, 0x0A, 0x62]]
    words (decodeLossy bytes) = ["a\uFFFD", "\uFFFD", "\uFFFD"] ∧
      (((Input.ofSource (source.buffered 3)).lines (lineLimit 8)).filterMap Except.toOption).map
          (fun line => (Tokens.ofLine line 3).toList) = [["a\uFFFD", "\uFFFD", "\uFFFD"], ["b"]] ∧
      (decodeLossy bytes).toList = ['a', replacement, ' ', replacement, '\t', replacement] := by
  intro bytes source
  have h := tokens_of_bytes 8 3 3 source bytes
  have hwords := h.2.2.2.1 [0x61, 0xE2, 0x82, 0x20] [0xFF] [0x09, 0xC3] rfl (by decide +kernel)
    (by decide +kernel) (by decide +kernel) (by decide +kernel)
  have hblank := h.2.2.1 [0x61, 0xE2, 0x82] 0x20 [0xFF, 0x09, 0xC3] (by decide +kernel) rfl
  exact ⟨hwords.trans (by decide +kernel), h.2.1.trans (by decide +kernel),
    hblank.trans (by decide +kernel)⟩

end MiniShell
