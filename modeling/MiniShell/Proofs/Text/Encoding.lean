import MiniShell.Proofs.Tokens.Words
import Mathlib.Data.List.Flatten

/-!
# Texts as bytes

Words go to the system as the bytes of their texts. A text is known from its bytes
(`utf8_injective`), and a byte below 0x80 in them is a character of the text
(`ofNat_mem_of_mem_utf8`). The words of a line have no more bytes than the line
(`length_flatMap_words_le`), and a line has at most three for each byte that it was read from
(`length_utf8_decodeLossy_le`).
-/

namespace MiniShell

open String (utf8EncodeChar)

/-! ## Bytes of a text -/

theorem reads_utf8 (chars : List Char) : Reads (chars.flatMap utf8EncodeChar) chars := by
  induction chars with
  | nil => exact .nil
  | cons c chars ih => exact .char c ih

/-- Encoding a text and decoding it gives the text. -/
theorem decodeLossy_utf8 (text : String) : decodeLossy (utf8 text) = text :=
  (reads_iff.1 (reads_utf8 text.toList)).symm

theorem utf8_injective {text text' : String} (h : utf8 text = utf8 text') : text = text' := by
  rw [← decodeLossy_utf8 text, h, decodeLossy_utf8]

theorem utf8_eq_nil_iff {text : String} : utf8 text = [] ↔ text = "" := by
  constructor
  · intro h
    exact utf8_injective h
  · rintro rfl
    rfl

/-- A byte below 0x80 is a character by itself, and in no other encoding. -/
theorem eq_ofNat_of_mem_encode {b : UInt8} {c : Char} (h : b ∈ utf8EncodeChar c)
    (hb : b.toNat ≤ 0x7F) : c = Char.ofNat b.toNat := by
  have hscalar := isScalar_toNat c
  rw [eq_ofNat_iff (by unfold IsScalar; omega)]
  have hbytes := b.toNat_lt
  simp only [IsScalar, utf8EncodeChar, Char.toNat_val] at *
  split_ifs at h <;> simp [← UInt8.toNat_inj] at h <;> omega

theorem ofNat_mem_of_mem_utf8 {b : UInt8} {text : String} (h : b ∈ utf8 text)
    (hb : b.toNat ≤ 0x7F) : Char.ofNat b.toNat ∈ text.toList := by
  obtain ⟨c, hc, hmem⟩ := List.mem_flatMap.1 h
  rwa [← eq_ofNat_of_mem_encode hmem hb]

/-- The text of a byte string has at most three bytes for each of them. -/
theorem length_utf8_decodeLossy_le (bytes : Bytes) :
    (utf8 (decodeLossy bytes)).length ≤ 3 * bytes.length := by
  rw [utf8, decodeLossy, String.toList_ofList]
  exact (reads_decodeAfter bytes).1.length_encode_le

/-! ## Bytes of words -/

theorem flatMap_toList_words (line : String) :
    (words line).flatMap String.toList = line.toList.filter (!isSeparator ·) := by
  rw [words, List.flatMap_map, ← flatten_runs, List.flatMap_def]
  simp only [String.toList_ofList, List.map_id']

theorem length_flatMap_words_le (line : String) :
    ((words line).flatMap utf8).length ≤ (utf8 line).length := by
  have hwords : (words line).flatMap utf8 =
      (line.toList.filter (!isSeparator ·)).flatMap utf8EncodeChar := by
    rw [← flatMap_toList_words, List.flatMap_assoc]
    rfl
  rw [hwords]
  exact (List.filter_sublist.flatMap _).length_le

end MiniShell
