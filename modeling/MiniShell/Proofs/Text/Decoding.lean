import MiniShell.Text.Lossy
import Mathlib.Data.List.Basic
import Mathlib.Tactic.Common

/-!
# The decoder and the syntax of UTF-8

The decoder goes from byte to byte; here it is held to the encodings of the characters
(`String.utf8EncodeChar`), which know nothing of it.

1. The encodings are four tables of bytes (`singleton_eq_encode` to `quadruple_eq_encode`). What the
   decoder has begun after some bytes is finished by exactly those bytes that finish an encoding
   (`Begun.Awaits`), which the first byte sets up and every further byte keeps.
2. `Reads` says which text a byte string has: characters for encodings, and one U+FFFD for each
   `Broken` part, which is the longest start of an encoding where none is complete. Every byte
   string has exactly one text, and the decoder finds it (`reads_iff`).
3. A byte below 0x80 is never taken into a character. The text of a byte string is the texts of
   the two sides of it (`decodeAfter_append_cons`).
-/

namespace MiniShell

open String (utf8EncodeChar)

/-! ## Encodings -/

section Encodings

variable {a b d e : UInt8} {c : Char}

/-- The numbers that characters have. -/
def IsScalar (n : Nat) : Prop := n < 0xD800 ∨ 0xDFFF < n ∧ n < 0x110000

theorem isScalar_toNat (c : Char) : IsScalar c.toNat := c.valid

theorem eq_ofNat_iff {n : Nat} (h : IsScalar n) : c = Char.ofNat n ↔ c.toNat = n := by
  constructor
  · rintro rfl
    have hvalid : n.isValidChar := h
    rw [Char.ofNat, dif_pos hvalid]
    rfl
  · rintro rfl
    exact (Char.ofNat_toNat c).symm

/-- The bytes of a character after its first. -/
def IsTail (b : UInt8) : Prop := 0x80 ≤ b.toNat ∧ b.toNat ≤ 0xBF

theorem singleton_eq_encode :
    [a] = utf8EncodeChar c ↔ a.toNat ≤ 0x7F ∧ c.toNat = a.toNat := by
  have := isScalar_toNat c
  have := a.toNat_lt
  simp only [IsScalar, utf8EncodeChar, Char.toNat_val] at *
  split_ifs <;> simp [← UInt8.toNat_inj] <;> omega

theorem pair_eq_encode :
    [a, b] = utf8EncodeChar c ↔
      (0xC2 ≤ a.toNat ∧ a.toNat ≤ 0xDF) ∧ IsTail b ∧
        c.toNat = (a.toNat - 0xC0) * 64 + b.toNat % 64 := by
  have := isScalar_toNat c
  have := a.toNat_lt
  have := b.toNat_lt
  simp only [IsScalar, IsTail, utf8EncodeChar, Char.toNat_val] at *
  split_ifs <;> simp [← UInt8.toNat_inj] <;> omega

/-- The second byte is bounded, so that no shorter encoding has the number, which is no
surrogate. -/
theorem triple_eq_encode :
    [a, b, d] = utf8EncodeChar c ↔
      (0xE0 ≤ a.toNat ∧ a.toNat ≤ 0xEF) ∧
        (IsTail b ∧ (a.toNat = 0xE0 → 0xA0 ≤ b.toNat) ∧ (a.toNat = 0xED → b.toNat ≤ 0x9F)) ∧
        IsTail d ∧
        c.toNat = ((a.toNat - 0xE0) * 64 + b.toNat % 64) * 64 + d.toNat % 64 := by
  have := isScalar_toNat c
  have := a.toNat_lt
  have := b.toNat_lt
  have := d.toNat_lt
  simp only [IsScalar, IsTail, utf8EncodeChar, Char.toNat_val] at *
  split_ifs <;> simp [← UInt8.toNat_inj] <;> omega

theorem quadruple_eq_encode :
    [a, b, d, e] = utf8EncodeChar c ↔
      (0xF0 ≤ a.toNat ∧ a.toNat ≤ 0xF4) ∧
        (IsTail b ∧ (a.toNat = 0xF0 → 0x90 ≤ b.toNat) ∧ (a.toNat = 0xF4 → b.toNat ≤ 0x8F)) ∧
        IsTail d ∧ IsTail e ∧
        c.toNat =
          (((a.toNat - 0xF0) * 64 + b.toNat % 64) * 64 + d.toNat % 64) * 64 + e.toNat % 64 := by
  have := isScalar_toNat c
  have := a.toNat_lt
  have := b.toNat_lt
  have := d.toNat_lt
  have := e.toNat_lt
  simp only [IsScalar, IsTail, utf8EncodeChar, Char.toNat_val] at *
  split_ifs <;> simp [← UInt8.toNat_inj] <;> omega

theorem length_encode_le (c : Char) : (utf8EncodeChar c).length ≤ 4 := by
  unfold utf8EncodeChar
  dsimp only
  split_ifs <;> simp

theorem encode_ne_nil (c : Char) : utf8EncodeChar c ≠ [] := by
  unfold utf8EncodeChar
  dsimp only
  split_ifs <;> simp

end Encodings

/-! ## Characters that are begun -/

namespace Begun

variable {s : Begun} {b : UInt8} {tail : Bytes} {c : Char}

/-- Whether the next byte may be `b`. -/
def Takes (s : Begun) (b : UInt8) : Prop := s.low ≤ b ∧ b ≤ s.high

/-- The number that the bytes so far and `b` come to. -/
def number (s : Begun) (b : UInt8) : Nat := s.bits * 64 + b.toNat % 64

/-- What is begun when `b` has been taken and further bytes are owed. -/
def next (s : Begun) (b : UInt8) : Begun := ⟨s.number b, s.owed - 1, 0x80, 0xBF⟩

/-- Whether the bytes `tail`, and not fewer of them, finish the character `c`. -/
def Completes (s : Begun) : Bytes → Char → Prop
  | [], _ => False
  | b :: tail, c =>
    s.Takes b ∧
      if s.owed ≤ 1 then tail = [] ∧ c = Char.ofNat (s.number b) else (s.next b).Completes tail c

theorem not_completes_nil : ¬ s.Completes [] c := id

theorem completes_cons_of_last (h : s.owed ≤ 1) :
    s.Completes (b :: tail) c ↔ s.Takes b ∧ tail = [] ∧ c = Char.ofNat (s.number b) := by
  rw [Completes, if_pos h]

theorem completes_cons_of_more (h : ¬ s.owed ≤ 1) :
    s.Completes (b :: tail) c ↔ s.Takes b ∧ (s.next b).Completes tail c := by
  rw [Completes, if_neg h]

theorem Completes.length_eq (h : s.Completes tail c) (howed : 0 < s.owed) :
    tail.length = s.owed := by
  induction tail generalizing s with
  | nil => exact absurd h not_completes_nil
  | cons b tail ih =>
    by_cases hlast : s.owed ≤ 1
    · obtain ⟨-, rfl, -⟩ := (completes_cons_of_last hlast).1 h
      rw [List.length_singleton]
      omega
    · have hmore := ih ((completes_cons_of_more hlast).1 h).2 (show 0 < s.owed - 1 by omega)
      have : (s.next b).owed = s.owed - 1 := rfl
      rw [List.length_cons]
      omega

/-- The bytes that finish a character are known from those that follow them. -/
theorem Completes.unique {other rest rest' : Bytes} {c' : Char} (h : s.Completes tail c)
    (h' : s.Completes other c') (heq : tail ++ rest = other ++ rest') :
    c = c' ∧ tail = other := by
  induction tail generalizing s other with
  | nil => exact absurd h not_completes_nil
  | cons b tail ih =>
    rcases other with _ | ⟨b', other⟩
    · exact absurd h' not_completes_nil
    · obtain ⟨rfl, htails⟩ := List.cons.inj heq
      by_cases hlast : s.owed ≤ 1
      · obtain ⟨-, rfl, rfl⟩ := (completes_cons_of_last hlast).1 h
        obtain ⟨-, rfl, rfl⟩ := (completes_cons_of_last hlast).1 h'
        exact ⟨rfl, rfl⟩
      · obtain ⟨hc, htail⟩ := ih ((completes_cons_of_more hlast).1 h).2
          ((completes_cons_of_more hlast).1 h').2 htails
        exact ⟨hc, by rw [htail]⟩

/-- Some bytes finish a character, as long as there is a next byte at all. -/
theorem exists_completes (hrange : s.low ≤ s.high) : ∃ tail c, s.Completes tail c := by
  induction hn : s.owed generalizing s with
  | zero =>
    exact ⟨[s.low], _, (completes_cons_of_last (by omega)).2 ⟨⟨UInt8.le_refl _, hrange⟩, rfl, rfl⟩⟩
  | succ n ih =>
    by_cases hlast : s.owed ≤ 1
    · exact ⟨[s.low], _, (completes_cons_of_last hlast).2 ⟨⟨UInt8.le_refl _, hrange⟩, rfl, rfl⟩⟩
    · have hnext : (s.next s.low).low ≤ (s.next s.low).high := by
        show (0x80 : UInt8) ≤ 0xBF
        decide
      obtain ⟨tail, c, h⟩ := ih hnext (show s.owed - 1 = n by omega)
      exact ⟨s.low :: tail, c, (completes_cons_of_more hlast).2 ⟨⟨UInt8.le_refl _, hrange⟩, h⟩⟩

/-- `s` is what is begun after the bytes `before`: it is finished by the bytes that make `before`
an encoding, and there are some. -/
structure Awaits (before : Bytes) (s : Begun) : Prop where
  range : s.low ≤ s.high
  completes_iff : ∀ tail c, before ++ tail = utf8EncodeChar c ↔ s.Completes tail c

end Begun

/-! ## The first byte of a character -/

section Lead

open Begun

variable {a : UInt8} {s : Begun} {tail : Bytes} {c : Char}

/-- The byte says how many follow it and which the next may be. -/
theorem decodeLead_begun (h : decodeLead a = ([], some s)) :
    (0xC2 ≤ a.toNat ∧ a.toNat ≤ 0xDF ∧ s = ⟨a.toNat - 0xC0, 1, 0x80, 0xBF⟩) ∨
    (0xE0 ≤ a.toNat ∧ a.toNat ≤ 0xEF ∧
      s = ⟨a.toNat - 0xE0, 2, if a.toNat = 0xE0 then 0xA0 else 0x80,
        if a.toNat = 0xED then 0x9F else 0xBF⟩) ∨
    (0xF0 ≤ a.toNat ∧ a.toNat ≤ 0xF4 ∧
      s = ⟨a.toNat - 0xF0, 3, if a.toNat = 0xF0 then 0x90 else 0x80,
        if a.toNat = 0xF4 then 0x8F else 0xBF⟩) := by
  unfold decodeLead at h
  simp only [UInt8.le_iff_toNat_le, ← UInt8.toNat_inj, UInt8.reduceToNat] at h
  split_ifs at h with _ h2 hE0 hED h3 hF0 h4 hF4 <;>
    simp only [Prod.mk.injEq, reduceCtorEq, false_and, Option.some.injEq, true_and,
      List.cons_ne_nil] at h <;> subst s
  · exact .inl ⟨h2.1, h2.2, rfl⟩
  · rw [hE0]; decide
  · rw [hED]; decide
  · rw [if_neg hE0, if_neg hED]
    exact .inr (.inl ⟨by omega, by omega, rfl⟩)
  · rw [hF0]; decide
  · rw [if_neg hF0, if_neg (show a.toNat ≠ 0xF4 by omega)]
    exact .inr (.inr ⟨by omega, by omega, rfl⟩)
  · rw [hF4]; decide

/-- The first byte of an encoding says how many follow it. -/
theorem lead_of_eq_encode (h : a :: tail = utf8EncodeChar c) :
    (a.toNat ≤ 0x7F ∧ tail.length = 0) ∨
    (0xC2 ≤ a.toNat ∧ a.toNat ≤ 0xDF ∧ tail.length = 1) ∨
    (0xE0 ≤ a.toNat ∧ a.toNat ≤ 0xEF ∧ tail.length = 2) ∨
    (0xF0 ≤ a.toNat ∧ a.toNat ≤ 0xF4 ∧ tail.length = 3) := by
  have hlength := length_encode_le c
  rw [← h] at hlength
  rcases tail with _ | ⟨b, _ | ⟨d, _ | ⟨e, _ | ⟨f, more⟩⟩⟩⟩
  · exact .inl ⟨(singleton_eq_encode.1 h).1, rfl⟩
  · have hlead := (pair_eq_encode.1 h).1
    exact .inr (.inl ⟨hlead.1, hlead.2, rfl⟩)
  · have hlead := (triple_eq_encode.1 h).1
    exact .inr (.inr (.inl ⟨hlead.1, hlead.2, rfl⟩))
  · have hlead := (quadruple_eq_encode.1 h).1
    exact .inr (.inr (.inr ⟨hlead.1, hlead.2, rfl⟩))
  · simp only [List.length_cons] at hlength
    omega

theorem length_eq_owed (h : decodeLead a = ([], some s)) (henc : a :: tail = utf8EncodeChar c) :
    tail.length = s.owed := by
  have hlead := lead_of_eq_encode henc
  rcases decodeLead_begun h with ⟨_, _, rfl⟩ | ⟨_, _, rfl⟩ | ⟨_, _, rfl⟩
  all_goals
    dsimp only
    omega

theorem pair_iff_completes {b : UInt8} (hlow : 0xC2 ≤ a.toNat) (hhigh : a.toNat ≤ 0xDF) :
    [a, b] = utf8EncodeChar c ↔ Completes ⟨a.toNat - 0xC0, 1, 0x80, 0xBF⟩ [b] c := by
  have := b.toNat_lt
  rw [pair_eq_encode, completes_cons_of_last (by simp)]
  simp only [Takes, number, IsTail, UInt8.le_iff_toNat_le]
  rw [eq_ofNat_iff (by unfold IsScalar; omega)]
  simp
  omega

theorem triple_iff_completes {b d : UInt8} (hlow : 0xE0 ≤ a.toNat) (hhigh : a.toNat ≤ 0xEF) :
    [a, b, d] = utf8EncodeChar c ↔
      Completes ⟨a.toNat - 0xE0, 2, if a.toNat = 0xE0 then 0xA0 else 0x80,
        if a.toNat = 0xED then 0x9F else 0xBF⟩ [b, d] c := by
  have := b.toNat_lt
  have := d.toNat_lt
  rw [triple_eq_encode, completes_cons_of_more (by simp), completes_cons_of_last (by simp [next])]
  simp only [Takes, number, IsTail, UInt8.le_iff_toNat_le, next]
  -- A number that is no scalar value is excluded by the range of the second byte.
  by_cases hs : IsScalar (((a.toNat - 0xE0) * 64 + b.toNat % 64) * 64 + d.toNat % 64)
  · rw [eq_ofNat_iff hs]
    split_ifs <;> simp <;> omega
  · unfold IsScalar at hs
    split_ifs <;> simp <;> omega

theorem quadruple_iff_completes {b d e : UInt8} (hlow : 0xF0 ≤ a.toNat) (hhigh : a.toNat ≤ 0xF4) :
    [a, b, d, e] = utf8EncodeChar c ↔
      Completes ⟨a.toNat - 0xF0, 3, if a.toNat = 0xF0 then 0x90 else 0x80,
        if a.toNat = 0xF4 then 0x8F else 0xBF⟩ [b, d, e] c := by
  have := b.toNat_lt
  have := d.toNat_lt
  have := e.toNat_lt
  rw [quadruple_eq_encode, completes_cons_of_more (by simp),
    completes_cons_of_more (by simp [next]), completes_cons_of_last (by simp [next])]
  simp only [Takes, number, IsTail, UInt8.le_iff_toNat_le, next]
  by_cases hs : IsScalar ((((a.toNat - 0xF0) * 64 + b.toNat % 64) * 64 + d.toNat % 64) * 64 +
      e.toNat % 64)
  · rw [eq_ofNat_iff hs]
    split_ifs <;> simp <;> omega
  · unfold IsScalar at hs
    split_ifs <;> simp <;> omega

/-- The decoder finishes a character with the bytes that make an encoding of it. -/
theorem eq_encode_iff_completes (h : decodeLead a = ([], some s)) :
    a :: tail = utf8EncodeChar c ↔ s.Completes tail c := by
  by_cases hlength : tail.length = s.owed
  · rcases decodeLead_begun h with ⟨hlow, hhigh, rfl⟩ | ⟨hlow, hhigh, rfl⟩ | ⟨hlow, hhigh, rfl⟩
    · obtain ⟨b, rfl⟩ := List.length_eq_one_iff.1 hlength
      exact pair_iff_completes hlow hhigh
    · obtain ⟨b, d, rfl⟩ := List.length_eq_two.1 hlength
      exact triple_iff_completes hlow hhigh
    · obtain ⟨b, d, e, rfl⟩ := List.length_eq_three.1 hlength
      exact quadruple_iff_completes hlow hhigh
  · have howed : 0 < s.owed := by
      rcases decodeLead_begun h with ⟨_, _, rfl⟩ | ⟨_, _, rfl⟩ | ⟨_, _, rfl⟩ <;> simp
    exact iff_of_false (fun henc => hlength (length_eq_owed h henc))
      (fun hs => hlength (hs.length_eq howed))

theorem awaits_lead (h : decodeLead a = ([], some s)) : Awaits [a] s where
  range := by
    rcases decodeLead_begun h with ⟨_, _, rfl⟩ | ⟨_, _, rfl⟩ | ⟨_, _, rfl⟩
    · show (0x80 : UInt8) ≤ 0xBF
      decide
    all_goals
      dsimp only
      split_ifs <;> first | omega | decide
  completes_iff _ _ := eq_encode_iff_completes h

/-- A byte is a character, or it begins one, or no encoding starts with it. -/
theorem cases_lead (a : UInt8) :
    (decodeLead a = ([Char.ofNat a.toNat], none) ∧
      ∀ tail c, a :: tail = utf8EncodeChar c ↔ tail = [] ∧ c = Char.ofNat a.toNat) ∨
    (∃ s, decodeLead a = ([], some s)) ∨
    (decodeLead a = ([replacement], none) ∧ ∀ tail c, a :: tail ≠ utf8EncodeChar c) := by
  by_cases h : a.toNat ≤ 0x7F
  · refine .inl ⟨if_pos h, fun tail c => ⟨fun henc => ?_, ?_⟩⟩
    · have hlead := lead_of_eq_encode henc
      obtain rfl : tail = [] := List.length_eq_zero_iff.1 (by omega)
      exact ⟨rfl, (eq_ofNat_iff (by unfold IsScalar; omega)).2 (singleton_eq_encode.1 henc).2⟩
    · rintro ⟨rfl, rfl⟩
      exact singleton_eq_encode.2 ⟨h, (eq_ofNat_iff (by unfold IsScalar; omega)).1 rfl⟩
  · have hnone : ¬ (0xC2 ≤ a.toNat ∧ a.toNat ≤ 0xF4) → ∀ tail c, a :: tail ≠ utf8EncodeChar c := by
      intro hrange tail c henc
      have hlead := lead_of_eq_encode henc
      omega
    unfold decodeLead
    simp only [UInt8.le_iff_toNat_le, ← UInt8.toNat_inj, UInt8.reduceToNat] at *
    rw [if_neg h]
    split_ifs
    all_goals first
      | exact .inr (.inl ⟨_, rfl⟩)
      | exact .inr (.inr ⟨rfl, hnone (by omega)⟩)

/-- No encoding is a start of another. -/
theorem encode_append_inj {c c' : Char} {rest rest' : Bytes}
    (h : utf8EncodeChar c ++ rest = utf8EncodeChar c' ++ rest') : c = c' ∧ rest = rest' := by
  obtain ⟨a, tail, henc⟩ := List.exists_cons_of_ne_nil (encode_ne_nil c)
  obtain ⟨a', tail', henc'⟩ := List.exists_cons_of_ne_nil (encode_ne_nil c')
  have hsplit := h
  rw [henc, henc'] at hsplit
  obtain ⟨rfl, htails⟩ := List.cons.inj hsplit
  obtain rfl : c = c' := by
    rcases cases_lead a with ⟨-, hchar⟩ | ⟨s, hlead⟩ | ⟨-, hnone⟩
    · rw [((hchar _ _).1 henc.symm).2, ((hchar _ _).1 henc'.symm).2]
    · exact (((eq_encode_iff_completes hlead).1 henc.symm).unique
        ((eq_encode_iff_completes hlead).1 henc'.symm) htails).1
    · exact absurd henc.symm (hnone _ _)
  exact ⟨rfl, List.append_cancel_left h⟩

end Lead

/-! ## The bytes after it -/

section Step

open Begun

variable {s : Begun} {before : Bytes} {b : UInt8}

theorem Begun.Awaits.next (h : Awaits before s) (hb : s.Takes b) (hmore : ¬ s.owed ≤ 1) :
    Awaits (before ++ [b]) (s.next b) where
  range := by
    show (0x80 : UInt8) ≤ 0xBF
    decide
  completes_iff tail c := by
    rw [List.append_assoc, List.singleton_append, h.completes_iff, completes_cons_of_more hmore]
    exact and_iff_right hb

theorem Begun.Awaits.last (h : Awaits before s) (hb : s.Takes b) (hlast : s.owed ≤ 1) :
    before ++ [b] = utf8EncodeChar (Char.ofNat (s.number b)) :=
  (h.completes_iff [b] _).2 ((completes_cons_of_last hlast).2 ⟨hb, rfl, rfl⟩)

/-- No encoding goes on with a byte that is refused. -/
theorem Begun.Awaits.refused (h : Awaits before s) (hb : ¬ s.Takes b) (tail : Bytes) (c : Char) :
    before ++ b :: tail ≠ utf8EncodeChar c := by
  rw [Ne, h.completes_iff]
  by_cases hlast : s.owed ≤ 1
  · rw [completes_cons_of_last hlast]
    exact fun hs => hb hs.1
  · rw [completes_cons_of_more hlast]
    exact fun hs => hb hs.1

theorem decodeAfter_of_last (hb : s.Takes b) (hlast : s.owed ≤ 1) (bytes : Bytes) :
    decodeAfter (some s) (b :: bytes) = Char.ofNat (s.number b) :: decodeAfter none bytes := by
  rw [decodeAfter, decodeByte, if_pos (show s.low ≤ b ∧ b ≤ s.high from hb)]
  dsimp only
  rw [if_pos hlast]
  rfl

theorem decodeAfter_of_more (hb : s.Takes b) (hmore : ¬ s.owed ≤ 1) (bytes : Bytes) :
    decodeAfter (some s) (b :: bytes) = decodeAfter (some (s.next b)) bytes := by
  rw [decodeAfter, decodeByte, if_pos (show s.low ≤ b ∧ b ≤ s.high from hb)]
  dsimp only
  rw [if_neg hmore]
  rfl

theorem decodeAfter_of_refused (hb : ¬ s.Takes b) (bytes : Bytes) :
    decodeAfter (some s) (b :: bytes) = replacement :: decodeAfter none (b :: bytes) := by
  rw [decodeAfter, decodeByte, if_neg (show ¬ (s.low ≤ b ∧ b ≤ s.high) from hb)]
  rfl

end Step

/-! ## The text of a byte string -/

/-- Bytes that one replacement stands for when `rest` follows them: no encoding stands here, and no
more of these bytes are the start of one. Where not even one byte starts an encoding, that one is
replaced. -/
structure Broken (part rest : Bytes) : Prop where
  ne_nil : part ≠ []
  no_char : ∀ c, ¬ utf8EncodeChar c <+: part ++ rest
  starts : part.length = 1 ∨ ∃ c, part <+: utf8EncodeChar c
  longest : ∀ longer c, longer <+: part ++ rest → longer <+: utf8EncodeChar c →
    longer.length ≤ part.length

/-- What text a byte string has: a character for every encoding and a replacement for every
broken part, from the front. -/
inductive Reads : Bytes → List Char → Prop where
  | nil : Reads [] []
  | char (c : Char) {rest : Bytes} {text : List Char} (h : Reads rest text) :
      Reads (utf8EncodeChar c ++ rest) (c :: text)
  | broken {part rest : Bytes} {text : List Char} (hpart : Broken part rest)
      (h : Reads rest text) : Reads (part ++ rest) (replacement :: text)

/-- A start of a list ends in the first part of it, or goes on with the rest. -/
theorem prefix_append_cases {longer part rest : Bytes} (h : longer <+: part ++ rest) :
    longer <+: part ∨ ∃ b more, b ∈ rest.head? ∧ longer = part ++ b :: more := by
  rcases List.prefix_or_prefix_of_prefix h (List.prefix_append part rest) with
    hshort | ⟨_ | ⟨b, more⟩, rfl⟩
  · exact .inl hshort
  · rw [List.append_nil]
    exact .inl (List.prefix_refl part)
  · obtain ⟨tail, htail⟩ := h
    rw [List.append_assoc] at htail
    rw [← List.append_cancel_left htail]
    exact .inr ⟨b, more, rfl, rfl⟩

theorem broken_singleton {a : UInt8} (h : ∀ tail c, a :: tail ≠ utf8EncodeChar c) (rest : Bytes) :
    Broken [a] rest where
  ne_nil := List.cons_ne_nil _ _
  no_char c hc := by
    obtain ⟨b, tail, henc⟩ := List.exists_cons_of_ne_nil (encode_ne_nil c)
    rw [henc, List.singleton_append, List.cons_prefix_cons] at hc
    exact h tail c (hc.1 ▸ henc.symm)
  starts := .inl rfl
  longest longer c hlonger hc := by
    rcases longer with _ | ⟨b, more⟩
    · exact Nat.zero_le _
    · obtain ⟨rfl, -⟩ := List.cons_prefix_cons.1 hlonger
      obtain ⟨tail, htail⟩ := hc
      exact absurd htail (h _ _)

theorem Begun.Awaits.broken {before : Bytes} {s : Begun} (h : Awaits before s) (hne : before ≠ [])
    {rest : Bytes} (hrest : ∀ b ∈ rest.head?, ¬ s.Takes b) : Broken before rest where
  ne_nil := hne
  no_char c hc := by
    rcases prefix_append_cases hc with ⟨more, hmore⟩ | ⟨b, more, hb, henc⟩
    · -- The bytes start an encoding, and a shorter one cannot stand at its front.
      obtain ⟨tail, c', hs⟩ := exists_completes h.range
      have henc := (h.completes_iff tail c').2 hs
      rw [← hmore, List.append_assoc, ← List.append_nil (utf8EncodeChar c')] at henc
      obtain ⟨rfl, htail⟩ := encode_append_inj henc
      rw [(List.append_eq_nil_iff.1 htail).2] at hs
      exact not_completes_nil hs
    · exact h.refused (hrest b hb) more c henc.symm
  starts := by
    obtain ⟨tail, c, hs⟩ := exists_completes h.range
    exact .inr ⟨c, tail, (h.completes_iff tail c).2 hs⟩
  longest longer c hlonger hc := by
    rcases prefix_append_cases hlonger with hshort | ⟨b, more, hb, rfl⟩
    · exact hshort.length_le
    · obtain ⟨tail, htail⟩ := hc
      rw [List.append_assoc, List.cons_append] at htail
      exact absurd htail (h.refused (hrest b hb) _ c)

/-- The decoder, from the front and after bytes that have begun a character. The induction is on
the bytes that are left; a refused byte is read again by the decoder from the front. -/
theorem reads_decodeAfter (bytes : Bytes) :
    Reads bytes (decodeAfter none bytes) ∧
      ∀ before s, before ≠ [] → Begun.Awaits before s →
        Reads (before ++ bytes) (decodeAfter (some s) bytes) := by
  induction bytes with
  | nil =>
    refine ⟨.nil, fun before s hne h => ?_⟩
    exact .broken (h.broken hne (by simp)) .nil
  | cons b bytes ih =>
    have hfront : Reads (b :: bytes) (decodeAfter none (b :: bytes)) := by
      rcases cases_lead b with ⟨hlead, hb⟩ | ⟨s, hlead⟩ | ⟨hlead, hb⟩
      · rw [decodeAfter, decodeByte, hlead]
        rw [← List.singleton_append, (hb [] _).2 ⟨rfl, rfl⟩]
        exact .char _ ih.1
      · rw [decodeAfter, decodeByte, hlead]
        exact ih.2 [b] s (List.cons_ne_nil _ _) (awaits_lead hlead)
      · rw [decodeAfter, decodeByte, hlead]
        exact .broken (broken_singleton hb bytes) ih.1
    refine ⟨hfront, fun before s hne h => ?_⟩
    by_cases hb : s.Takes b
    · by_cases hlast : s.owed ≤ 1
      · rw [decodeAfter_of_last hb hlast, ← List.singleton_append, ← List.append_assoc,
          h.last hb hlast]
        exact .char _ ih.1
      · rw [decodeAfter_of_more hb hlast, ← List.singleton_append, ← List.append_assoc]
        exact ih.2 _ _ (by simp) (h.next hb hlast)
    · rw [decodeAfter_of_refused hb]
      exact .broken (h.broken hne (by simpa using hb)) hfront

/-- A broken part is no longer than another at the same place. -/
theorem Broken.length_le {part part' rest rest' : Bytes} (h : Broken part rest)
    (h' : Broken part' rest') (heq : part ++ rest = part' ++ rest') :
    part.length ≤ part'.length := by
  rcases h.starts with hone | ⟨c, hc⟩
  · rw [hone]
    exact List.length_pos_iff.2 h'.ne_nil
  · exact h'.longest part c (heq ▸ List.prefix_append part rest) hc

/-- A byte string has one text. -/
theorem Reads.unique {bytes : Bytes} {text text' : List Char} (h : Reads bytes text)
    (h' : Reads bytes text') : text = text' := by
  induction h generalizing text' with
  | nil =>
    generalize hbytes : ([] : Bytes) = bytes at h'
    cases h' with
    | nil => rfl
    | char c' => exact absurd (List.append_eq_nil_iff.1 hbytes.symm).1 (encode_ne_nil c')
    | broken hpart' => exact absurd (List.append_eq_nil_iff.1 hbytes.symm).1 hpart'.ne_nil
  | @char c rest text h ih =>
    generalize hbytes : utf8EncodeChar c ++ rest = bytes at h'
    cases h' with
    | nil => exact absurd (List.append_eq_nil_iff.1 hbytes).1 (encode_ne_nil c)
    | char c' h' =>
      obtain ⟨rfl, rfl⟩ := encode_append_inj hbytes
      rw [ih h']
    | broken hpart' => exact absurd (hbytes ▸ List.prefix_append _ _) (hpart'.no_char c)
  | @broken part rest text hpart h ih =>
    generalize hbytes : part ++ rest = bytes at h'
    cases h' with
    | nil => exact absurd (List.append_eq_nil_iff.1 hbytes).1 hpart.ne_nil
    | char c' => exact absurd (hbytes ▸ List.prefix_append _ _) (hpart.no_char c')
    | broken hpart' h' =>
      have hlength := Nat.le_antisymm (hpart.length_le hpart' hbytes)
        (hpart'.length_le hpart hbytes.symm)
      obtain ⟨rfl, rfl⟩ := List.append_inj hbytes hlength
      rw [ih h']

/-- **Decoding.** The decoder finds the text of every byte string: characters for encodings, and
one replacement for each longest start of an encoding that is not carried on. -/
theorem reads_iff {bytes : Bytes} {text : String} :
    Reads bytes text.toList ↔ text = decodeLossy bytes := by
  constructor
  · intro h
    have htext := h.unique (reads_decodeAfter bytes).1
    rw [decodeLossy, ← htext, String.ofList_toList]
  · rintro rfl
    rw [decodeLossy, String.toList_ofList]
    exact (reads_decodeAfter bytes).1

/-! ## What a text owes to its bytes -/

namespace Reads

variable {bytes : Bytes} {text : List Char}

theorem eq_nil_iff (h : Reads bytes text) : text = [] ↔ bytes = [] := by
  cases h with
  | nil => exact iff_of_true rfl rfl
  | char c h =>
    refine iff_of_false (List.cons_ne_nil _ _) (fun hnil => ?_)
    exact encode_ne_nil c (List.append_eq_nil_iff.1 hnil).1
  | broken hpart h =>
    refine iff_of_false (List.cons_ne_nil _ _) (fun hnil => ?_)
    exact hpart.ne_nil (List.append_eq_nil_iff.1 hnil).1

/-- The characters of a text stand in its bytes, but for the replacements. -/
theorem infix_of_mem (h : Reads bytes text) {c : Char} (hc : c ∈ text) :
    c = replacement ∨ utf8EncodeChar c <:+: bytes := by
  induction h with
  | nil => exact absurd hc List.not_mem_nil
  | @char c' rest text h ih =>
    rcases List.mem_cons.1 hc with rfl | hc
    · exact .inr (List.prefix_append _ _).isInfix
    · exact (ih hc).imp_right fun hinfix => hinfix.trans (List.suffix_append _ _).isInfix
  | broken hpart h ih =>
    rcases List.mem_cons.1 hc with rfl | hc
    · exact .inl rfl
    · exact (ih hc).imp_right fun hinfix => hinfix.trans (List.suffix_append _ _).isInfix

/-- Encoding a text again makes it at most three times as long: a replacement has three bytes. -/
theorem length_encode_le (h : Reads bytes text) :
    (text.flatMap utf8EncodeChar).length ≤ 3 * bytes.length := by
  induction h with
  | nil => exact Nat.le_refl 0
  | char c h ih =>
    rw [List.flatMap_cons, List.length_append, List.length_append]
    omega
  | broken hpart h ih =>
    have hpart := List.length_pos_iff.2 hpart.ne_nil
    have hreplacement : (utf8EncodeChar replacement).length = 3 := by decide
    rw [List.flatMap_cons, List.length_append, List.length_append]
    omega

end Reads

/-! ## Bytes that are never taken into a character -/

section Ascii

variable {begun : Option Begun} {c : UInt8}

theorem low_decodeLead (b : UInt8) : ∀ s ∈ (decodeLead b).2, 0x7F < s.low.toNat := by
  intro s hs
  rcases cases_lead b with ⟨hlead, -⟩ | ⟨s', hlead⟩ | ⟨hlead, -⟩
  · rw [hlead] at hs
    cases hs
  · rw [hlead] at hs
    obtain rfl : s' = s := Option.some.inj hs
    rcases decodeLead_begun hlead with ⟨_, _, rfl⟩ | ⟨_, _, rfl⟩ | ⟨_, _, rfl⟩
    · simp
    all_goals
      dsimp only
      split_ifs <;> simp
  · rw [hlead] at hs
    cases hs

theorem low_decodeByte (h : ∀ s ∈ begun, 0x7F < s.low.toNat) (b : UInt8) :
    ∀ s ∈ (decodeByte begun b).2, 0x7F < s.low.toNat := by
  cases begun with
  | none => exact low_decodeLead b
  | some s =>
    unfold decodeByte
    dsimp only
    split_ifs
    · simp
    · simp
    · exact low_decodeLead b

/-- The text goes on afresh behind such a byte, whatever was begun before it. -/
theorem decodeAfter_append_cons (hc : c.toNat ≤ 0x7F) (before after : Bytes)
    (h : ∀ s ∈ begun, 0x7F < s.low.toNat) :
    decodeAfter begun (before ++ c :: after) =
      decodeAfter begun before ++ Char.ofNat c.toNat :: decodeAfter none after := by
  induction before generalizing begun with
  | nil =>
    have hlead : decodeLead c = ([Char.ofNat c.toNat], none) := if_pos hc
    have hnone : decodeAfter none (c :: after) = Char.ofNat c.toNat :: decodeAfter none after := by
      rw [decodeAfter, decodeByte, hlead]
      rfl
    cases begun with
    | none => exact hnone
    | some s =>
      have hrefused : ¬ s.Takes c := by
        intro hb
        have hlow := UInt8.le_iff_toNat_le.1 hb.1
        have := h s rfl
        omega
      rw [List.nil_append, decodeAfter_of_refused hrefused, hnone]
      rfl
  | cons b before ih =>
    rw [List.cons_append, decodeAfter, decodeAfter]
    dsimp only
    rw [ih (low_decodeByte h b), List.append_assoc]

end Ascii

end MiniShell
