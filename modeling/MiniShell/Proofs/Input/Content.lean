import MiniShell.Input.Line

/-!
# Reading byte after byte

The content of an input is what is left of it when the cuts between reads and the interrupted
reads are forgotten: bytes and failures, in the order in which they are met. On contents a line is
read by plain recursion, one byte at a time (`Content.takeLine`, `Content.skipLine`).

1. The reader over blocks does what the reader over bytes does (`content_takeLine`,
   `content_skipLine`), whatever the blocks are.
2. What comes first in a content is a line with its newline, an unfinished line in front of a
   failure, or all that is left (`Content.cases_line`). `readLine_line`, `readLine_failed`,
   `readLine_tail` and `readLine_nil` say what the reader makes of each.
-/

namespace MiniShell

/-- Bytes and failures, in the order in which they are met. -/
abbrev Content := List (Except IoError UInt8)

def ReadEvent.content : ReadEvent → Content
  | .block bytes => bytes.map .ok
  | .interrupted => []
  | .failed cause => [.error cause]

/-- What a source brings, whatever the cuts between its reads. -/
def Source.content (source : Source) : Content := source.flatMap ReadEvent.content

/-- What is left to read. -/
def Input.content (input : Input) : Content := input.buffer.map .ok ++ input.source.content

@[simp] theorem Source.content_nil : Source.content [] = [] := rfl

@[simp] theorem Source.content_cons (event : ReadEvent) (source : Source) :
    Source.content (event :: source) = event.content ++ source.content := rfl

@[simp] theorem Input.content_ofSource (source : Source) :
    (Input.ofSource source).content = source.content := rfl

/-! ## Buffers in front of a source -/

theorem flatten_pieces (size : Nat) (bytes : Bytes) : (pieces size bytes).flatten = bytes := by
  fun_induction pieces size bytes with
  | case1 bytes h => simp
  | case2 bytes h ih => rw [List.flatten_cons, ih, List.take_append_drop]

theorem content_map_block (blocks : List Bytes) :
    Source.content (blocks.map .block) = blocks.flatten.map .ok := by
  induction blocks with
  | nil => rfl
  | cons block blocks ih =>
    rw [List.map_cons, Source.content_cons, ih, List.flatten_cons, List.map_append]
    rfl

/-- A buffer of any size leaves the content as it is. -/
theorem content_buffered (size : Nat) (source : Source) :
    (source.buffered size).content = source.content := by
  induction source with
  | nil => rfl
  | cons event source ih =>
    have hsplit : Source.buffered size (event :: source) =
        Source.buffered size [event] ++ Source.buffered size source := by
      simp [Source.buffered]
    have hevent : Source.content (Source.buffered size [event]) = event.content := by
      cases event with
      | block bytes =>
        have h := content_map_block (pieces (size - 1) bytes)
        rw [flatten_pieces] at h
        simpa [Source.buffered, ReadEvent.content] using h
      | interrupted => rfl
      | failed cause => rfl
    rw [hsplit, Source.content_cons, ← ih, ← hevent]
    simp [Source.content]

/-! ## The reader over bytes -/

namespace Content

/-- Takes the first bytes of a line, as many as there is room for. -/
def takeLine : Nat → Content → Except IoError Bytes × Content
  | 0, content => (.ok [], content)
  | _ + 1, [] => (.ok [], [])
  | _ + 1, .error cause :: content => (.error cause, content)
  | room + 1, .ok b :: content =>
    if b = newline then (.ok [b], content)
    else
      let (line, rest) := takeLine room content
      (line.map (b :: ·), rest)

/-- Skips everything up to and including the next newline. -/
def skipLine : Content → Except IoError Unit × Content
  | [] => (.ok (), [])
  | .error cause :: content => (.error cause, content)
  | .ok b :: content => if b = newline then (.ok (), content) else skipLine content

theorem takeLine_zero (content : Content) : takeLine 0 content = (.ok [], content) := by
  cases content <;> rfl

theorem takeLine_nil (room : Nat) : takeLine room [] = (.ok [], []) := by
  cases room <;> rfl

end Content

theorem endsLine_cons {b : UInt8} (hb : b ≠ newline) (bytes : Bytes) :
    endsLine (b :: bytes) = endsLine bytes := by
  cases bytes with
  | nil => simpa [endsLine] using hb
  | cons c bytes => simp [endsLine]

theorem endsLine_append_newline (bytes : Bytes) : endsLine (bytes ++ [newline]) = true := by
  simp [endsLine]

theorem not_endsLine {bytes : Bytes} (h : newline ∉ bytes) : endsLine bytes = false := by
  unfold endsLine
  rw [decide_eq_false_iff_not]
  exact fun hlast => h (List.mem_of_getLast? hlast)

theorem length_takeLine_le (room : Nat) (bytes : Bytes) :
    (takeLine room bytes).1.length ≤ room := by
  induction room generalizing bytes with
  | zero => simp [takeLine]
  | succ room ih =>
    cases bytes with
    | nil => simp [takeLine]
    | cons b bytes =>
      have := ih bytes
      by_cases hb : b = newline
      · simp [takeLine, hb]
      · simp [takeLine, hb, this]

/-- A block that ends before the line does is used up. -/
theorem takeLine_rest_eq_nil {room : Nat} {bytes : Bytes}
    (hend : ¬ endsLine (takeLine room bytes).1) (hroom : (takeLine room bytes).1.length ≠ room) :
    (takeLine room bytes).2 = [] := by
  induction room generalizing bytes with
  | zero => simp [takeLine] at hroom
  | succ room ih =>
    cases bytes with
    | nil => rfl
    | cons b bytes =>
      by_cases hb : b = newline
      · simp [takeLine, hb, endsLine] at hend
      · simp only [takeLine, if_neg hb] at hend hroom ⊢
        rw [endsLine_cons hb] at hend
        exact ih hend (by simpa using hroom)

namespace Content

/-- Bytes that are at hand are taken first. -/
theorem takeLine_append (room : Nat) (buffer : Bytes) (rest : Content) :
    takeLine room (buffer.map .ok ++ rest) =
      if endsLine (MiniShell.takeLine room buffer).1 ∨
          (MiniShell.takeLine room buffer).1.length = room then
        (.ok (MiniShell.takeLine room buffer).1,
          (MiniShell.takeLine room buffer).2.map .ok ++ rest)
      else
        ((takeLine (room - (MiniShell.takeLine room buffer).1.length) rest).1.map
            ((MiniShell.takeLine room buffer).1 ++ ·),
          (takeLine (room - (MiniShell.takeLine room buffer).1.length) rest).2) := by
  induction room generalizing buffer with
  | zero => simp [MiniShell.takeLine, takeLine_zero]
  | succ room ih =>
    cases buffer with
    | nil =>
      have hid : ∀ r : Except IoError Bytes, r.map (fun line => line) = r := by
        intro r; cases r <;> rfl
      simp [MiniShell.takeLine, endsLine, hid]
    | cons b buffer =>
      by_cases hb : b = newline
      · simp [MiniShell.takeLine, takeLine, hb, endsLine]
      · have hmap : ∀ (line : Bytes) (r : Except IoError Bytes),
            (r.map (line ++ ·)).map (b :: ·) = r.map (b :: line ++ ·) := by
          intro line r; cases r <;> rfl
        simp only [MiniShell.takeLine, if_neg hb, endsLine_cons hb, List.map_cons,
          List.cons_append, takeLine, ih, List.length_cons, Nat.add_right_cancel_iff,
          Nat.add_sub_add_right]
        split
        · rfl
        · rw [hmap]; rfl

theorem skipLine_append (buffer : Bytes) (rest : Content) :
    skipLine (buffer.map .ok ++ rest) =
      match buffer.dropWhile (· != newline) with
      | [] => skipLine rest
      | _ :: left => (.ok (), left.map .ok ++ rest) := by
  induction buffer with
  | nil => rfl
  | cons b buffer ih =>
    by_cases hb : b = newline
    · simp [skipLine, hb]
    · simp [skipLine, hb, ih]

end Content

/-! ## Blocks do not matter -/

namespace Input

/-- Taking bytes from blocks is taking them from the content. -/
theorem content_takeLine (room : Nat) (buffer : Bytes) (source : Source) :
    Content.takeLine room (content ⟨buffer, source⟩) =
      ((takeLine room buffer source).1, (takeLine room buffer source).2.content) := by
  induction source generalizing room buffer with
  | nil =>
    rw [content, Content.takeLine_append, takeLine]
    split
    · rfl
    · rename_i hopen
      rw [not_or] at hopen
      have hleft := takeLine_rest_eq_nil hopen.1 hopen.2
      simp [Content.takeLine_nil, hleft, content, Except.map]
  | cons event source ih =>
    rw [content, Content.takeLine_append, takeLine]
    dsimp only
    split
    · rfl
    · rename_i hopen
      rw [not_or] at hopen
      have hleft := takeLine_rest_eq_nil hopen.1 hopen.2
      obtain ⟨k, hk⟩ : ∃ k, room - (MiniShell.takeLine room buffer).1.length = k + 1 := by
        have := length_takeLine_le room buffer
        exact ⟨room - (MiniShell.takeLine room buffer).1.length - 1, by omega⟩
      cases event with
      | block bytes =>
        have ih := ih (k + 1) bytes
        rw [content] at ih
        simp [ReadEvent.content, ReadEvent.bytes, hk, ih]
      | interrupted =>
        have ih := ih (k + 1) []
        rw [content, List.map_nil, List.nil_append] at ih
        simp [ReadEvent.content, ReadEvent.bytes, hk, ih]
      | failed cause =>
        simp [ReadEvent.content, ReadEvent.bytes, hk, Content.takeLine, content, hleft, Except.map]

/-- Skipping a line in blocks is skipping it in the content. -/
theorem content_skipLine (buffer : Bytes) (source : Source) :
    Content.skipLine (content ⟨buffer, source⟩) =
      ((skipLine buffer source).1, (skipLine buffer source).2.content) := by
  induction source generalizing buffer with
  | nil =>
    rw [content, Content.skipLine_append, skipLine]
    cases buffer.dropWhile (· != newline) with
    | nil => rfl
    | cons b left => simp [content]
  | cons event source ih =>
    rw [content, Content.skipLine_append, skipLine]
    cases buffer.dropWhile (· != newline) with
    | cons b left => rfl
    | nil =>
      cases event with
      | block bytes =>
        have ih := ih bytes
        rw [content] at ih
        simpa [ReadEvent.content, ReadEvent.bytes] using ih
      | interrupted =>
        have ih := ih []
        rw [content, List.map_nil, List.nil_append] at ih
        simpa [ReadEvent.content, ReadEvent.bytes] using ih
      | failed cause => rfl

end Input

/-! ## What comes first in a content -/

namespace Content

/-- A content starts with a line and its newline, with an unfinished line and a failure, or is
one unfinished line. -/
theorem cases_line (content : Content) :
    (∃ (body : Bytes) (rest : Content),
        newline ∉ body ∧ content = (body ++ [newline]).map .ok ++ rest) ∨
      (∃ (tail : Bytes) (cause : IoError) (rest : Content),
        newline ∉ tail ∧ content = tail.map .ok ++ .error cause :: rest) ∨
      ∃ tail : Bytes, newline ∉ tail ∧ content = tail.map .ok := by
  induction content with
  | nil => exact .inr (.inr ⟨[], by simp, rfl⟩)
  | cons head content ih =>
    cases head with
    | error cause => exact .inr (.inl ⟨[], cause, content, by simp, rfl⟩)
    | ok b =>
      by_cases hb : b = newline
      · exact .inl ⟨[], content, by simp, by rw [hb]; rfl⟩
      · have hcons : ∀ bytes : Bytes, newline ∉ bytes → newline ∉ b :: bytes := by
          intro bytes hbytes
          simpa [Ne.symm hb] using hbytes
        obtain ⟨body, rest, hbody, rfl⟩ | ⟨tail, cause, rest, htail, rfl⟩ | ⟨tail, htail, rfl⟩ := ih
        · exact .inl ⟨b :: body, rest, hcons body hbody, rfl⟩
        · exact .inr (.inl ⟨b :: tail, cause, rest, hcons tail htail, rfl⟩)
        · exact .inr (.inr ⟨b :: tail, hcons tail htail, rfl⟩)

/-- Inside a line only the room for it counts. -/
theorem takeLine_of_not_mem {bytes : Bytes} (h : newline ∉ bytes) (room : Nat) (rest : Content) :
    takeLine room (bytes.map .ok ++ rest) =
      if room ≤ bytes.length then (.ok (bytes.take room), (bytes.drop room).map .ok ++ rest)
      else
        ((takeLine (room - bytes.length) rest).1.map (bytes ++ ·),
          (takeLine (room - bytes.length) rest).2) := by
  have htake : MiniShell.takeLine room bytes = (bytes.take room, bytes.drop room) := by
    induction bytes generalizing room with
    | nil => cases room <;> rfl
    | cons b bytes ih =>
      rw [List.mem_cons, not_or] at h
      cases room with
      | zero => rfl
      | succ room => simp [MiniShell.takeLine, Ne.symm h.1, ih h.2]
  rw [takeLine_append, htake]
  by_cases hroom : room ≤ bytes.length
  · simp [hroom]
  · have hlt : bytes.length < room := Nat.lt_of_not_le hroom
    simp [not_endsLine h, hroom, List.take_of_length_le (Nat.le_of_lt hlt), Nat.ne_of_lt hlt]

theorem skipLine_of_not_mem {bytes : Bytes} (h : newline ∉ bytes) (rest : Content) :
    skipLine (bytes.map .ok ++ rest) = skipLine rest := by
  induction bytes with
  | nil => rfl
  | cons b bytes ih =>
    rw [List.mem_cons, not_or] at h
    simp [skipLine, Ne.symm h.1, ih h.2]

end Content

/-! ## What a reader makes of it -/

namespace Input

variable {limit : Nat} {input : Input}

theorem takeLine_eq_of_content {result : Except IoError Bytes} {left : Content}
    (h : Content.takeLine limit input.content = (result, left)) :
    ∃ after : Input, takeLine limit input.buffer input.source = (result, after) ∧
      after.content = left := by
  have htake := (content_takeLine limit input.buffer input.source).symm.trans h
  rw [Prod.mk.injEq] at htake
  exact ⟨(takeLine limit input.buffer input.source).2, Prod.ext htake.1 rfl, htake.2⟩

theorem readLine_of_error {cause : IoError} {left : Content}
    (h : Content.takeLine limit input.content = (.error cause, left)) :
    (input.readLine limit).1 = .error cause ∧ (input.readLine limit).2.content = left := by
  obtain ⟨after, htake, rfl⟩ := takeLine_eq_of_content h
  rw [readLine, htake]
  exact ⟨rfl, rfl⟩

/-- A line that fits is read as it stands. -/
theorem readLine_of_fits {line : Bytes} {left : Content}
    (h : Content.takeLine limit input.content = (.ok line, left)) (hne : line ≠ [])
    (hfits : line.length ≠ limit ∨ endsLine line) :
    (input.readLine limit).1 = .ok (some (decodeLossy line)) ∧
      (input.readLine limit).2.content = left := by
  obtain ⟨after, htake, rfl⟩ := takeLine_eq_of_content h
  have hshort : ¬ (line.length = limit ∧ ¬ endsLine line) := by
    rintro ⟨hlen, hend⟩
    exact hfits.elim (· hlen) hend
  rw [readLine, htake]
  simp only [List.isEmpty_iff, if_neg hne, if_neg hshort]
  exact ⟨trivial, trivial⟩

/-- Of a line that does not fit the rest is skipped, and skipping may fail. -/
theorem readLine_of_long (hlimit : 0 < limit) {bytes : Bytes} {rest : Content}
    (hbytes : newline ∉ bytes) (hlong : limit ≤ bytes.length)
    (h : input.content = bytes.map .ok ++ rest) :
    (input.readLine limit).1 =
        (Content.skipLine rest).1.map (fun _ => some (decodeLossy (bytes.take limit))) ∧
      (input.readLine limit).2.content = (Content.skipLine rest).2 := by
  have htake := Content.takeLine_of_not_mem hbytes limit rest
  rw [← h, if_pos hlong] at htake
  obtain ⟨after, htake, hafter⟩ := takeLine_eq_of_content htake
  have hlen : (bytes.take limit).length = limit := by rw [List.length_take]; omega
  have hne : bytes.take limit ≠ [] := List.length_pos_iff.1 (by omega)
  have hopen : ¬ endsLine (bytes.take limit) := by
    simp [not_endsLine fun hmem => hbytes (List.mem_of_mem_take hmem)]
  have hskip := content_skipLine after.buffer after.source
  rw [show content ⟨after.buffer, after.source⟩ = _ from hafter,
    Content.skipLine_of_not_mem fun hmem => hbytes (List.mem_of_mem_drop hmem)] at hskip
  rw [readLine, htake, hskip]
  simp only [List.isEmpty_iff, if_neg hne, if_pos (And.intro hlen hopen)]
  rcases skipLine after.buffer after.source with ⟨result, left⟩
  cases result <;> exact ⟨rfl, rfl⟩

/-- A line is cut at the limit, and the rest of it is gone with it. -/
theorem readLine_line (hlimit : 0 < limit) {body : Bytes} {rest : Content}
    (hbody : newline ∉ body) (h : input.content = (body ++ [newline]).map .ok ++ rest) :
    (input.readLine limit).1 = .ok (some (decodeLossy ((body ++ [newline]).take limit))) ∧
      (input.readLine limit).2.content = rest := by
  have hsplit : input.content = body.map .ok ++ .ok newline :: rest := by
    rw [h, List.map_append, List.append_assoc]; rfl
  by_cases hlong : limit ≤ body.length
  · rw [List.take_append_of_le_length hlong]
    simpa [Content.skipLine, Except.map] using readLine_of_long hlimit hbody hlong hsplit
  · obtain ⟨k, hk⟩ : ∃ k, limit - body.length = k + 1 := ⟨limit - body.length - 1, by omega⟩
    have htake := Content.takeLine_of_not_mem hbody limit (.ok newline :: rest)
    rw [← hsplit, if_neg hlong, hk] at htake
    rw [List.take_of_length_le (by rw [List.length_append, List.length_singleton]; omega)]
    exact readLine_of_fits (by simpa [Content.takeLine, Except.map] using htake) (by simp)
      (.inr (endsLine_append_newline body))

/-- A failure before the end of a line loses the line. -/
theorem readLine_failed (hlimit : 0 < limit) {tail : Bytes} {cause : IoError} {rest : Content}
    (htail : newline ∉ tail) (h : input.content = tail.map .ok ++ .error cause :: rest) :
    (input.readLine limit).1 = .error cause ∧ (input.readLine limit).2.content = rest := by
  by_cases hlong : limit ≤ tail.length
  · exact readLine_of_long hlimit htail hlong h
  · obtain ⟨k, hk⟩ : ∃ k, limit - tail.length = k + 1 := ⟨limit - tail.length - 1, by omega⟩
    have htake := Content.takeLine_of_not_mem htail limit (.error cause :: rest)
    rw [← h, if_neg hlong, hk] at htake
    exact readLine_of_error htake

/-- The last line needs no newline. -/
theorem readLine_tail (hlimit : 0 < limit) {tail : Bytes} (htail : newline ∉ tail)
    (hne : tail ≠ []) (h : input.content = tail.map .ok) :
    (input.readLine limit).1 = .ok (some (decodeLossy (tail.take limit))) ∧
      (input.readLine limit).2.content = [] := by
  rw [← List.append_nil (tail.map _)] at h
  by_cases hlong : limit ≤ tail.length
  · exact readLine_of_long hlimit htail hlong h
  · have htake := Content.takeLine_of_not_mem htail limit []
    rw [← h, if_neg hlong, Content.takeLine_nil] at htake
    rw [List.take_of_length_le (by omega)]
    exact readLine_of_fits (by simpa [Except.map] using htake) hne (.inl (by omega))

theorem readLine_nil (h : input.content = []) :
    (input.readLine limit).1 = .ok none ∧ (input.readLine limit).2.content = [] := by
  have htake := Content.takeLine_nil limit
  rw [← h] at htake
  obtain ⟨after, htake, hafter⟩ := takeLine_eq_of_content htake
  rw [readLine, htake]
  exact ⟨rfl, hafter.trans h⟩

/-! ## What is left of a source -/

theorem takeLine_suffix (room : Nat) (buffer : Bytes) (source : Source) :
    (takeLine room buffer source).2.source <:+ source := by
  induction source generalizing room buffer with
  | nil => exact List.suffix_refl []
  | cons event source ih =>
    rw [takeLine]
    dsimp only
    split
    · exact List.suffix_refl _
    · cases event with
      | block bytes => exact (ih _ _).trans (List.suffix_cons _ _)
      | interrupted => exact (ih _ _).trans (List.suffix_cons _ _)
      | failed cause => exact List.suffix_cons _ _

theorem skipLine_suffix (buffer : Bytes) (source : Source) :
    (skipLine buffer source).2.source <:+ source := by
  induction source generalizing buffer with
  | nil => exact List.suffix_refl []
  | cons event source ih =>
    rw [skipLine]
    split
    · exact List.suffix_refl _
    · cases event with
      | block bytes => exact (ih _).trans (List.suffix_cons _ _)
      | interrupted => exact (ih _).trans (List.suffix_cons _ _)
      | failed cause => exact List.suffix_cons _ _

/-- Reading a line takes reads from the front of the source. -/
theorem readLine_suffix (limit : Nat) (input : Input) :
    (input.readLine limit).2.source <:+ input.source := by
  have htake := takeLine_suffix limit input.buffer input.source
  fun_cases readLine limit input with
  | case1 cause after hread => rwa [hread] at htake
  | case2 line after hread hline => rwa [hread] at htake
  | case3 line after hread hline hlong cause skipped hskip =>
    have := skipLine_suffix after.buffer after.source
    rw [hread] at htake
    rw [hskip] at this
    exact this.trans htake
  | case4 line after hread hline hlong skipped hskip =>
    have := skipLine_suffix after.buffer after.source
    rw [hread] at htake
    rw [hskip] at this
    exact this.trans htake
  | case5 line after hread hline hshort => rwa [hread] at htake

end Input

end MiniShell
