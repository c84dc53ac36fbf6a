import MiniShell.Proofs.Input.Content

/-!
# What a reader delivers

Reading line after line, stated without a reader. A content is cut at its failures
(`Content.segments`) and the bytes between two failures are cut behind their newlines
(`cutLines`); both cuts are exact, as joining the pieces gives back what was cut
(`content_segments`, `flatten_cutLines`).

1. `Content.deliveries` lists what there is to deliver: the first bytes of every line, in order,
   and every failure at its place.
2. `lines_eq_deliveries`: this is what reading delivers, from whatever blocks and through
   whatever buffer.
-/

namespace MiniShell

/-! ## Lines of a byte string -/

/-- A line with the newline that ends it. -/
def IsLine (line : Bytes) : Prop := ∃ body : Bytes, newline ∉ body ∧ line = body ++ [newline]

/-- The lines of a byte string, each with its newline, and what stands behind the last newline. -/
def cutLines : Bytes → List Bytes × Bytes
  | [] => ([], [])
  | b :: bytes =>
    if b = newline then ([b] :: (cutLines bytes).1, (cutLines bytes).2)
    else
      match (cutLines bytes).1 with
      | [] => ([], b :: (cutLines bytes).2)
      | line :: lines => ((b :: line) :: lines, (cutLines bytes).2)

/-- The lines of a byte string, the last of which needs no newline. -/
def allLines (bytes : Bytes) : List Bytes :=
  if (cutLines bytes).2 = [] then (cutLines bytes).1 else (cutLines bytes).1 ++ [(cutLines bytes).2]

theorem flatten_cutLines (bytes : Bytes) :
    (cutLines bytes).1.flatten ++ (cutLines bytes).2 = bytes := by
  induction bytes with
  | nil => rfl
  | cons b bytes ih =>
    by_cases hb : b = newline
    · simp [cutLines, hb, ih]
    · rw [cutLines, if_neg hb]
      split
      · rename_i hlines
        rw [hlines] at ih
        simpa using ih
      · rename_i line lines hlines
        rw [hlines] at ih
        simpa using ih

theorem cutLines_tail {tail : Bytes} (h : newline ∉ tail) : cutLines tail = ([], tail) := by
  induction tail with
  | nil => rfl
  | cons b tail ih =>
    rw [List.mem_cons, not_or] at h
    simp [cutLines, Ne.symm h.1, ih h.2]

/-- The first line is cut off and the rest is cut on its own. -/
theorem cutLines_line {body : Bytes} (h : newline ∉ body) (rest : Bytes) :
    cutLines (body ++ newline :: rest) =
      ((body ++ [newline]) :: (cutLines rest).1, (cutLines rest).2) := by
  induction body with
  | nil => simp [cutLines]
  | cons b body ih =>
    rw [List.mem_cons, not_or] at h
    simp [cutLines, Ne.symm h.1, ih h.2]

theorem isLine_of_mem_cutLines {line bytes : Bytes} (h : line ∈ (cutLines bytes).1) :
    IsLine line := by
  induction bytes generalizing line with
  | nil => simp [cutLines] at h
  | cons b bytes ih =>
    by_cases hb : b = newline
    · rw [cutLines, if_pos hb, List.mem_cons] at h
      rcases h with rfl | h
      · exact ⟨[], by simp, by rw [hb]; rfl⟩
      · exact ih h
    · rw [cutLines, if_neg hb] at h
      split at h
      · simp at h
      · rename_i first lines hlines
        rw [hlines] at ih
        rcases List.mem_cons.1 h with rfl | h
        · obtain ⟨body, hbody, rfl⟩ := ih List.mem_cons_self
          exact ⟨b :: body, by simp [Ne.symm hb, hbody], rfl⟩
        · exact ih (List.mem_cons_of_mem _ h)

theorem newline_not_mem_cutLines (bytes : Bytes) : newline ∉ (cutLines bytes).2 := by
  induction bytes with
  | nil => simp [cutLines]
  | cons b bytes ih =>
    by_cases hb : b = newline
    · rw [cutLines, if_pos hb]; exact ih
    · rw [cutLines, if_neg hb]
      split
      · simp [Ne.symm hb, ih]
      · exact ih

theorem allLines_tail {tail : Bytes} (h : newline ∉ tail) :
    allLines tail = if tail = [] then [] else [tail] := by
  simp [allLines, cutLines_tail h]

theorem allLines_line {body : Bytes} (h : newline ∉ body) (rest : Bytes) :
    allLines (body ++ newline :: rest) = (body ++ [newline]) :: allLines rest := by
  unfold allLines
  rw [cutLines_line h]
  split <;> rfl

/-! ## Segments between failures -/

/-- A content cut at its failures: the bytes before each failure, with the failure, and the bytes
behind the last one. -/
structure Segments where
  failed : List (Bytes × IoError)
  last : Bytes

namespace Segments

/-- The content that was cut. -/
def content (segments : Segments) : Content :=
  (segments.failed.flatMap fun (bytes, cause) => bytes.map .ok ++ [.error cause]) ++
    segments.last.map .ok

/-- The segments of a content that has more bytes in front. -/
def extend (bytes : Bytes) : Segments → Segments
  | ⟨[], last⟩ => ⟨[], bytes ++ last⟩
  | ⟨(first, cause) :: failed, last⟩ => ⟨(bytes ++ first, cause) :: failed, last⟩

theorem content_extend (bytes : Bytes) (segments : Segments) :
    (segments.extend bytes).content = bytes.map .ok ++ segments.content := by
  rcases segments with ⟨_ | ⟨⟨first, cause⟩, failed⟩, last⟩ <;> simp [extend, content]

theorem extend_append (first second : Bytes) (segments : Segments) :
    segments.extend (first ++ second) = (segments.extend second).extend first := by
  rcases segments with ⟨_ | ⟨⟨bytes, cause⟩, failed⟩, last⟩ <;> simp [extend]

end Segments

namespace Content

def segments : Content → Segments
  | [] => ⟨[], []⟩
  | .ok b :: content => (segments content).extend [b]
  | .error cause :: content => ⟨([], cause) :: (segments content).failed, (segments content).last⟩

/-- Cutting loses nothing. -/
theorem content_segments (content : Content) : content.segments.content = content := by
  induction content with
  | nil => rfl
  | cons head content ih =>
    cases head with
    | ok b => rw [segments, Segments.content_extend, ih]; rfl
    | error cause =>
      show .error cause :: (segments content).content = .error cause :: content
      rw [ih]

theorem segments_append (bytes : Bytes) (content : Content) :
    segments (bytes.map .ok ++ content) = (segments content).extend bytes := by
  induction bytes with
  | nil => rcases h : segments content with ⟨_ | ⟨⟨first, cause⟩, failed⟩, last⟩ <;> exact h
  | cons b bytes ih =>
    rw [List.map_cons, List.cons_append, segments, ih, ← Segments.extend_append]
    rfl

/-! ## Deliveries -/

/-- What is shown of a line: the text of its first bytes. -/
def shown (limit : Nat) (line : Bytes) : String := decodeLossy (line.take limit)

/-- All that reading a content has to deliver. Between two failures that is every line, and behind
the last failure an unfinished line too. -/
def deliveries (limit : Nat) (content : Content) : List (Except IoError String) :=
  ((segments content).failed.flatMap fun (bytes, cause) =>
      (cutLines bytes).1.map (fun line => .ok (shown limit line)) ++ [.error cause]) ++
    (allLines (segments content).last).map fun line => .ok (shown limit line)

theorem deliveries_line (limit : Nat) {body : Bytes} (h : newline ∉ body) (rest : Content) :
    deliveries limit ((body ++ [newline]).map .ok ++ rest) =
      .ok (shown limit (body ++ [newline])) :: deliveries limit rest := by
  rw [deliveries, deliveries, segments_append]
  rcases segments rest with ⟨_ | ⟨⟨first, cause⟩, failed⟩, last⟩
  · simp [Segments.extend, allLines_line h]
  · simp [Segments.extend, cutLines_line h]

theorem deliveries_failed (limit : Nat) {tail : Bytes} (h : newline ∉ tail) (cause : IoError)
    (rest : Content) :
    deliveries limit (tail.map .ok ++ .error cause :: rest) =
      .error cause :: deliveries limit rest := by
  rw [deliveries, deliveries, segments_append, segments]
  simp [Segments.extend, cutLines_tail h]

theorem deliveries_tail (limit : Nat) {tail : Bytes} (h : newline ∉ tail) :
    deliveries limit (tail.map .ok) = if tail = [] then [] else [.ok (shown limit tail)] := by
  have hsegments := segments_append tail []
  rw [List.append_nil] at hsegments
  rw [deliveries, hsegments]
  by_cases hne : tail = []
  · subst hne; rfl
  · simp [segments, Segments.extend, allLines_tail h, hne]

end Content

/-! ## The reader delivers them -/

namespace Input

variable {limit : Nat} {input : Input}

theorem lines_of_ok {line : String} (h : (input.readLine limit).1 = .ok (some line)) :
    input.lines limit = .ok line :: (input.readLine limit).2.lines limit := by
  rw [lines]
  split
  · rename_i hread
    rw [hread] at h
    cases h
  · rename_i hread
    rw [hread] at h ⊢
    cases h
    rfl
  · rename_i hread
    rw [hread] at h
    cases h

theorem lines_of_error {cause : IoError} (h : (input.readLine limit).1 = .error cause) :
    input.lines limit = .error cause :: (input.readLine limit).2.lines limit := by
  rw [lines]
  split
  · rename_i hread
    rw [hread] at h
    cases h
  · rename_i hread
    rw [hread] at h
    cases h
  · rename_i hread
    rw [hread] at h ⊢
    cases h
    rfl

theorem lines_of_none (h : (input.readLine limit).1 = .ok none) : input.lines limit = [] := by
  rw [lines]
  split
  · rfl
  · rename_i hread
    rw [hread] at h
    cases h
  · rename_i hread
    rw [hread] at h
    cases h

/-- Reading line after line delivers what the content has to deliver. -/
theorem lines_eq (hlimit : 0 < limit) (input : Input) :
    input.lines limit = input.content.deliveries limit := by
  induction hn : input.content.length using Nat.strongRecOn generalizing input with
  | ind n ih =>
    obtain ⟨body, rest, hbody, h⟩ | ⟨tail, cause, rest, htail, h⟩ | ⟨tail, htail, h⟩ :=
      input.content.cases_line
    · obtain ⟨hread, hrest⟩ := readLine_line hlimit hbody h
      have hlt : (input.readLine limit).2.content.length < n := by
        rw [← hn, h, hrest]; simp; omega
      rw [lines_of_ok hread, ih _ hlt _ rfl, hrest, h, Content.deliveries_line limit hbody]
      rfl
    · obtain ⟨hread, hrest⟩ := readLine_failed hlimit htail h
      have hlt : (input.readLine limit).2.content.length < n := by
        rw [← hn, h, hrest]; simp; omega
      rw [lines_of_error hread, ih _ hlt _ rfl, hrest, h, Content.deliveries_failed limit htail]
    · by_cases hne : tail = []
      · have hread : (input.readLine limit).1 = .ok none :=
          (readLine_nil (by rw [h, hne]; rfl)).1
        rw [lines_of_none hread, h, Content.deliveries_tail limit htail, if_pos hne]
      · obtain ⟨hread, hrest⟩ := readLine_tail hlimit htail hne h
        have hlt : (input.readLine limit).2.content.length < n := by
          rw [← hn, h, hrest]; simpa using List.length_pos_iff.2 hne
        rw [lines_of_ok hread, ih _ hlt _ rfl, hrest, h, Content.deliveries_tail limit htail,
          if_neg hne]
        rfl

/-- **Delivery.** Reading line after line delivers the lines and failures of the content, each line
cut at the limit. Blocks, buffers and interruptions play no part, the segments between failures
make up the content, and the lines of a segment make up the segment. -/
theorem lines_eq_deliveries (maxLength size : Nat) (source : Source) :
    (ofSource (source.buffered size)).lines (lineLimit maxLength) =
        source.content.deliveries (max 1 (maxLength - 1)) ∧
      (∀ (otherSize : Nat) (other : Source), other.content = source.content →
        (ofSource (other.buffered otherSize)).lines (lineLimit maxLength) =
          (ofSource (source.buffered size)).lines (lineLimit maxLength)) ∧
      source.content.segments.content = source.content ∧
      ∀ bytes : Bytes, (cutLines bytes).1.flatten ++ (cutLines bytes).2 = bytes ∧
        (∀ line ∈ (cutLines bytes).1, IsLine line) ∧ newline ∉ (cutLines bytes).2 := by
  have hlimit : 0 < lineLimit maxLength := Nat.lt_of_lt_of_le Nat.zero_lt_one (Nat.le_max_left ..)
  have hlines : ∀ (size : Nat) (source : Source),
      (ofSource (source.buffered size)).lines (lineLimit maxLength) =
        source.content.deliveries (lineLimit maxLength) := by
    intro size source
    rw [lines_eq hlimit, content_ofSource, content_buffered]
  refine ⟨hlines size source, ?_, Content.content_segments source.content, ?_⟩
  · intro otherSize other hcontent
    rw [hlines, hlines, hcontent]
  · intro bytes
    exact ⟨flatten_cutLines bytes, fun _ => isLine_of_mem_cutLines, newline_not_mem_cutLines bytes⟩

/-- An overlong line, an interruption inside it, and a failure that loses an unfinished line. -/
theorem lines_of_two_blockings :
    let source : Source := [.block [97, 10, 98], .interrupted, .block [98, 99, 10, 100, 100, 100],
      .failed (.other "lost"), .block [101]]
    let other : Source := [.block [97, 10], .block [98, 98], .block [99, 10, 100, 100, 100],
      .failed (.other "lost"), .interrupted, .block [101]]
    other.content = source.content ∧ [97, 10] ∈ (cutLines [97, 10]).1 ∧ IsLine [97, 10] ∧
      (ofSource (other.buffered 1)).lines (lineLimit 3) =
        [.ok "a\n", .ok "bb", .error (.other "lost"), .ok "e"] := by
  intro source other
  have hcontent : other.content = source.content := rfl
  have hmem : [97, 10] ∈ (cutLines [97, 10]).1 := by decide
  have h := lines_eq_deliveries 3 8192 source
  have hline : IsLine [97, 10] := (h.2.2.2 [97, 10]).2.1 _ hmem
  exact ⟨hcontent, hmem, hline, (h.2.1 1 other hcontent).trans (h.1.trans rfl)⟩

end Input

end MiniShell
