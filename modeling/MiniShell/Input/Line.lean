import MiniShell.Input.Source
import MiniShell.Text.Lossy

/-!
# Lines of bounded length

A line is read up to its newline, but no more than `limit` bytes of it are kept, the newline
counted. What is left of a longer line is read and thrown away, so it is never taken for a line of
its own.

Interrupted reads are tried again. A read that fails ends the line: the bytes already taken for it
are lost, and the next line starts behind the failure.
-/

namespace MiniShell

/-- The number of bytes kept of a line when a line may be `maxLength` bytes long with a terminator
behind it. At least one byte is kept. -/
def lineLimit (maxLength : Nat) : Nat := max 1 (maxLength - 1)

theorem lineLimit_pos (maxLength : Nat) : 0 < lineLimit maxLength :=
  Nat.lt_of_lt_of_le Nat.zero_lt_one (Nat.le_max_left ..)

/-- The first bytes of a line, at most `room` of them and none after its newline, and the rest. -/
def takeLine : Nat → Bytes → Bytes × Bytes
  | 0, bytes => ([], bytes)
  | _ + 1, [] => ([], [])
  | room + 1, b :: bytes =>
    if b = newline then ([b], bytes)
    else
      let (line, rest) := takeLine room bytes
      (b :: line, rest)

/-- Whether the bytes end with the end of a line. -/
def endsLine (bytes : Bytes) : Bool := bytes.getLast? = some newline

namespace Input

/-- Takes the first bytes of a line, as many as there is room for. The end of the list is the read
that brings nothing. -/
def takeLine (room : Nat) (buffer : Bytes) : Source → Except IoError Bytes × Input
  | [] =>
    let (line, rest) := MiniShell.takeLine room buffer
    (.ok line, ⟨rest, []⟩)
  | event :: source =>
    let (line, rest) := MiniShell.takeLine room buffer
    if endsLine line ∨ line.length = room then (.ok line, ⟨rest, event :: source⟩)
    else
      match event.bytes with
      | .error cause => (.error cause, ⟨rest, source⟩)
      | .ok bytes =>
        let (more, input) := takeLine (room - line.length) bytes source
        (more.map (line ++ ·), input)

/-- Skips everything up to and including the next newline, or up to the read that brings nothing,
which is the end of the list. -/
def skipLine (buffer : Bytes) : Source → Except IoError Unit × Input
  | [] => (.ok (), ⟨(buffer.dropWhile (· != newline)).drop 1, []⟩)
  | event :: source =>
    match buffer.dropWhile (· != newline) with
    | _ :: rest => (.ok (), ⟨rest, event :: source⟩)
    | [] =>
      match event.bytes with
      | .error cause => (.error cause, ⟨[], source⟩)
      | .ok bytes => skipLine bytes source

/-- Reads the next line, if there is one, and keeps at most `limit` bytes of it. Room for them is
asked for in advance. It is taken for granted that there is memory for it, which is never more than
9223372036854775807 bytes. -/
def readLine (limit : Nat) (input : Input) : Except IoError (Option String) × Input :=
  match takeLine limit input.buffer input.source with
  | (.error cause, input) => (.error cause, input)
  | (.ok line, input) =>
    if line.isEmpty then (.ok none, input)
    else if line.length = limit ∧ ¬ endsLine line then
      match skipLine input.buffer input.source with
      | (.error cause, input) => (.error cause, input)
      | (.ok (), input) => (.ok (some (decodeLossy line)), input)
    else (.ok (some (decodeLossy line)), input)

end Input

/-! ## Reading leaves less to read -/

theorem takeLine_append (room : Nat) (bytes : Bytes) :
    (takeLine room bytes).1 ++ (takeLine room bytes).2 = bytes := by
  induction room generalizing bytes with
  | zero => simp [takeLine]
  | succ room ih =>
    cases bytes with
    | nil => simp [takeLine]
    | cons b bytes =>
      by_cases h : b = newline
      · simp [takeLine, h]
      · simp [takeLine, h, ih]

theorem length_takeLine (room : Nat) (bytes : Bytes) :
    (takeLine room bytes).1.length + (takeLine room bytes).2.length = bytes.length := by
  rw [← List.length_append, takeLine_append]

/-- An event weighs more than the bytes it brings. -/
theorem Source.weight_cons {event : ReadEvent} (source : Source) {bytes : Bytes}
    (h : event.bytes = .ok bytes) :
    Source.weight (event :: source) = bytes.length + 1 + source.weight := by
  cases event <;> simp_all [ReadEvent.bytes, Source.weight]

theorem Source.weight_lt_weight_cons (event : ReadEvent) (source : Source) :
    source.weight < Source.weight (event :: source) := by
  cases event <;> simp only [Source.weight] <;> omega

namespace Input

/-- Taking bytes, or failing to, uses up some of the input. -/
theorem weight_takeLine (room : Nat) (buffer : Bytes) (source : Source) :
    (takeLine room buffer source).2.weight +
      (match (takeLine room buffer source).1 with | .ok line => line.length | .error _ => 1) ≤
        weight ⟨buffer, source⟩ := by
  induction source generalizing room buffer with
  | nil =>
    have := length_takeLine room buffer
    simp only [takeLine, weight, Source.weight]
    omega
  | cons event source ih =>
    have hsplit := length_takeLine room buffer
    have hlt := Source.weight_lt_weight_cons event source
    unfold takeLine
    dsimp only
    split
    · simp only [weight]; omega
    · split
      · simp only [weight]; omega
      · rename_i bytes hbytes
        have hbytes := Source.weight_cons source hbytes
        have ih := ih (room - (MiniShell.takeLine room buffer).1.length) bytes
        rcases htake : takeLine (room - (MiniShell.takeLine room buffer).1.length) bytes source with
          ⟨more, input⟩
        rw [htake] at ih
        cases more with
        | error cause => simp only [weight, Except.map] at *; omega
        | ok more =>
          change input.weight + more.length ≤ _ at ih
          change input.weight + ((MiniShell.takeLine room buffer).1 ++ more).length ≤ _
          rw [List.length_append]
          simp only [weight] at *; omega

theorem weight_skipLine (buffer : Bytes) (source : Source) :
    (skipLine buffer source).2.weight ≤ weight ⟨buffer, source⟩ := by
  induction source generalizing buffer with
  | nil =>
    have : (buffer.dropWhile (· != newline)).length ≤ buffer.length :=
      (List.dropWhile_suffix _).length_le
    simp only [skipLine, weight, List.length_drop, Source.weight]
    omega
  | cons event source ih =>
    have hle : (buffer.dropWhile (· != newline)).length ≤ buffer.length :=
      (List.dropWhile_suffix _).length_le
    have hlt := Source.weight_lt_weight_cons event source
    unfold skipLine
    split
    · rename_i rest hrest
      rw [hrest, List.length_cons] at hle
      simp only [weight]; omega
    · split
      · simp only [weight, List.length_nil]; omega
      · rename_i bytes hbytes
        have := ih bytes
        have := Source.weight_cons source hbytes
        simp only [weight] at *; omega

theorem weight_readLine (limit : Nat) (input : Input)
    (h : (input.readLine limit).1 ≠ .ok none) :
    (input.readLine limit).2.weight < input.weight := by
  have hw := weight_takeLine limit input.buffer input.source
  revert h
  fun_cases readLine limit input with
  | case1 cause after htake => rw [htake] at hw; simp only [weight] at *; omega
  | case2 line after htake hline => simp
  | case3 line after htake hline hlong cause skipped hskip =>
    have hs := weight_skipLine after.buffer after.source
    rw [htake] at hw
    rw [hskip] at hs
    have := List.length_pos_iff.2 (mt List.isEmpty_iff.2 hline)
    simp only [weight] at *; omega
  | case4 line after htake hline hlong skipped hskip =>
    have hs := weight_skipLine after.buffer after.source
    rw [htake] at hw
    rw [hskip] at hs
    have := List.length_pos_iff.2 (mt List.isEmpty_iff.2 hline)
    simp only [weight] at *; omega
  | case5 line after htake hline hshort =>
    rw [htake] at hw
    have := List.length_pos_iff.2 (mt List.isEmpty_iff.2 hline)
    simp only [weight] at *; omega

/-- What reading line after line meets until the source ends: lines, and reads that failed. -/
def lines (limit : Nat) (input : Input) : List (Except IoError String) :=
  match _hread : input.readLine limit with
  | (.ok none, _) => []
  | (.ok (some line), rest) => .ok line :: lines limit rest
  | (.error cause, rest) => .error cause :: lines limit rest
termination_by input.weight
decreasing_by
  all_goals
    have := weight_readLine limit input (by rw [_hread]; simp)
    rw [_hread] at this
    exact this

end Input

end MiniShell
