import MiniShell.Proofs.Input.Delivery
import MiniShell.Proofs.Shell.Line

/-!
# The lines to run

`Content.commands` says without a reader and without a loop which lines of an input a session is to
run: those in front of the first failure (`Content.texts_eq_untilFailure`), up to one that ends the
session. What a failed read leaves of an overlong line would be taken for a line by a further read.
It is not among them.

`Input.texts_readLine` takes the first line away.
-/

namespace MiniShell

namespace Content

/-- What is shown of the lines in front of the first failure. Without a failure the last line needs
no newline. -/
def texts (limit : Nat) (content : Content) : List String :=
  match (segments content).failed with
  | [] => (allLines (segments content).last).map (shown limit)
  | (bytes, _) :: _ => (cutLines bytes).1.map (shown limit)

/-- The lines to run: up to the first that ends the session, if one does. -/
def commands (config : Config) (content : Content) : List String :=
  let lines := texts (max 1 (config.maxLineLength - 1)) content
  lines.take (lines.findIdx (Shell.endsSession config.maxTokens) + 1)

/-- The answers in front of the first failure. -/
def untilFailure {α : Type} : List (Except IoError α) → List α
  | .ok a :: answers => a :: untilFailure answers
  | .error _ :: _ | [] => []

theorem untilFailure_map_ok {α : Type} (answers : List α) (rest : List (Except IoError α)) :
    untilFailure (answers.map .ok ++ rest) = answers ++ untilFailure rest := by
  induction answers with
  | nil => rfl
  | cons a answers ih => exact congrArg (a :: ·) ih

/-- These lines are what a reader delivers in front of the first failure. -/
theorem texts_eq_untilFailure (limit : Nat) (content : Content) :
    texts limit content = untilFailure (deliveries limit content) := by
  have hmap : ∀ lines : List Bytes,
      lines.map (fun line => (.ok (shown limit line) : Except IoError String)) =
        (lines.map (shown limit)).map .ok := fun lines => List.map_map.symm
  unfold texts deliveries
  rcases (segments content).failed with _ | ⟨⟨bytes, cause⟩, failed⟩
  · have h := untilFailure_map_ok ((allLines (segments content).last).map (shown limit)) []
    rw [List.append_nil, untilFailure, List.append_nil] at h
    rw [List.flatMap_nil, List.nil_append, hmap, h]
  · rw [List.flatMap_cons, List.append_assoc, List.append_assoc, hmap, untilFailure_map_ok]
    exact (List.append_nil _).symm

theorem texts_line (limit : Nat) {body : Bytes} (h : newline ∉ body) (rest : Content) :
    texts limit ((body ++ [newline]).map .ok ++ rest) =
      shown limit (body ++ [newline]) :: texts limit rest := by
  rw [texts_eq_untilFailure, texts_eq_untilFailure, deliveries_line limit h]
  rfl

theorem texts_failed (limit : Nat) {tail : Bytes} (h : newline ∉ tail) (cause : IoError)
    (rest : Content) : texts limit (tail.map .ok ++ .error cause :: rest) = [] := by
  rw [texts_eq_untilFailure, deliveries_failed limit h]
  rfl

theorem texts_tail (limit : Nat) {tail : Bytes} (h : newline ∉ tail) :
    texts limit (tail.map .ok) = if tail = [] then [] else [shown limit tail] := by
  rw [texts_eq_untilFailure, deliveries_tail limit h]
  split <;> rfl

/-- A line comes first, and the others only if it does not end the session. -/
theorem commands_of_texts {config : Config} {content rest : Content} {line : String}
    (h : texts (max 1 (config.maxLineLength - 1)) content =
      line :: texts (max 1 (config.maxLineLength - 1)) rest) :
    commands config content =
      line :: if Shell.endsSession config.maxTokens line then [] else commands config rest := by
  unfold commands
  dsimp only
  rw [h, List.findIdx_cons]
  cases Shell.endsSession config.maxTokens line <;> simp

theorem commands_of_nil {config : Config} {content : Content}
    (h : texts (max 1 (config.maxLineLength - 1)) content = []) : commands config content = [] := by
  unfold commands
  dsimp only
  rw [h]
  rfl

/-- The first failure. -/
def failure? : Content → Option IoError
  | [] => none
  | .ok _ :: content => failure? content
  | .error cause :: _ => some cause

theorem failure?_append (bytes : Bytes) (content : Content) :
    failure? (bytes.map .ok ++ content) = failure? content := by
  induction bytes with
  | nil => rfl
  | cons b bytes ih => exact ih

end Content

/-- There is a failure if some read of the source fails. -/
theorem Source.failure?_content (source : Source) :
    source.content.failure?.isSome ↔ ∃ cause, .failed cause ∈ source := by
  induction source with
  | nil => simp [Content.failure?]
  | cons event source ih =>
    rw [content_cons]
    cases event with
    | block bytes => simpa [ReadEvent.content, Content.failure?_append] using ih
    | interrupted => simpa [ReadEvent.content] using ih
    | failed cause => simp [ReadEvent.content, Content.failure?]

/-! ## Line by line -/

namespace Input

/-- What is read next is the first line, and all else is left, or it is the first failure, or there
is nothing left to read. -/
theorem texts_readLine {limit : Nat} (hlimit : 0 < limit) (input : Input) :
    match (input.readLine limit).1 with
    | .ok (some line) =>
      input.content.texts limit = line :: (input.readLine limit).2.content.texts limit ∧
        input.content.failure? = (input.readLine limit).2.content.failure?
    | .error cause => input.content.texts limit = [] ∧ input.content.failure? = some cause
    | .ok none => input.content.texts limit = [] ∧ input.content.failure? = none := by
  have hbytes : ∀ bytes : Bytes, Content.failure? (bytes.map .ok) = none := by
    intro bytes
    have h := Content.failure?_append bytes []
    rwa [List.append_nil] at h
  obtain ⟨body, rest, hbody, h⟩ | ⟨tail, cause, rest, htail, h⟩ | ⟨tail, htail, h⟩ :=
    input.content.cases_line
  · obtain ⟨hread, hrest⟩ := readLine_line hlimit hbody h
    rw [hread, hrest, h]
    exact ⟨Content.texts_line limit hbody rest, Content.failure?_append _ rest⟩
  · obtain ⟨hread, -⟩ := readLine_failed hlimit htail h
    rw [hread, h]
    exact ⟨Content.texts_failed limit htail cause rest, Content.failure?_append tail _⟩
  · by_cases hne : tail = []
    · have hread : (input.readLine limit).1 = .ok none :=
        (readLine_nil (h.trans (by rw [hne]; rfl))).1
      rw [hread, h]
      exact ⟨(Content.texts_tail limit htail).trans (if_pos hne), hbytes tail⟩
    · obtain ⟨hread, hrest⟩ := readLine_tail hlimit htail hne h
      rw [hread, hrest, h]
      exact ⟨(Content.texts_tail limit htail).trans (if_neg hne), hbytes tail⟩

/-- The first command is the line that is read next, and without such a line there is none. -/
theorem commands_readLine (config : Config) (input : Input) :
    input.content.commands config =
      match (input.readLine (lineLimit config.maxLineLength)).1 with
      | .ok (some line) =>
        line :: if Shell.endsSession config.maxTokens line then []
          else (input.readLine (lineLimit config.maxLineLength)).2.content.commands config
      | .ok none | .error _ => [] := by
  have htexts := texts_readLine (lineLimit_pos config.maxLineLength) input
  split <;> rename_i hread <;> rw [hread] at htexts
  · exact Content.commands_of_texts htexts.1
  · exact Content.commands_of_nil htexts.1
  · exact Content.commands_of_nil htexts.1

end Input

end MiniShell
