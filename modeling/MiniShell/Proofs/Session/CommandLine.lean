import MiniShell.CommandLine
import MiniShell.Proofs.Child.Launch
import MiniShell.Proofs.Operands
import MiniShell.Proofs.System.Undisturbed
import MiniShell.Proofs.Text.Encoding

/-!
# The command line picks a session

The program declares one operand, which may be left out, and hands its arguments on behind the
marker. So it comes to the same with any lawful reader (`runProgramWith_eq_runProgram`).

`runProgram_by_count`: the number of arguments decides. The program is an interactive session
without any, and the session of a batch file with one, whatever bytes it consists of. With more it
reports once and does nothing else. The reader never gets to refuse anything.
-/

namespace MiniShell

variable {World Process : Type}

/-- The mode asked for by what is given for the operand. -/
def Mode.ofValues : Values [.optional] → Mode
  | (none, _) => .interactive
  | (some path, _) => .batch (utf8 path)

/-- Runs the program with arguments that are read as operands. -/
def runProgramWith (read : OperandReader) (sys : System World Process) (bound : Nat)
    (process : Process) (arguments : List Bytes) : StateM World (Option Nat) := do
  let words := arguments.map decodeLossy
  if 1 < words.length then
    reportError sys process
    pure (some exitFailure)
  else
    match read [.optional] (asOperands words) with
    | none =>
      reportError sys process
      pure (some exitFailure)
    | some values =>
      let sh ← Shell.new sys process {}
      let (code, _) ← sh.run sys bound (Mode.ofValues values)
      pure code

/-- The session of a shell with the default settings. -/
def Mode.session (sys : System World Process) (bound : Nat) (process : Process) (mode : Mode) :
    StateM World (Option Nat) := do
  let sh ← Shell.new sys process {}
  let (code, _) ← sh.run sys bound mode
  pure code

section Reader

variable {read : OperandReader} (hread : read.Lawful) (sys : System World Process) (bound : Nat)
  (process : Process)

/-- Two arguments and more are refused before any is read. -/
theorem runProgramWith_of_many {arguments : List Bytes} (h : 1 < arguments.length) :
    runProgramWith read sys bound process arguments = (do
      reportError sys process
      pure (some exitFailure)) := by
  unfold runProgramWith
  dsimp only
  rw [List.length_map, if_pos h]

include hread

theorem runProgramWith_nil :
    runProgramWith read sys bound process [] = Mode.interactive.session sys bound process := by
  unfold runProgramWith Mode.session
  dsimp only
  rw [List.map_nil, List.length_nil, if_neg (by decide), hread.read_eq]
  rfl

theorem runProgramWith_singleton (argument : Bytes) :
    runProgramWith read sys bound process [argument] =
      (Mode.batch (utf8 (decodeLossy argument))).session sys bound process := by
  unfold runProgramWith Mode.session
  dsimp only
  rw [List.map_singleton, List.length_singleton, if_neg (by decide), hread.read_eq]
  rfl

/-- No more than one word always suits the operand. -/
theorem read_ne_none {words : List String} (h : words.length ≤ 1) :
    read [.optional] (asOperands words) ≠ none := by
  rw [hread.read_eq]
  rcases words with _ | ⟨word, _ | ⟨extra, more⟩⟩
  · exact Option.some_ne_none _
  · exact Option.some_ne_none _
  · simp at h

end Reader

/-- All lawful readers are the same to the program. -/
theorem runProgramWith_eq_runProgram {read : OperandReader} (hread : read.Lawful)
    (sys : System World Process) (bound : Nat) (process : Process) (arguments : List Bytes) :
    runProgramWith read sys bound process arguments = runProgram sys bound process arguments := by
  rcases arguments with _ | ⟨argument, _ | ⟨extra, more⟩⟩
  · rw [runProgramWith_nil hread]
    rfl
  · rw [runProgramWith_singleton hread]
    rfl
  · rw [runProgramWith_of_many sys bound process (by simp), runProgram]
    dsimp only
    rw [List.length_map, if_pos (by simp)]

/-- **The command line.** Without an argument the program is an interactive session. With one it is
the session of the batch file of that name, which is the argument itself if that is the encoding of
a text, and the one text it can be read as otherwise. With more it makes one report on its standard
error, makes no other call, and ends with status 1. The reader of the operands refuses nothing that
it is given. -/
theorem runProgram_by_count {read : OperandReader} (hread : read.Lawful)
    (sys : System World Process) (bound : Nat) (process : Process) :
    (∀ arguments, runProgramWith read sys bound process arguments =
        runProgram sys bound process arguments) ∧
      runProgramWith read sys bound process [] = Mode.interactive.session sys bound process ∧
      (∀ argument, runProgramWith read sys bound process [argument] =
        (Mode.batch (utf8 (decodeLossy argument))).session sys bound process) ∧
      (∀ argument text, Reads argument text.toList ↔ text = decodeLossy argument) ∧
      (∀ argument text, argument = utf8 text → utf8 (decodeLossy argument) = argument) ∧
      (∀ arguments : List Bytes, 2 ≤ arguments.length →
        runProgramWith read sys bound process arguments = (do
          reportError sys process
          pure (some 1)) ∧
        Makes (runProgramWith read sys.recorded bound process arguments) fun calls code =>
          calls = [.write process standardError (utf8 errorMessage)] ∧ code = some 1) ∧
      ∀ arguments : List Bytes, arguments.length ≤ 1 →
        read [.optional] (asOperands (arguments.map decodeLossy)) ≠ none := by
  refine ⟨runProgramWith_eq_runProgram hread sys bound process,
    runProgramWith_nil hread sys bound process, runProgramWith_singleton hread sys bound process,
    fun argument text => reads_iff, ?_, fun arguments hmany => ⟨?_, ?_⟩, ?_⟩
  · rintro argument text rfl
    rw [decodeLossy_utf8]
  · exact runProgramWith_of_many sys bound process hmany
  · rw [runProgramWith_of_many _ bound process hmany]
    refine .bind (reportError_makes sys process) fun calls _ hcalls => .pure ?_
    exact ⟨by rw [hcalls]; rfl, rfl⟩
  · intro arguments hfew
    exact read_ne_none hread (by rwa [List.length_map])

/-- A batch file that is called like an option, a file name that is no text, a marker in front of a
name, and lines from the standard input. -/
theorem runProgram_by_count_of_four :
    let sys : System Source Unit := { quiet with
      openFile := fun _ path =>
        pure (if path = utf8 "--help" then .ok (.file 0) else .error .noEntry) }
    let code := fun arguments lines => ((runProgramWith .plain sys 5 () arguments).run lines).1
    let lines : Source := [.block (utf8 "cd\nexit\n")]
    OperandReader.plain.Lawful ∧
      code [] lines = some 0 ∧ code [utf8 "--help"] lines = some 0 ∧ code [[0xFF]] lines = some 1 ∧
      code [utf8 "--", utf8 "--help"] lines = some 1 ∧
      Makes (runProgramWith .plain sys.recorded 5 () [utf8 "--", utf8 "--help"]) fun calls _ =>
        calls = [.write () 2 (utf8 errorMessage)] := by
  intro sys code lines
  obtain ⟨-, hnone, hone, -, -, hmany, -⟩ :=
    runProgram_by_count OperandReader.lawful_plain sys 5 ()
  obtain ⟨hrefused, hcalls⟩ := hmany [utf8 "--", utf8 "--help"] (by decide)
  refine ⟨OperandReader.lawful_plain, ?_, ?_, ?_, ?_, hcalls.mono fun calls _ h => h.1⟩
  · show ((runProgramWith .plain sys 5 () []).run lines).1 = _
    rw [hnone]
    decide +kernel
  · show ((runProgramWith .plain sys 5 () [utf8 "--help"]).run lines).1 = _
    rw [hone]
    decide +kernel
  · show ((runProgramWith .plain sys 5 () [[0xFF]]).run lines).1 = _
    rw [hone]
    decide +kernel
  · show ((runProgramWith .plain sys 5 () [utf8 "--", utf8 "--help"]).run lines).1 = _
    rw [hrefused]
    rfl

end MiniShell
