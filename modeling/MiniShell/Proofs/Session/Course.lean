import MiniShell.Proofs.Shell.Containment

/-!
# The course of a session

An exit status does not tell how a session ended. `Shell.session` goes through a session as
`Shell.run` does and keeps what happened: the lines that were run, each with what it was read from,
the shell and the world before and after it and what came of it, and the reason for which no
further line was run.

1. `runLines_eq_course`, `run_eq_session`: the status of a session is read off its course.
2. `CourseRun` is the induction that sessions follow, one case for each way a turn can go
   (`course_courseRun`). The lines of a course are those that were asked for, and each was run
   (`Execution.Runs`).
3. From turn to turn, settings and built-ins stay (`CourseRun.frame`) and every line that is not
   blank is counted (`CourseRun.commandsExecuted_eq`).
4. `course_agree`: on similar systems, sessions that read alike take the same course.
-/

namespace MiniShell

variable {World World' Process : Type}

/-- A line that was run: what it was read from, the shell and the world before, the result, and the
shell and the world after, in which a failure has been reported. -/
structure Execution (World Process : Type) where
  input : Input
  line : String
  shell : Shell Process
  before : World
  result : Except Failure Outcome
  next : Shell Process
  after : World

/-- Why a session runs no further line. -/
inductive Ending where
  /-- The batch file could not be opened. -/
  | unopened (cause : IoError)
  /-- There are no more lines. -/
  | exhausted
  /-- A read failed. -/
  | unreadable (cause : IoError)
  /-- The last line ended the session. -/
  | dismissed (code : Nat)
  deriving DecidableEq, Repr

/-- The course of a session. One that has gone on for too long is left without an ending. -/
structure Course (World Process : Type) where
  executions : List (Execution World Process)
  ending : Option Ending
  shell : Shell Process

/-- The exit status of a session. -/
def Course.code (interactive : Bool) (course : Course World Process) : Option Nat :=
  course.ending.map fun
    | .exhausted => course.shell.endOfInput interactive
    | .unopened _ | .unreadable _ => exitFailure
    | .dismissed code => code

def Mode.isInteractive : Mode → Bool
  | .interactive => true
  | .batch _ => false

/-- Opens what the lines of a session are read from. -/
def Mode.stream (sys : System World Process) (process : Process) :
    Mode → StateM World (Except IoError InputStream)
  | .interactive => pure (.ok .standardInput)
  | .batch path => askAbout path (sys.openFile process path)

namespace Shell

/-- What the next line is read from: the bytes not used yet, and what is unread once the prompt has
been written. -/
def input (sys : System World Process) (interactive : Bool) (stream : InputStream)
    (sh : Shell Process) (buffer : Bytes) (world : World) : Input :=
  ⟨buffer, ((sys.unread sh.env.process stream).run ((sh.prompt sys interactive).run world).2).1⟩

/-- Asks for a line and reads it. -/
def ask (sys : System World Process) (interactive : Bool) (stream : InputStream)
    (sh : Shell Process) (buffer : Bytes) :
    StateM World (Except IoError (Option String) × Bytes) := do
  sh.prompt sys interactive
  sh.readLine sys stream buffer

/-- Runs a line and reports its failure. -/
def attempt (sys : System World Process) (sh : Shell Process) (line : String) :
    StateM World (Except Failure Outcome × Shell Process) := do
  match ← sh.executeLine sys line with
  | (.ok outcome, sh) => pure (.ok outcome, sh)
  | (.error failure, sh) =>
    reportError sys sh.env.process
    pure (.error failure, sh)

/-- An attempt is the line itself, and the report of its failure behind it. -/
theorem executeLine_of_attempt {sys : System World Process} {sh sh' : Shell Process}
    {line : String} {result : Except Failure Outcome} {world done : World}
    (h : (sh.attempt sys line).run world = ((result, sh'), done)) :
    ∃ ran, (sh.executeLine sys line).run world = ((result, sh'), ran) ∧
      done = if result.isOk then ran else ((reportError sys sh'.env.process).run ran).2 := by
  rw [attempt, run_bind] at h
  revert h
  rcases (sh.executeLine sys line).run world with ⟨⟨failure | outcome, sh''⟩, ran⟩
  · intro h
    cases h
    exact ⟨ran, rfl, rfl⟩
  · intro h
    cases h
    exact ⟨ran, rfl, rfl⟩

/-- The course of the lines of a stream. -/
def course (sys : System World Process) (interactive : Bool) (stream : InputStream) :
    (bound : Nat) → Shell Process → Bytes → StateM World (Course World Process)
  | 0, sh, _ => pure ⟨[], none, sh⟩
  | bound + 1, sh, buffer => do
    let input := sh.input sys interactive stream buffer (← get)
    match ← sh.ask sys interactive stream buffer with
    | (.error cause, _) =>
      reportError sys sh.env.process
      pure ⟨[], some (.unreadable cause), sh⟩
    | (.ok none, _) => pure ⟨[], some .exhausted, sh⟩
    | (.ok (some line), buffer) =>
      let before ← get
      let (result, next) ← sh.attempt sys line
      let execution : Execution World Process := ⟨input, line, sh, before, result, next, ← get⟩
      match statusAfter result with
      | some code => pure ⟨[execution], some (.dismissed code), next⟩
      | none =>
        let rest ← course sys interactive stream bound next buffer
        pure { rest with executions := execution :: rest.executions }

/-- The course of a session. -/
def session (sys : System World Process) (bound : Nat) (sh : Shell Process) (mode : Mode) :
    StateM World (Course World Process) := do
  match ← mode.stream sys sh.env.process with
  | .error cause =>
    reportError sys sh.env.process
    pure ⟨[], some (.unopened cause), sh⟩
  | .ok stream => course sys mode.isInteractive stream bound sh []

end Shell

/-! ## Turn by turn -/

theorem run_get (world : World) : (get : StateM World World).run world = (world, world) := rfl

/-- The line is the one that is asked for, and this is how it runs. `buffer` and `buffer'` are what
has been read and not used yet, before the line is read and after it. -/
structure Execution.Runs (sys : System World Process) (interactive : Bool) (stream : InputStream)
    (buffer : Bytes) (world : World) (execution : Execution World Process) (buffer' : Bytes) :
    Prop where
  input : execution.input = execution.shell.input sys interactive stream buffer world
  asked : (execution.shell.ask sys interactive stream buffer).run world =
    ((.ok (some execution.line), buffer'), execution.before)
  attempted : (execution.shell.attempt sys execution.line).run execution.before =
    ((execution.result, execution.next), execution.after)

namespace Shell

section Turn

variable {sys : System World Process} {interactive : Bool} {stream : InputStream}
  {sh : Shell Process} {buffer buffer' : Bytes} {world asked : World}

theorem turn_of_error {cause : IoError}
    (hask : (sh.ask sys interactive stream buffer).run world = ((.error cause, buffer'), asked)) :
    (sh.turn sys interactive stream buffer).run world =
      (.ended exitFailure, ((reportError sys sh.env.process).run asked).2) := by
  rw [ask, run_bind] at hask
  rw [turn, run_bind, run_bind, hask]
  rfl

theorem course_of_error {cause : IoError}
    (hask : (sh.ask sys interactive stream buffer).run world = ((.error cause, buffer'), asked))
    (bound : Nat) :
    (sh.course sys interactive stream (bound + 1) buffer).run world =
      (⟨[], some (.unreadable cause), sh⟩, ((reportError sys sh.env.process).run asked).2) := by
  rw [course, run_bind, run_get, run_bind, hask]
  rfl

theorem turn_of_none
    (hask : (sh.ask sys interactive stream buffer).run world = ((.ok none, buffer'), asked)) :
    (sh.turn sys interactive stream buffer).run world =
      (.ended (sh.endOfInput interactive), asked) := by
  rw [ask, run_bind] at hask
  rw [turn, run_bind, run_bind, hask]
  rfl

theorem course_of_none
    (hask : (sh.ask sys interactive stream buffer).run world = ((.ok none, buffer'), asked))
    (bound : Nat) :
    (sh.course sys interactive stream (bound + 1) buffer).run world =
      (⟨[], some .exhausted, sh⟩, asked) := by
  rw [course, run_bind, run_get, run_bind, hask]
  rfl

/-- The line that has been asked for is run. -/
theorem exists_runs {line : String}
    (hask : (sh.ask sys interactive stream buffer).run world =
      ((.ok (some line), buffer'), asked)) :
    ∃ execution : Execution World Process, execution.shell = sh ∧
      execution.Runs sys interactive stream buffer world buffer' := by
  rcases hrun : (sh.attempt sys line).run asked with ⟨⟨result, next⟩, done⟩
  exact ⟨⟨sh.input sys interactive stream buffer world, line, sh, asked, result, next, done⟩, rfl,
    rfl, hask, hrun⟩

variable {execution : Execution World Process}
  (h : execution.Runs sys interactive stream buffer world buffer')

include h

theorem turn_of_runs :
    (execution.shell.turn sys interactive stream buffer).run world =
      (.ran execution.line execution.result execution.next buffer', execution.after) := by
  rcases execution with ⟨_, line, sh, asked, result, next, done⟩
  obtain ⟨-, hask, hrun⟩ := h
  dsimp only at hask hrun ⊢
  obtain ⟨ran, hline, rfl⟩ := executeLine_of_attempt hrun
  rw [ask, run_bind] at hask
  rw [turn, run_bind, run_bind, hask]
  dsimp only
  rw [run_bind, hline]
  cases result <;> rfl

theorem course_of_runs (bound : Nat) :
    (execution.shell.course sys interactive stream (bound + 1) buffer).run world =
      match statusAfter execution.result with
      | some code => (⟨[execution], some (.dismissed code), execution.next⟩, execution.after)
      | none =>
        let gone := (execution.next.course sys interactive stream bound buffer').run execution.after
        ({ gone.1 with executions := execution :: gone.1.executions }, gone.2) := by
  rw [course, run_bind, run_get]
  simp only [run_bind, run_get, h.asked, h.attempted, ← h.input]
  cases statusAfter execution.result <;> rfl

end Turn

/-- **The course of a session.** The status of a session and the shell at its end are read off its
course, and the course leaves the same world behind. -/
theorem runLines_eq_course (sys : System World Process) (interactive : Bool)
    (stream : InputStream) (bound : Nat) (sh : Shell Process) (buffer : Bytes) (world : World) :
    (sh.runLines sys interactive stream bound buffer).run world =
      let gone := (sh.course sys interactive stream bound buffer).run world
      ((gone.1.code interactive, gone.1.shell), gone.2) := by
  induction bound generalizing sh buffer world with
  | zero => rfl
  | succ bound ih =>
    rw [runLines, run_bind]
    rcases hask : (sh.ask sys interactive stream buffer).run world with
      ⟨⟨cause | _ | line, buffer'⟩, asked⟩
    · rw [turn_of_error hask, course_of_error hask]
      rfl
    · rw [turn_of_none hask, course_of_none hask]
      rfl
    · obtain ⟨execution, rfl, hruns⟩ := exists_runs hask
      rw [turn_of_runs hruns, course_of_runs hruns]
      dsimp only
      cases statusAfter execution.result with
      | some code => rfl
      | none => exact ih execution.next buffer' execution.after

theorem session_of_error {sys : System World Process} {sh : Shell Process} {mode : Mode}
    {world opened : World} {cause : IoError}
    (h : (mode.stream sys sh.env.process).run world = (.error cause, opened)) (bound : Nat) :
    (sh.session sys bound mode).run world =
      (⟨[], some (.unopened cause), sh⟩, ((reportError sys sh.env.process).run opened).2) := by
  rw [session, run_bind, h]
  rfl

theorem session_of_ok {sys : System World Process} {sh : Shell Process} {mode : Mode}
    {world opened : World} {stream : InputStream}
    (h : (mode.stream sys sh.env.process).run world = (.ok stream, opened)) (bound : Nat) :
    (sh.session sys bound mode).run world =
      (sh.course sys mode.isInteractive stream bound []).run opened := by
  rw [session, run_bind, h]

/-- The status of a session and the shell at its end are read off its course. -/
theorem run_eq_session (sys : System World Process) (bound : Nat) (sh : Shell Process)
    (mode : Mode) (world : World) :
    (sh.run sys bound mode).run world =
      let gone := (sh.session sys bound mode).run world
      ((gone.1.code mode.isInteractive, gone.1.shell), gone.2) := by
  cases mode with
  | interactive => exact runLines_eq_course sys true .standardInput bound sh [] world
  | batch path =>
    rcases hopen : (Mode.stream sys sh.env.process (.batch path)).run world with
      ⟨cause | stream, opened⟩
    · rw [session_of_error hopen]
      rw [Mode.stream] at hopen
      rw [run, run_bind, hopen]
      rfl
    · rw [session_of_ok hopen]
      rw [Mode.stream] at hopen
      rw [run, run_bind, hopen]
      exact runLines_eq_course sys false stream bound sh [] opened

/-! ## Attempts -/

/-- What is reported of a line: its failure, if it has one. -/
def reportOf : Except Failure Outcome × Shell Process → Record Process
  | (.ok _, _) => []
  | (.error _, sh) => [.report sh.env.process]

/-- **An attempt.** Whatever the system answers, the calls of an attempt are those that the line
comes to and the report of its failure. -/
theorem attempt_run (sys : System World Process) (sh : Shell Process) (line : String)
    (world : World) (record : Record Process) :
    ∃ calls answer world', LineRun sh line calls answer ∧
      Account sys world world' (calls ++ reportOf answer) ∧
      (sh.attempt sys.recorded line).run (world, record) =
        (answer, (world', record ++ (calls ++ reportOf answer))) ∧
      (sh.attempt sys line).run world = (answer, world') := by
  obtain ⟨calls, ⟨result, sh'⟩, done, hline, haccount, hrecorded, hrun⟩ :=
    executeLine_run sys sh line world record
  unfold attempt
  rw [run_bind, run_bind, hrecorded, hrun]
  cases result with
  | ok outcome =>
    refine ⟨calls, _, done, hline, ?_, ?_, rfl⟩
    · rwa [reportOf, List.append_nil]
    · rw [reportOf, List.append_nil]
      rfl
  | error failure =>
    refine ⟨calls, _, _, hline, haccount.append ⟨_, rfl, rfl⟩, ?_, rfl⟩
    rw [← List.append_assoc]
    rfl

/-- What has become of an attempt is in the list of what a line can come to. -/
theorem exists_attempt {sys : System World Process} {sh : Shell Process} {line : String}
    {world world' : World} {answer : Except Failure Outcome × Shell Process}
    (h : (sh.attempt sys line).run world = (answer, world')) :
    ∃ calls, LineRun sh line calls answer ∧
      Account sys world world' (calls ++ reportOf answer) := by
  obtain ⟨calls, _, _, hline, haccount, -, hrun⟩ := attempt_run sys sh line world []
  rw [h] at hrun
  cases hrun
  exact ⟨calls, hline, haccount⟩

end Shell

namespace Execution.Runs

variable {sys : System World Process} {interactive : Bool} {stream : InputStream}
  {buffer buffer' : Bytes} {world : World} {execution : Execution World Process}
  (h : execution.Runs sys interactive stream buffer world buffer')

include h

/-- A line changes neither the settings nor the built-ins nor the search path. -/
theorem frame :
    execution.next.config = execution.shell.config ∧
      execution.next.builtins = execution.shell.builtins ∧
      execution.next.env.searchPath = execution.shell.env.searchPath := by
  obtain ⟨calls, hline, -⟩ := Shell.exists_attempt h.attempted
  exact hline.frame

/-- A line counts if it has tokens. -/
theorem commandsExecuted_eq :
    execution.next.commandsExecuted = execution.shell.commandsExecuted +
      [execution.line].countP fun line =>
        (Tokens.ofLine line execution.shell.config.maxTokens).toList ≠ [] := by
  obtain ⟨calls, hline, -⟩ := Shell.exists_attempt h.attempted
  rw [hline.commandsExecuted_eq, List.countP_singleton, Shell.tokens]
  split <;> simp_all

end Execution.Runs

section Similar

variable {astray : World' → Prop} {related : World → World' → Prop} {sys : System World Process}
  {other : System World' Process} (h : SimilarUnless astray related sys other)

include h

theorem SimilarUnless.prompt (sh : Shell Process) (interactive : Bool) :
    AgreeUnless astray related (sh.prompt sys interactive) (sh.prompt other interactive) := by
  unfold Shell.prompt
  cases interactive with
  | false => exact .pure _
  | true => exact h.write _ _ _

theorem SimilarUnless.attempt (sh : Shell Process) (line : String) :
    AgreeUnless astray related (sh.attempt sys line) (sh.attempt other line) := by
  refine .bind (h.executeLine sh line) fun answer => ?_
  rcases answer with ⟨failure | outcome, sh'⟩
  · exact .bind (h.reportError _) fun _ => .pure _
  · exact .pure _

end Similar

/-! ## The induction that sessions follow -/

/-- The ways a session can go on from a shell, what is left in its buffer, and a world. -/
inductive CourseRun (sys : System World Process) (interactive : Bool) (stream : InputStream) :
    Shell Process → Bytes → World → Course World Process → World → Prop where
  | cut (sh : Shell Process) (buffer : Bytes) (world : World) :
    CourseRun sys interactive stream sh buffer world ⟨[], none, sh⟩ world
  | unreadable {sh : Shell Process} {buffer buffer' : Bytes} {world asked : World}
    {cause : IoError}
    (hask : (sh.ask sys interactive stream buffer).run world = ((.error cause, buffer'), asked)) :
    CourseRun sys interactive stream sh buffer world ⟨[], some (.unreadable cause), sh⟩
      ((reportError sys sh.env.process).run asked).2
  | exhausted {sh : Shell Process} {buffer buffer' : Bytes} {world asked : World}
    (hask : (sh.ask sys interactive stream buffer).run world = ((.ok none, buffer'), asked)) :
    CourseRun sys interactive stream sh buffer world ⟨[], some .exhausted, sh⟩ asked
  | dismissed {buffer buffer' : Bytes} {world : World} {execution : Execution World Process}
    {code : Nat} (hruns : execution.Runs sys interactive stream buffer world buffer')
    (hstatus : Shell.statusAfter execution.result = some code) :
    CourseRun sys interactive stream execution.shell buffer world
      ⟨[execution], some (.dismissed code), execution.next⟩ execution.after
  | next {buffer buffer' : Bytes} {world world' : World} {execution : Execution World Process}
    {rest : Course World Process}
    (hruns : execution.Runs sys interactive stream buffer world buffer')
    (hstatus : Shell.statusAfter execution.result = none)
    (hrest : CourseRun sys interactive stream execution.next buffer' execution.after rest world') :
    CourseRun sys interactive stream execution.shell buffer world
      { rest with executions := execution :: rest.executions } world'

/-- **Courses.** Every session goes one of these ways. -/
theorem Shell.course_courseRun (sys : System World Process) (interactive : Bool)
    (stream : InputStream) (bound : Nat) (sh : Shell Process) (buffer : Bytes) (world : World) :
    CourseRun sys interactive stream sh buffer world
      ((sh.course sys interactive stream bound buffer).run world).1
      ((sh.course sys interactive stream bound buffer).run world).2 := by
  induction bound generalizing sh buffer world with
  | zero => exact .cut sh buffer world
  | succ bound ih =>
    rcases hask : (sh.ask sys interactive stream buffer).run world with
      ⟨⟨cause | _ | line, buffer'⟩, asked⟩
    · rw [course_of_error hask]
      exact .unreadable hask
    · rw [course_of_none hask]
      exact .exhausted hask
    · obtain ⟨execution, rfl, hruns⟩ := exists_runs hask
      rw [course_of_runs hruns]
      dsimp only
      cases hstatus : statusAfter execution.result with
      | some code => exact .dismissed hruns hstatus
      | none => exact .next hruns hstatus (ih execution.next buffer' execution.after)

/-- No more lines are run than the bound allows, and a session is left without an ending only when
it has run that many. -/
theorem Shell.course_length (sys : System World Process) (interactive : Bool)
    (stream : InputStream) (bound : Nat) (sh : Shell Process) (buffer : Bytes) (world : World) :
    let course := ((sh.course sys interactive stream bound buffer).run world).1
    course.executions.length ≤ bound ∧
      (course.ending = none → course.executions.length = bound) := by
  induction bound generalizing sh buffer world with
  | zero => exact ⟨Nat.le_refl 0, fun _ => rfl⟩
  | succ bound ih =>
    rcases hask : (sh.ask sys interactive stream buffer).run world with
      ⟨⟨cause | _ | line, buffer'⟩, asked⟩
    · rw [course_of_error hask]
      exact ⟨Nat.zero_le _, nofun⟩
    · rw [course_of_none hask]
      exact ⟨Nat.zero_le _, nofun⟩
    · obtain ⟨execution, rfl, hruns⟩ := exists_runs hask
      rw [course_of_runs hruns]
      dsimp only
      cases statusAfter execution.result with
      | some code => exact ⟨Nat.succ_le_succ (Nat.zero_le bound), nofun⟩
      | none =>
        obtain ⟨hle, hcut⟩ := ih execution.next buffer' execution.after
        exact ⟨Nat.succ_le_succ hle, fun hending => congrArg (· + 1) (hcut hending)⟩

namespace CourseRun

variable {sys : System World Process} {interactive : Bool} {stream : InputStream}
  {sh : Shell Process} {buffer : Bytes} {world world' : World} {course : Course World Process}

/-- The settings, the built-ins and the search path are the same at every line and at the end. -/
theorem frame (h : CourseRun sys interactive stream sh buffer world course world') :
    ∀ sh' ∈ course.shell :: course.executions.map Execution.shell,
      sh'.config = sh.config ∧ sh'.builtins = sh.builtins ∧
        sh'.env.searchPath = sh.env.searchPath := by
  induction h with
  | cut _ _ _ | unreadable _ | exhausted _ => simp
  | dismissed hruns _ => simpa using hruns.frame
  | next hruns _ _ ih =>
    obtain ⟨hconfig, hbuiltins, hsearch⟩ := hruns.frame
    have hrest := fun later hlater =>
      And.intro ((ih later hlater).1.trans hconfig)
        (And.intro ((ih later hlater).2.1.trans hbuiltins) ((ih later hlater).2.2.trans hsearch))
    intro later hlater
    rcases List.mem_cons.mp hlater with rfl | hlater
    · exact hrest _ List.mem_cons_self
    rcases List.mem_cons.mp hlater with rfl | hlater
    · exact ⟨rfl, rfl, rfl⟩
    · exact hrest later (List.mem_cons_of_mem _ hlater)

/-- Every line of a session was asked for and run. -/
theorem runs (h : CourseRun sys interactive stream sh buffer world course world') :
    ∀ execution ∈ course.executions, ∃ buffer before buffer',
      execution.Runs sys interactive stream buffer before buffer' := by
  induction h with
  | cut _ _ _ | unreadable _ | exhausted _ => exact List.forall_mem_nil _
  | dismissed hruns _ => exact List.forall_mem_singleton.mpr ⟨_, _, _, hruns⟩
  | next hruns _ _ ih => exact List.forall_mem_cons.mpr ⟨⟨_, _, _, hruns⟩, ih⟩

/-- What asking for a line, an attempt and a report keep, a session keeps. The lines are asked for
with the same settings in every turn. -/
theorem preserves {config : Config} (kept : World → Prop)
    (h : CourseRun sys interactive stream sh buffer world course world')
    (hask : ∀ sh : Shell Process, sh.config = config → ∀ buffer world, kept world →
      kept ((sh.ask sys interactive stream buffer).run world).2)
    (hattempt : ∀ (sh : Shell Process) line world, kept world →
      kept ((sh.attempt sys line).run world).2)
    (hreport : ∀ process world, kept world → kept ((reportError sys process).run world).2)
    (hconfig : sh.config = config) (hworld : kept world) : kept world' := by
  have hruns : ∀ {buffer buffer' : Bytes} {world : World} {execution : Execution World Process},
      execution.Runs sys interactive stream buffer world buffer' →
        execution.shell.config = config → kept world → kept execution.after := by
    intro buffer buffer' world execution hruns hconfig hworld
    have hasked := hask execution.shell hconfig buffer world hworld
    rw [hruns.asked] at hasked
    have hdone := hattempt execution.shell execution.line _ hasked
    rwa [hruns.attempted] at hdone
  induction h with
  | cut _ _ _ => exact hworld
  | @unreadable sh buffer _ world _ _ hasking =>
    have hasked := hask sh hconfig buffer world hworld
    rw [hasking] at hasked
    exact hreport _ _ hasked
  | @exhausted sh buffer _ world _ hasking =>
    have hasked := hask sh hconfig buffer world hworld
    rwa [hasking] at hasked
  | dismissed hrun _ => exact hruns hrun hconfig hworld
  | next hrun _ _ ih => exact ih (hrun.frame.1.trans hconfig) (hruns hrun hconfig hworld)

/-- Every line that has tokens is counted. -/
theorem commandsExecuted_eq (h : CourseRun sys interactive stream sh buffer world course world') :
    course.shell.commandsExecuted = sh.commandsExecuted +
      (course.executions.map Execution.line).countP fun line =>
        (Tokens.ofLine line sh.config.maxTokens).toList ≠ [] := by
  induction h with
  | cut _ _ _ | unreadable _ | exhausted _ => rfl
  | dismissed hruns _ => exact hruns.commandsExecuted_eq
  | next hruns _ _ ih =>
    rw [ih, hruns.commandsExecuted_eq, hruns.frame.1, Nat.add_assoc, ← List.countP_append]
    rfl

end CourseRun

/-! ## Sessions on similar systems -/

/-- What can be compared of two courses: the lines with their shells and results, the ending, and
the shell at the end. -/
def Course.outline (course : Course World Process) :
    List (Shell Process × String × Except Failure Outcome) × Option Ending × Shell Process :=
  (course.executions.map fun execution => (execution.shell, execution.line, execution.result),
    course.ending, course.shell)

theorem Course.shell_of_outline {course : Course World Process} {course' : Course World' Process}
    (h : course.outline = course'.outline) : course.shell = course'.shell :=
  congrArg (·.2.2) h

theorem Course.lines_of_outline {course : Course World Process} {course' : Course World' Process}
    (h : course.outline = course'.outline) :
    course.executions.map Execution.line = course'.executions.map Execution.line := by
  have hlines : course.outline.1.map (·.2.1) = course'.outline.1.map (·.2.1) := by rw [h]
  rwa [outline, outline, List.map_map, List.map_map] at hlines

theorem Course.ending_of_outline {course : Course World Process} {course' : Course World' Process}
    (h : course.outline = course'.outline) : course.ending = course'.ending :=
  congrArg (·.2.1) h

theorem Course.code_of_outline {course : Course World Process} {course' : Course World' Process}
    (h : course.outline = course'.outline) (interactive : Bool) :
    course.code interactive = course'.code interactive := by
  rw [code, code, ending_of_outline h, shell_of_outline h]

section Lockstep

variable {astray : World' → Prop} {related : World → World' → Prop} {sys : System World Process}
  {other : System World' Process} {interactive interactive' : Bool} {stream : InputStream}
  (hsimilar : SimilarUnless astray related sys other)

include hsimilar

/-- **A turn in lockstep.** What is asked for alike runs alike: if the second system has not gone
astray when the line is over, the first runs the same line with the same result. -/
theorem SimilarUnless.exists_runs {buffer buffer' : Bytes} {world : World} {world' : World'}
    {execution' : Execution World' Process}
    (hask : AgreeUnless astray related (execution'.shell.ask sys interactive stream buffer)
      (execution'.shell.ask other interactive' stream buffer))
    (hruns : execution'.Runs other interactive' stream buffer world' buffer')
    (hworld : related world world') (hon : ¬ astray execution'.after) :
    ∃ execution : Execution World Process,
      execution.Runs sys interactive stream buffer world buffer' ∧
        execution.shell = execution'.shell ∧ execution.line = execution'.line ∧
        execution.result = execution'.result ∧ execution.next = execution'.next ∧
        related execution.after execution'.after := by
  have hattempt := hsimilar.attempt execution'.shell execution'.line
  have hbefore : ¬ astray execution'.before := by
    intro hastray
    have hdone := hattempt.stays _ hastray
    rw [hruns.attempted] at hdone
    exact hon hdone
  have hagree := hask.agrees world world' hworld
  rcases hleft : (execution'.shell.ask sys interactive stream buffer).run world with
    ⟨answer, before⟩
  rw [hleft, hruns.asked] at hagree
  obtain ⟨hanswer, hrelated⟩ := hagree hbefore
  obtain rfl : answer = (.ok (some execution'.line), buffer') := hanswer
  have hagree := hattempt.agrees before execution'.before hrelated
  rcases hrun : (execution'.shell.attempt sys execution'.line).run before with ⟨answer, after⟩
  rw [hrun, hruns.attempted] at hagree
  obtain ⟨hanswer, hafter⟩ := hagree hon
  obtain rfl : answer = (execution'.result, execution'.next) := hanswer
  let execution : Execution World Process :=
    ⟨execution'.shell.input sys interactive stream buffer world, execution'.line,
      execution'.shell, before, execution'.result, execution'.next, after⟩
  exact ⟨execution, ⟨rfl, hleft, hrun⟩, rfl, rfl, rfl, rfl, hafter⟩

variable {config : Config} (hask : ∀ sh : Shell Process, sh.config = config → ∀ buffer,
  AgreeUnless astray related (sh.ask sys interactive stream buffer)
    (sh.ask other interactive' stream buffer))

include hask

/-- What has gone astray in a turn is still astray at the end. -/
theorem SimilarUnless.course_stays {sh : Shell Process} {buffer : Bytes} {world' done' : World'}
    {course' : Course World' Process}
    (h : CourseRun other interactive' stream sh buffer world' course' done')
    (hconfig : sh.config = config) : astray world' → astray done' :=
  h.preserves astray (fun sh hsh buffer => (hask sh hsh buffer).stays)
    (fun sh line => (hsimilar.attempt sh line).stays)
    (fun process => (hsimilar.reportError process).stays) hconfig

/-- **Lockstep.** Sessions on similar systems take the same course, as long as the same is read in
every turn. If the systems are similar unless the second goes astray, it is enough that it has not
gone astray when the session is over. -/
theorem Shell.course_agree (bound : Nat) {sh : Shell Process} (hconfig : sh.config = config)
    (buffer : Bytes) {world : World} {world' : World'} (hworld : related world world')
    (hon : ¬ astray ((sh.course other interactive' stream bound buffer).run world').2) :
    ((sh.course sys interactive stream bound buffer).run world).1.outline =
        ((sh.course other interactive' stream bound buffer).run world').1.outline ∧
      related ((sh.course sys interactive stream bound buffer).run world).2
        ((sh.course other interactive' stream bound buffer).run world').2 := by
  induction bound generalizing sh buffer world world' with
  | zero => exact ⟨rfl, hworld⟩
  | succ bound ih =>
    have hagree := (hask sh hconfig buffer).agrees world world' hworld
    rcases hleft : (sh.ask sys interactive stream buffer).run world with ⟨⟨answer, buffer'⟩, asked⟩
    rcases hright : (sh.ask other interactive' stream buffer).run world' with
      ⟨⟨cause | _ | line, buffer''⟩, asked'⟩
    · rw [hleft, hright] at hagree
      rw [course_of_error hright] at hon ⊢
      obtain ⟨hanswer, hasked⟩ :=
        hagree fun h => hon ((hsimilar.reportError sh.env.process).stays _ h)
      cases hanswer
      rw [course_of_error hleft]
      exact ⟨rfl, ((hsimilar.reportError sh.env.process).agrees _ _ hasked hon).2⟩
    · rw [hleft, hright] at hagree
      rw [course_of_none hright] at hon ⊢
      obtain ⟨hanswer, hasked⟩ := hagree hon
      cases hanswer
      rw [course_of_none hleft]
      exact ⟨rfl, hasked⟩
    · obtain ⟨execution', rfl, hruns'⟩ := exists_runs hright
      have hnext : execution'.next.config = config := hruns'.frame.1.trans hconfig
      rw [course_of_runs hruns'] at hon ⊢
      have hdone' : ¬ astray execution'.after := by
        intro hdone
        revert hon
        dsimp only
        cases statusAfter execution'.result with
        | some code => exact fun hon => hon hdone
        | none =>
          exact fun hon => hon (hsimilar.course_stays hask (course_courseRun ..) hnext hdone)
      obtain ⟨execution, hruns, hshell, hsame, hresult, hnext', hafter⟩ :=
        hsimilar.exists_runs (hask _ hconfig buffer) hruns' hworld hdone'
      rw [← hshell, course_of_runs hruns, hresult, hnext']
      dsimp only at hon ⊢
      cases hstatus : statusAfter execution'.result with
      | some code =>
        exact ⟨by rw [Course.outline, Course.outline, List.map_singleton, List.map_singleton,
          hshell, hsame, hresult], hafter⟩
      | none =>
        rw [hstatus] at hon
        obtain ⟨houtline, hgone⟩ := ih hnext buffer'' hafter hon
        rw [Course.outline, Course.outline, Prod.mk.injEq] at houtline
        refine ⟨Prod.ext ?_ houtline.2, hgone⟩
        dsimp only [Course.outline]
        rw [List.map_cons, List.map_cons, houtline.1, hshell, hsame, hresult]

end Lockstep

end MiniShell
