import MiniShell.Proofs.Session.Course

/-!
# Sessions on record

A session does not notice that a record of its calls is kept (`course_recorded`). What comes to the
record in one turn is what it takes to ask for a line (`Shell.asking`), what the line comes to, and
the report of its failure.

The shell and its children write two things only: prompts, and reports of failures
(`LineRun.written_eq`). There is a prompt for each time a line was asked for, if someone is there to
be asked (`CourseRun.prompts_eq`).
-/

namespace MiniShell

variable {World World' Process : Type}

/-! ## A record makes no difference -/

theorem Mode.stream_recorded (sys : System World Process) (process : Process) (mode : Mode) :
    Agree (fun world state => world = state.1) (mode.stream sys process)
      (mode.stream sys.recorded process) := by
  cases mode with
  | interactive => exact .pure _
  | batch path => exact SimilarUnless.askAbout path (agree_noted _ _)

namespace Shell

/-- A line is looked for in what is unread, and as many reads are made. -/
theorem readLine_recorded (sys : System World Process) (sh : Shell Process) (stream : InputStream)
    (buffer : Bytes) (world : World) (record : Record Process) :
    (sh.readLine sys.recorded stream buffer).run (world, record) =
      let unread := (sys.unread sh.env.process stream).run world
      let line := Input.readLine (lineLimit sh.config.maxLineLength) ⟨buffer, unread.1⟩
      let reads := unread.1.length - line.2.source.length
      ((line.1, line.2.buffer), (((sys.advance sh.env.process stream reads).run unread.2).2,
        record ++ [.advance sh.env.process stream reads])) := rfl

theorem ask_recorded (sys : System World Process) (interactive : Bool) (stream : InputStream)
    (sh : Shell Process) (buffer : Bytes) :
    Agree (fun world state => world = state.1) (sh.ask sys interactive stream buffer)
      (sh.ask sys.recorded interactive stream buffer) := by
  have hread : Agree (fun world state => world = state.1) (sh.readLine sys stream buffer)
      (sh.readLine sys.recorded stream buffer) := by
    refine .of_forall ?_
    rintro world ⟨_, record⟩ rfl
    exact ⟨rfl, rfl⟩
  exact .bind ((similar_recorded sys).prompt sh interactive) fun _ => hread

/-- A session takes the same course when a record is kept. -/
theorem course_recorded (sys : System World Process) (interactive : Bool) (stream : InputStream)
    (bound : Nat) (sh : Shell Process) (buffer : Bytes) (world : World)
    (record : Record Process) :
    ((sh.course sys interactive stream bound buffer).run world).1.outline =
        ((sh.course sys.recorded interactive stream bound buffer).run (world, record)).1.outline ∧
      ((sh.course sys interactive stream bound buffer).run world).2 =
        ((sh.course sys.recorded interactive stream bound buffer).run (world, record)).2.1 :=
  course_agree (similar_recorded sys) (fun sh _ => ask_recorded sys interactive stream sh) bound rfl
    buffer rfl id

/-- The status and the last shell of a session can be read off the course on record. -/
theorem runLines_recorded {sys : System World Process} {interactive : Bool} {stream : InputStream}
    {bound : Nat} {sh : Shell Process} {buffer : Bytes} {world done : World}
    {record calls : Record Process} {course : Course (World × Record Process) Process}
    (h : (sh.course sys.recorded interactive stream bound buffer).run (world, record) =
      (course, (done, calls))) :
    (sh.runLines sys interactive stream bound buffer).run world =
      ((course.code interactive, course.shell), done) := by
  obtain ⟨houtline, hdone⟩ := course_recorded sys interactive stream bound sh buffer world record
  rw [h] at houtline hdone
  rw [runLines_eq_course]
  dsimp only at houtline hdone ⊢
  rw [hdone, Course.code_of_outline houtline, Course.shell_of_outline houtline]

/-- The status and the last shell of a session can be read off its course on record, whether or not
its input could be opened. -/
theorem run_recorded {sys : System World Process} {bound : Nat} {sh : Shell Process} {mode : Mode}
    {world done : World} {record calls : Record Process}
    {course : Course (World × Record Process) Process}
    (h : (sh.session sys.recorded bound mode).run (world, record) = (course, (done, calls))) :
    (sh.run sys bound mode).run world = ((course.code mode.isInteractive, course.shell), done) := by
  rcases hnoted : (mode.stream sys.recorded sh.env.process).run (world, record) with
    ⟨answer, opened, noted⟩
  have hopen := (mode.stream_recorded sys sh.env.process).run_eq hnoted
  rw [run_eq_session]
  cases answer with
  | error cause =>
    rw [session_of_error hnoted] at h
    rw [session_of_error hopen]
    cases h
    rfl
  | ok stream =>
    rw [session_of_ok hnoted] at h
    rw [session_of_ok hopen]
    exact (runLines_eq_course ..).symm.trans (runLines_recorded h)

end Shell

/-! ## The calls of a turn -/

theorem reportError_recorded (sys : System World Process) (process : Process)
    (state : World × Record Process) :
    ((reportError sys.recorded process).run state).2.2 = state.2 ++ [.report process] := rfl

/-- Nothing is written to open the input of a session. -/
theorem Mode.stream_makes (sys : System World Process) (process : Process) (mode : Mode) :
    Makes (mode.stream sys.recorded process) fun calls _ => Record.written calls = [] := by
  cases mode with
  | interactive => exact .pure rfl
  | batch path =>
    refine (askAbout_makes path _ _).mono fun calls answer h => ?_
    obtain ⟨-, rfl, -⟩ | ⟨-, given, rfl, -⟩ := h <;> rfl

namespace Shell

/-- The calls it takes to ask for a line and to read it. -/
def asking (sh : Shell Process) (interactive : Bool) (stream : InputStream) (reads : Nat) :
    Record Process :=
  (if interactive then [.write sh.env.process standardOutput (utf8 sh.config.prompt)] else []) ++
    [.advance sh.env.process stream reads]

theorem readLine_makes (sys : System World Process) (sh : Shell Process) (stream : InputStream)
    (buffer : Bytes) :
    Makes (sh.readLine sys.recorded stream buffer) fun calls _ =>
      ∃ reads, calls = [.advance sh.env.process stream reads] :=
  fun world record => ⟨_, _, _, readLine_recorded sys sh stream buffer world record, _, rfl⟩

theorem ask_makes (sys : System World Process) (interactive : Bool) (stream : InputStream)
    (sh : Shell Process) (buffer : Bytes) :
    Makes (sh.ask sys.recorded interactive stream buffer) fun calls _ =>
      ∃ reads, calls = sh.asking interactive stream reads := by
  unfold ask prompt
  cases interactive with
  | false => exact readLine_makes sys sh stream buffer
  | true =>
    have hread := readLine_makes sys sh stream buffer
    dsimp only [System.recorded] at hread ⊢
    rw [if_pos rfl]
    refine .noted fun _ => hread.mono fun calls _ hcalls => ?_
    obtain ⟨reads, rfl⟩ := hcalls
    exact ⟨reads, rfl⟩

variable {sys : System World Process} {interactive : Bool} {stream : InputStream}
  {sh : Shell Process} {buffer : Bytes} {state after : World × Record Process}

theorem exists_asking {answer : Except IoError (Option String) × Bytes}
    (h : (sh.ask sys.recorded interactive stream buffer).run state = (answer, after)) :
    ∃ reads, after.2 = state.2 ++ sh.asking interactive stream reads := by
  obtain ⟨_, answer', world', hrun, reads, rfl⟩ :=
    ask_makes sys interactive stream sh buffer state.1 state.2
  cases h.symm.trans hrun
  exact ⟨reads, rfl⟩

theorem exists_attempting {line : String} {answer : Except Failure Outcome × Shell Process}
    (h : (sh.attempt sys.recorded line).run state = (answer, after)) :
    ∃ calls, LineRun sh line calls answer ∧
      Account sys state.1 after.1 (calls ++ reportOf answer) ∧
      after.2 = state.2 ++ (calls ++ reportOf answer) := by
  obtain ⟨calls, answer', world', hline, haccount, hrun, -⟩ :=
    attempt_run sys sh line state.1 state.2
  cases h.symm.trans hrun
  exact ⟨calls, hline, haccount, rfl⟩

end Shell

/-- The record only grows. -/
theorem CourseRun.record_prefix {sys : System World Process} {interactive : Bool}
    {stream : InputStream} {sh : Shell Process} {buffer : Bytes}
    {state after : World × Record Process} {course : Course (World × Record Process) Process}
    (h : CourseRun sys.recorded interactive stream sh buffer state course after) :
    state.2 <+: after.2 := by
  have hgrows : ∀ state state' : World × Record Process, ∀ calls, state'.2 = state.2 ++ calls →
      ∀ record, record <+: state.2 → record <+: state'.2 := fun _ _ calls hcalls record hrecord =>
    hrecord.trans (hcalls ▸ List.prefix_append _ calls)
  refine h.preserves (fun later => state.2 <+: later.2) (fun sh _ buffer now => ?_)
    (fun sh line now => ?_) (fun process now => ?_) rfl (List.prefix_refl state.2)
  · rcases hask : (sh.ask sys.recorded interactive stream buffer).run now with ⟨answer, asked⟩
    obtain ⟨reads, hasked⟩ := Shell.exists_asking hask
    exact hgrows _ _ _ hasked _
  · rcases hrun : (sh.attempt sys.recorded line).run now with ⟨answer, done⟩
    obtain ⟨calls, -, -, hdone⟩ := Shell.exists_attempting hrun
    exact hgrows _ _ _ hdone _
  · exact hgrows _ _ _ (reportError_recorded sys process now) _

/-! ## What is written -/

/-- The writes to the standard output. -/
def Record.prompts (calls : Record Process) : Nat :=
  (Record.written calls).countP fun write => write.2.1 = standardOutput

/-- The reports of failures. -/
def Record.reports (calls : Record Process) : Nat :=
  (Record.written calls).countP fun write => write.2 = (standardError, utf8 errorMessage)

namespace Record

theorem prompts_append (calls more : Record Process) :
    prompts (calls ++ more) = prompts calls + prompts more := by
  rw [prompts, written_append, List.countP_append]
  rfl

theorem reports_append (calls more : Record Process) :
    reports (calls ++ more) = reports calls + reports more := by
  rw [reports, written_append, List.countP_append]
  rfl

end Record

/-- The calls of a move write nothing. -/
theorem PerformRun.written_eq_nil {env : Environment Process} {builtin : Builtin}
    {arguments : List String} {calls : Record Process}
    {answer : Except Failure Control × Environment Process}
    (h : PerformRun env builtin arguments calls answer) : Record.written calls = [] := by
  cases h with
  | ended _ | misused _ => rfl
  | moved hmove | unmoved hmove => cases hmove <;> rfl

/-- All that is written while a line runs, and before a program does, is a report. -/
theorem LineRun.written_eq {sh : Shell Process} {line : String} {calls : Record Process}
    {answer : Except Failure Outcome × Shell Process} (h : LineRun sh line calls answer) :
    ∀ write ∈ Record.written calls, write.2 = (standardError, utf8 errorMessage) := by
  cases h with
  | blank _ => simp [Record.written]
  | builtin _ _ hperform => simp [hperform.written_eq_nil]
  | launched _ _ hlaunch =>
    cases hlaunch with
    | unforked errno => exact fun write hwrite => absurd hwrite List.not_mem_nil
    | @forked fate calls status hchild ended =>
      have hwritten : Record.written (.fork (.ok ()) :: (calls ++ [.wait status ended])) =
          Record.written calls :=
        (Record.written_append calls _).trans (List.append_nil _)
      have hreported := hchild.reported
      rw [hwritten]
      split at hreported
      · simp [hreported]
      · obtain ⟨-, child, hchild⟩ := hreported
        simp [hchild]

theorem LineRun.prompts_eq_zero {sh : Shell Process} {line : String} {calls : Record Process}
    {answer : Except Failure Outcome × Shell Process} (h : LineRun sh line calls answer) :
    Record.prompts (calls ++ Shell.reportOf answer) = 0 := by
  rw [Record.prompts_append, Record.prompts, List.countP_eq_zero.mpr, Nat.zero_add]
  · rcases answer with ⟨_ | _, sh'⟩ <;> rfl
  · intro write hwrite
    rw [h.written_eq write hwrite]
    decide

/-- How often a line was asked for: for every line that was run, and once more if there was none. -/
def Course.asked (course : Course World Process) : Nat :=
  course.executions.length +
    match course.ending with
    | some .exhausted | some (.unreadable _) => 1
    | some (.unopened _) | some (.dismissed _) | none => 0

/-- **Prompts.** There is a prompt for each time that someone was asked for a line. -/
theorem CourseRun.prompts_eq {sys : System World Process} {interactive : Bool}
    {stream : InputStream} {sh : Shell Process} {buffer : Bytes}
    {state state' : World × Record Process} {course : Course (World × Record Process) Process}
    (h : CourseRun sys.recorded interactive stream sh buffer state course state') :
    Record.prompts state'.2 =
      Record.prompts state.2 + if interactive then course.asked else 0 := by
  have hasking : ∀ (sh : Shell Process) reads,
      Record.prompts (sh.asking interactive stream reads) = if interactive then 1 else 0 := by
    intro sh reads
    cases interactive <;> rfl
  induction h with
  | cut _ _ _ => cases interactive <;> rfl
  | unreadable hask =>
    obtain ⟨reads, hasked⟩ := Shell.exists_asking hask
    rw [reportError_recorded, hasked, Record.prompts_append, Record.prompts_append, hasking]
    cases interactive <;> rfl
  | exhausted hask =>
    obtain ⟨reads, hasked⟩ := Shell.exists_asking hask
    rw [hasked, Record.prompts_append, hasking]
    cases interactive <;> rfl
  | dismissed hruns _ =>
    obtain ⟨reads, hasked⟩ := Shell.exists_asking hruns.asked
    obtain ⟨calls, hline, -, hdone⟩ := Shell.exists_attempting hruns.attempted
    rw [hdone, hasked, Record.prompts_append, Record.prompts_append, hasking,
      hline.prompts_eq_zero]
    cases interactive <;> rfl
  | @next _ _ _ _ _ rest hruns _ _ ih =>
    obtain ⟨reads, hasked⟩ := Shell.exists_asking hruns.asked
    obtain ⟨calls, hline, -, hdone⟩ := Shell.exists_attempting hruns.attempted
    rw [ih, hdone, hasked, Record.prompts_append, Record.prompts_append, hasking,
      hline.prompts_eq_zero]
    cases interactive with
    | false => rfl
    | true =>
      simp only [if_true, Course.asked, List.length_cons]
      omega

end MiniShell
