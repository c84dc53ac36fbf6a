import MiniShell.Host.Layout
import MiniShell.Proofs.Host.Descriptors
import MiniShell.Proofs.Session.Faults

/-!
# Every failure is reported once

The reports that go to the standard error of a session are those of its lines, and one more if its
input could not be opened or read (`Shell.session_reports`). Each turn adds to the record what the
line has to report and nothing else (`Execution.Runs.faulted`), and so do all turns together
(`CourseRun.reports_eq`).
-/

namespace MiniShell

variable {World Process Open File : Type}

/-- The reports that the end of a session makes. -/
def Ending.reportsDue : Option Ending → Nat
  | some (.unopened _) | some (.unreadable _) => 1
  | some .exhausted | some (.dismissed _) | none => 0

namespace Execution

/-- The calls that were made while the line ran. -/
def calls (execution : Execution (World × Record Process) Process) : Record Process :=
  execution.after.2.drop execution.before.2.length

def fault? (execution : Execution (World × Record Process) Process) : Option Fault :=
  execution.shell.fault? execution.line execution.result execution.calls

end Execution

/-! ## Turns -/

section Turn

variable {sys : System World Process} (d : Descriptors sys Open File) [DecidableEq File]

/-- No prompt is a report. -/
theorem Descriptors.reports_asking (shown : File) (sh : Shell Process) (interactive : Bool)
    (stream : InputStream) (reads : Nat) :
    d.reports shown (sh.asking interactive stream reads) = 0 := by
  have hne : ¬ standardOutput = standardError := by decide
  cases interactive with
  | false => rfl
  | true => simp [reports, Record.written, Shell.asking, Call.written?, hne]

variable {terminal : Open} {interactive : Bool} {stream : InputStream} {buffer buffer' : Bytes}
  {state : World × Record Process} {execution : Execution (World × Record Process) Process}

/-- The calls of a line and the report of its failure come to the record with it. -/
theorem Execution.Runs.exists_calls
    (h : execution.Runs sys.recorded interactive stream buffer state buffer') :
    ∃ calls, LineRun execution.shell execution.line calls (execution.result, execution.next) ∧
      Account sys execution.before.1 execution.after.1 execution.calls ∧
      execution.calls = calls ++ Shell.reportOf (execution.result, execution.next) ∧
      execution.after.2 = execution.before.2 ++ execution.calls := by
  obtain ⟨calls, hline, haccount, hdone⟩ := Shell.exists_attempting h.attempted
  have hcalls : execution.calls = calls ++ Shell.reportOf (execution.result, execution.next) := by
    rw [Execution.calls, hdone, List.drop_left]
  rw [← hcalls] at haccount hdone
  exact ⟨calls, hline, haccount, hcalls, hdone⟩

/-- What comes to the record with a line is reported as the line went wrong. -/
theorem Execution.Runs.faulted
    (h : execution.Runs sys.recorded interactive stream buffer state buffer')
    (hallowed : ∀ call ∈ execution.after.2, d.Allows terminal call)
    (hterminal : d.openFile execution.shell.env.process standardError = some terminal) :
    execution.after.2 = execution.before.2 ++ execution.calls ∧
      d.openFile execution.next.env.process standardError = some terminal ∧
      d.Reported terminal execution.after.1 execution.calls execution.fault? := by
  obtain ⟨calls, hline, haccount, hcalls, hdone⟩ := h.exists_calls
  have hmem : ∀ call ∈ calls, call ∈ execution.after.2 := by
    intro call hcall
    rw [hdone, hcalls]
    exact List.mem_append_right _ (List.mem_append_left _ hcall)
  rw [hcalls] at haccount
  have hfaulted := hline.faulted d haccount (fun call hcall => hallowed call (hmem call hcall))
    hterminal
  rw [← hcalls] at hfaulted
  exact ⟨hdone, hfaulted⟩

end Turn

/-! ## Sessions -/

namespace CourseRun

variable {sys : System World Process} {interactive : Bool} {stream : InputStream}
  {sh : Shell Process} {buffer : Bytes} {state state' : World × Record Process}
  {course : Course (World × Record Process) Process}

/-- From turn to turn, each line makes the reports that are due for it. -/
theorem reports_eq (d : Descriptors sys Open File) [DecidableEq File] {terminal : Open}
    (h : CourseRun sys.recorded interactive stream sh buffer state course state')
    (hallowed : ∀ call ∈ state'.2, d.Allows terminal call)
    (hterminal : d.openFile sh.env.process standardError = some terminal) :
    d.reports (d.file terminal) state'.2 = d.reports (d.file terminal) state.2 +
        course.executions.countP (·.fault? = some .builtin) +
        course.executions.countP (·.fault? = some .early) + Ending.reportsDue course.ending ∧
      ∀ execution ∈ course.executions,
        d.Reported terminal execution.after.1 execution.calls execution.fault? := by
  induction h with
  | cut _ _ _ => exact ⟨rfl, List.forall_mem_nil _⟩
  | unreadable hask =>
    obtain ⟨reads, hasked⟩ := Shell.exists_asking hask
    refine ⟨?_, List.forall_mem_nil _⟩
    rw [reportError_recorded, hasked, d.reports_append, d.reports_append, d.reports_asking,
      d.reports_report _ hterminal, if_pos rfl]
    rfl
  | exhausted hask =>
    obtain ⟨reads, hasked⟩ := Shell.exists_asking hask
    refine ⟨?_, List.forall_mem_nil _⟩
    rw [hasked, d.reports_append, d.reports_asking]
    rfl
  | dismissed hruns _ =>
    obtain ⟨reads, hasked⟩ := Shell.exists_asking hruns.asked
    obtain ⟨hdone, -, hreported⟩ := hruns.faulted d hallowed hterminal
    refine ⟨?_, List.forall_mem_singleton.mpr hreported⟩
    rw [hdone, hasked, d.reports_append, d.reports_append, d.reports_asking, hreported.reports_eq,
      Fault.reportsDue_eq, List.countP_singleton, List.countP_singleton]
    simp [Ending.reportsDue, Nat.add_assoc]
  | next hruns _ hrest ih =>
    obtain ⟨reads, hasked⟩ := Shell.exists_asking hruns.asked
    obtain ⟨hdone, hstays, hreported⟩ := hruns.faulted d
      (fun call hcall => hallowed call (hrest.record_prefix.subset hcall)) hterminal
    obtain ⟨htotal, hall⟩ := ih hallowed hstays
    refine ⟨?_, List.forall_mem_cons.mpr ⟨hreported, hall⟩⟩
    rw [htotal, hdone, hasked, d.reports_append, d.reports_append, d.reports_asking,
      hreported.reports_eq, Fault.reportsDue_eq, List.countP_cons, List.countP_cons]
    simp only [decide_eq_true_eq]
    omega

end CourseRun

/-- **Reports.** The reports that go to the standard error of a session are one for each built-in
that failed, one for each command that failed while the streams of its child were still those of
the shell, and one more if the input could not be opened or read. A command that failed behind a
redirection has left its report in the target, and nothing else there. -/
theorem Shell.session_reports {sys : System World Process} (d : Descriptors sys Open File)
    [DecidableEq File] {bound : Nat} {sh : Shell Process} {mode : Mode} {terminal : Open}
    {world done : World} {course : Course (World × Record Process) Process}
    {calls : Record Process}
    (hterminal : d.openFile sh.env.process standardError = some terminal)
    (hrun : (sh.session sys.recorded bound mode).run (world, []) = (course, (done, calls)))
    (hallowed : ∀ call ∈ calls, d.Allows terminal call) :
    (sh.run sys bound mode).run world =
        ((course.code mode.isInteractive, course.shell), done) ∧
      d.reports (d.file terminal) calls =
        course.executions.countP (·.fault? = some .builtin) +
        course.executions.countP (·.fault? = some .early) + Ending.reportsDue course.ending ∧
      ∀ execution ∈ course.executions,
        d.Reported terminal execution.after.1 execution.calls execution.fault? := by
  refine ⟨run_recorded hrun, ?_⟩
  obtain ⟨opening, answer, opened, hopen, hwritten⟩ :=
    mode.stream_makes sys sh.env.process world []
  cases answer with
  | error cause =>
    rw [session_of_error hopen] at hrun
    have hcalls : opening ++ [.report sh.env.process] = calls := congrArg (·.2.2) hrun
    have hcourse : ⟨[], some (.unopened cause), sh⟩ = course := congrArg (·.1) hrun
    rw [← hcourse, ← hcalls, d.reports_append, d.reports_eq_zero _ hwritten,
      d.reports_report _ hterminal, if_pos rfl]
    exact ⟨rfl, List.forall_mem_nil _⟩
  | ok stream =>
    rw [session_of_ok hopen] at hrun
    have hcourse := course_courseRun sys.recorded mode.isInteractive stream bound sh []
      (opened, [] ++ opening)
    rw [hrun] at hcourse
    obtain ⟨htotal, hall⟩ := hcourse.reports_eq d hallowed hterminal
    rw [List.nil_append, d.reports_eq_zero _ hwritten, Nat.zero_add] at htotal
    exact ⟨htotal, hall⟩

/-- On a machine as it comes: a command that is not found, behind a redirection and without one, a
blank line, and a built-in that is misused. -/
theorem Shell.session_reports_of_four :
    let start := Host.start [] (utf8 "nope > out\nnope\n\ncd\n")
    let sh := ((Shell.new Host.system start.process {}).run start.machine).1
    ∃ course done calls,
      (sh.session Host.system.recorded 5 .interactive).run (start.machine, []) =
        (course, (done, calls)) ∧
      Host.descriptors.openFile sh.env.process standardError = some 2 ∧
      (∀ call ∈ calls, Host.descriptors.Allows 2 call) ∧
      ((sh.run Host.system 5 .interactive).run start.machine).1.1 = some exitSuccess ∧
      Host.descriptors.reports 2 calls = 2 ∧
      ∃ execution ∈ course.executions, execution.line = "nope > out\n" ∧
        Host.descriptors.reports 2 execution.calls = 0 ∧
        Host.descriptors.HoldsReport execution.after.1 "out" execution.calls ∧
        Host.descriptors.content done 3 = some (utf8 errorMessage) := by
  intro start sh
  have hterminal : Host.descriptors.openFile sh.env.process standardError = some 2 := by
    decide +kernel
  have hfacts : let ran := (sh.session Host.system.recorded 5 .interactive).run (start.machine, [])
      (∀ call ∈ ran.2.2, Host.descriptors.Allows 2 call) ∧
      ran.1.code true = some exitSuccess ∧
      ran.1.executions.countP (·.fault? = some .builtin) +
        ran.1.executions.countP (·.fault? = some .early) + Ending.reportsDue ran.1.ending = 2 ∧
      (∃ execution ∈ ran.1.executions, execution.line = "nope > out\n" ∧
        execution.fault? = some (.late "out")) ∧
      Host.descriptors.content ran.2.1 3 = some (utf8 errorMessage) := by
    decide +kernel
  rcases hran : (sh.session Host.system.recorded 5 .interactive).run (start.machine, []) with
    ⟨course, done, calls⟩
  rw [hran] at hfacts
  obtain ⟨hallowed, hcode, hdue, ⟨execution, hexecution, hline, hfault⟩, hheld⟩ := hfacts
  obtain ⟨hrun, htotal, hall⟩ := session_reports Host.descriptors hterminal hran hallowed
  have hreported := hall execution hexecution
  rw [hfault] at hreported
  obtain ⟨hnone, hholds⟩ := hreported
  exact ⟨course, done, calls, rfl, hterminal, hallowed, (congrArg (·.1.1) hrun).trans hcode,
    htotal.trans hdue, execution, hexecution, hline, hnone, hholds, hheld⟩

end MiniShell
