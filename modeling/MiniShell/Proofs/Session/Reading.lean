import MiniShell.Host.Layout
import MiniShell.Proofs.Session.Commands
import MiniShell.Proofs.Session.OnRecord
import MiniShell.Proofs.System.Descriptors
import MiniShell.Proofs.System.Undisturbed

/-!
# What a session reads

As long as only the shell reads its input, the lines that are asked for are those of the input, one
after the other, whatever becomes of them. That nobody else reads or changes the input is asked of
the calls that the session makes, and of no others (`Undisturbed`).

1. `Execution.Runs.reads`: one turn takes one line from the input and leaves the rest to the next.
2. `CourseRun.lines_isPrefix`: so do all turns together.
3. `CourseRun.commands_eq`: a session that ends has run the commands of its input and ends as the
   input says, as long as children can be made.
4. `Shell.runLines_commands`: a session runs the commands of its input, and then it is over.
-/

namespace MiniShell

variable {World Process : Type}

/-! ## The end of the input -/

/-- How a session with this input ends. -/
def Content.ending (config : Config) (content : Content) : Ending :=
  if (content.texts (lineLimit config.maxLineLength)).any (Shell.endsSession config.maxTokens) then
    .dismissed exitSuccess
  else
    match content.failure? with
    | some cause => .unreadable cause
    | none => .exhausted

/-- The first line that is read ends the session, or the session ends as the rest of the input
says. -/
theorem Input.ending_readLine (config : Config) (input : Input) :
    input.content.ending config =
      match (input.readLine (lineLimit config.maxLineLength)).1 with
      | .ok (some line) =>
        if Shell.endsSession config.maxTokens line then .dismissed exitSuccess
        else (input.readLine (lineLimit config.maxLineLength)).2.content.ending config
      | .error cause => .unreadable cause
      | .ok none => .exhausted := by
  have htexts := texts_readLine (lineLimit_pos config.maxLineLength) input
  split <;> rename_i hread <;> rw [hread] at htexts <;> unfold Content.ending
  · rw [htexts.1, htexts.2, List.any_cons]
    rename_i line
    cases Shell.endsSession config.maxTokens line <;> rfl
  · rw [htexts.1, htexts.2]
    rfl
  · rw [htexts.1, htexts.2]
    rfl

/-! ## Reading in turn -/

/-- What is on record after this state leaves the input undisturbed. -/
def UndisturbedUpTo (sys : System World Process) (left : World → Source) (record : Record Process)
    (state : World × Record Process) : Prop :=
  ∃ calls, record = state.2 ++ calls ∧ Undisturbed sys left state.1 calls

section Turns

variable {sys : System World Process} {left : World → Source} {interactive : Bool}
  {stream : InputStream} {sh : Shell Process} {buffer buffer' : Bytes}
  {state state' : World × Record Process} {record : Record Process}

/-- What reads nothing itself leaves the input to what comes after. -/
theorem UndisturbedUpTo.of_agree {α : Type} {action : StateM (World × Record Process) α} {a : α}
    (hfollows : Agree (Follows sys state) action action)
    (hunread : Agree (Unread state.2) action action) (hrun : action.run state = (a, state'))
    (hon : state'.2 <+: record) (h : UndisturbedUpTo sys left record state) :
    left state'.1 = left state.1 ∧ UndisturbedUpTo sys left record state' := by
  have hstart : Follows sys state state state := ⟨rfl, [], (List.append_nil _).symm, rfl⟩
  obtain ⟨-, -, calls, hcalls, -⟩ := hfollows.apply hstart
  rw [hrun] at hcalls
  have hrun : action.run (state.1, state.2) = (a, (state'.1, state.2 ++ calls)) :=
    hcalls ▸ hrun
  obtain ⟨later, hlater, hleft⟩ := h
  obtain ⟨more, rfl⟩ := hon
  rw [hcalls, List.append_assoc] at hlater
  rw [← List.append_cancel_left hlater] at hleft
  obtain ⟨hkept, hmore⟩ := hleft.of_account (hfollows.account hrun) (hunread.not_isRead hrun)
  exact ⟨hkept, more, rfl, hmore⟩

/-- The shell reads the next line of what is unread, and leaves the rest unread. -/
theorem Shell.readLine_undisturbed {answer : Except IoError (Option String)}
    (hread : (sh.readLine sys.recorded stream buffer).run state = ((answer, buffer'), state'))
    (hon : state'.2 <+: record) (h : UndisturbedUpTo sys left record state) :
    Input.readLine (lineLimit sh.config.maxLineLength) ⟨buffer, left state.1⟩ =
        (answer, ⟨buffer', left state'.1⟩) ∧
      UndisturbedUpTo sys left record state' := by
  rcases state with ⟨world, noted⟩
  obtain ⟨later, hlater, hleft⟩ := h
  obtain ⟨more, rfl⟩ := hon
  rw [readLine_recorded] at hread
  cases hread
  dsimp only at hlater
  rw [List.append_assoc] at hlater
  rw [← List.append_cancel_left hlater] at hleft
  obtain ⟨⟨hfound, hdrop⟩, hrest⟩ := hleft
  have hunread : ((sys.unread sh.env.process stream).run world).1 = left world := hfound _ rfl
  have hsuffix := Input.readLine_suffix (lineLimit sh.config.maxLineLength) ⟨buffer, left world⟩
  refine ⟨?_, more, rfl, hrest⟩
  dsimp only [Call.again, Call.takes] at hdrop ⊢
  rw [hdrop, hunread, ← List.suffix_iff_eq_drop.1 hsuffix]

/-- Asking for a line reads it, and leaves the rest of the input unread. -/
theorem Shell.ask_undisturbed {answer : Except IoError (Option String)}
    (hask : (sh.ask sys.recorded interactive stream buffer).run state = ((answer, buffer'), state'))
    (hon : state'.2 <+: record) (h : UndisturbedUpTo sys left record state) :
    Input.readLine (lineLimit sh.config.maxLineLength) ⟨buffer, left state.1⟩ =
        (answer, ⟨buffer', left state'.1⟩) ∧
      UndisturbedUpTo sys left record state' := by
  rcases hprompt : (sh.prompt sys.recorded interactive).run state with ⟨_, prompted⟩
  rw [ask, run_bind, hprompt] at hask
  have hgrows : prompted.2 <+: state'.2 := by
    obtain ⟨_, _, _, hread, reads, rfl⟩ :=
      readLine_makes sys sh stream buffer prompted.1 prompted.2
    cases hask.symm.trans hread
    exact List.prefix_append _ _
  obtain ⟨hkept, hrest⟩ := h.of_agree ((similar_follows sys state).prompt sh interactive)
    ((similar_unread sys state.2).prompt sh interactive) hprompt (hgrows.trans hon)
  rw [← hkept]
  exact readLine_undisturbed hask hon hrest

/-! ## Turns -/

section Execution

variable {execution : Execution (World × Record Process) Process}
  (h : execution.Runs sys.recorded interactive stream buffer state buffer')
  (hon : execution.after.2 <+: record)

include h hon

/-- **A turn.** The line that is run is the next one of the input, and the rest of the input is left
to the next turn. -/
theorem Execution.Runs.reads (hleft : UndisturbedUpTo sys left record state) :
    Input.readLine (lineLimit execution.shell.config.maxLineLength) ⟨buffer, left state.1⟩ =
        (.ok (some execution.line), ⟨buffer', left execution.after.1⟩) ∧
      UndisturbedUpTo sys left record execution.after := by
  obtain ⟨calls, -, -, hdone⟩ := Shell.exists_attempting h.attempted
  have hgrows : execution.before.2 <+: execution.after.2 := hdone ▸ List.prefix_append _ _
  obtain ⟨hread, hrest⟩ := Shell.ask_undisturbed h.asked (hgrows.trans hon) hleft
  obtain ⟨hkept, hmore⟩ := hrest.of_agree
    ((similar_follows sys execution.before).attempt execution.shell execution.line)
    ((similar_unread sys execution.before.2).attempt execution.shell execution.line)
    h.attempted hon
  exact ⟨by rw [hread, hkept], hmore⟩

/-- Among all lines, `exit` and `quit` by themselves end the session. -/
theorem Execution.Runs.statusAfter_eq (hall : execution.shell.builtins = Builtin.all)
    (hfork : ∀ errno, .fork (.error errno) ∉ record) :
    Shell.statusAfter execution.result =
      if Shell.endsSession execution.shell.config.maxTokens execution.line then some exitSuccess
      else none := by
  obtain ⟨calls, hline, -, hdone⟩ := Shell.exists_attempting h.attempted
  refine hline.statusAfter_eq hall fun errno hcall => hfork errno (hon.subset ?_)
  rw [hdone]
  exact List.mem_append_right _ (List.mem_append_left _ hcall)

end Execution

/-! ## Courses -/

section Course

variable {course : Course (World × Record Process) Process}

/-- The lines of a session are the first of its input. -/
theorem CourseRun.lines_isPrefix
    (h : CourseRun sys.recorded interactive stream sh buffer state course state')
    (hon : state'.2 <+: record) (hleft : UndisturbedUpTo sys left record state) :
    course.executions.map Execution.line <+:
      (Input.content ⟨buffer, left state.1⟩).texts (lineLimit sh.config.maxLineLength) := by
  induction h with
  | cut _ _ _ | unreadable _ | exhausted _ => exact List.nil_prefix
  | @dismissed buffer _ state execution _ hruns _ =>
    have htexts := Input.texts_readLine (lineLimit_pos execution.shell.config.maxLineLength)
      ⟨buffer, left state.1⟩
    rw [(hruns.reads hon hleft).1] at htexts
    rw [htexts.1]
    exact List.prefix_cons_inj _ |>.mpr List.nil_prefix
  | @next buffer _ state _ execution _ hruns _ hrest ih =>
    obtain ⟨hread, hmore⟩ := hruns.reads (hrest.record_prefix.trans hon) hleft
    have htexts := Input.texts_readLine (lineLimit_pos execution.shell.config.maxLineLength)
      ⟨buffer, left state.1⟩
    have hlater := ih hon hmore
    rw [hruns.frame.1] at hlater
    rw [hread] at htexts
    rw [htexts.1]
    exact List.prefix_cons_inj _ |>.mpr hlater

/-- **Courses.** The lines of a session are the first commands of its input. If the session has come
to an end, they are all of them, and it is the end that the input has for it. -/
theorem CourseRun.commands_eq
    (h : CourseRun sys.recorded interactive stream sh buffer state course state')
    (hon : state'.2 <+: record) (hleft : UndisturbedUpTo sys left record state)
    (hall : sh.builtins = Builtin.all) (hfork : ∀ errno, .fork (.error errno) ∉ record) :
    ∃ later, (Input.content ⟨buffer, left state.1⟩).commands sh.config =
        course.executions.map Execution.line ++ later ∧
      ∀ ending, course.ending = some ending →
        later = [] ∧ ending = (Input.content ⟨buffer, left state.1⟩).ending sh.config := by
  induction h with
  | cut _ _ _ => exact ⟨_, rfl, nofun⟩
  | unreadable hask =>
    rw [reportError_recorded] at hon
    have hread := (Shell.ask_undisturbed hask ((List.prefix_append _ _).trans hon) hleft).1
    rw [Input.commands_readLine, Input.ending_readLine, hread]
    exact ⟨[], rfl, fun ending hending => ⟨rfl, (Option.some.inj hending).symm⟩⟩
  | exhausted hask =>
    have hread := (Shell.ask_undisturbed hask hon hleft).1
    rw [Input.commands_readLine, Input.ending_readLine, hread]
    exact ⟨[], rfl, fun ending hending => ⟨rfl, (Option.some.inj hending).symm⟩⟩
  | @dismissed buffer _ state execution _ hruns hstatus =>
    have hread := (hruns.reads hon hleft).1
    have hends := hruns.statusAfter_eq hon hall hfork
    rw [hstatus] at hends
    rw [Input.commands_readLine, Input.ending_readLine, hread]
    dsimp only
    split at hends
    · rename_i hline
      rw [if_pos hline, if_pos hline, Option.some.inj hends]
      exact ⟨[], rfl, fun ending hending => ⟨rfl, (Option.some.inj hending).symm⟩⟩
    · cases hends
  | @next buffer _ state _ execution _ hruns hstatus hrest ih =>
    have hlast := hrest.record_prefix.trans hon
    obtain ⟨hread, hmore⟩ := hruns.reads hlast hleft
    obtain ⟨hconfig, hbuiltins, -⟩ := hruns.frame
    have hends := hruns.statusAfter_eq hlast hall hfork
    rw [hstatus] at hends
    obtain ⟨later, hlater, hended⟩ := ih hon hmore (hbuiltins.trans hall)
    rw [hconfig] at hlater hended
    rw [Input.commands_readLine, Input.ending_readLine, hread]
    dsimp only
    split at hends
    · cases hends
    · rename_i hline
      rw [if_neg hline, if_neg hline]
      exact ⟨later, congrArg (_ :: ·) hlater, hended⟩

end Course

end Turns

/-! ## Sessions -/

namespace Shell

section Session

variable {sys : System World Process} {left : World → Source} {interactive : Bool}
  {stream : InputStream} {bound : Nat} {sh : Shell Process} {world : World}
  {calls : Record Process}
  (hcalls : ((sh.runLines sys.recorded interactive stream bound []).run (world, [])).2.2 = calls)
  (hleft : Undisturbed sys left world calls)

include hcalls

/-- The session takes a course on record, which looks like the one without. -/
theorem exists_course_recorded :
    ∃ course done,
      CourseRun sys.recorded interactive stream sh [] (world, []) course (done, calls) ∧
      course.outline = ((sh.course sys interactive stream bound []).run world).1.outline := by
  have houtline := (course_recorded sys interactive stream bound sh [] world []).1
  have hcourse := course_courseRun sys.recorded interactive stream bound sh [] (world, [])
  rw [runLines_eq_course] at hcalls
  subst hcalls
  exact ⟨_, _, hcourse, houtline.symm⟩

include hleft

/-- A session that has had the chance to read all its lines comes to an end. -/
theorem course_ends
    (hbound : ((left world).content.texts (lineLimit sh.config.maxLineLength)).length < bound) :
    ((sh.course sys interactive stream bound []).run world).1.ending.isSome := by
  obtain ⟨noted, done, hcourse, houtline⟩ := exists_course_recorded hcalls
  have hfirst := hcourse.lines_isPrefix (List.prefix_refl _) ⟨calls, rfl, hleft⟩
  rw [Course.lines_of_outline houtline] at hfirst
  have hlength := hfirst.length_le
  rw [List.length_map] at hlength
  have hcut := (course_length sys interactive stream bound sh [] world).2
  rw [Option.isSome_iff_ne_none]
  intro hnone
  have := hcut hnone
  change _ ≤ ((left world).content.texts _).length at hlength
  omega

/-- A session runs the commands of its input, and ends as the input says. -/
theorem course_commands (hall : sh.builtins = Builtin.all)
    (hfork : ∀ errno, .fork (.error errno) ∉ calls) :
    let course := ((sh.course sys interactive stream bound []).run world).1
    course.executions.map Execution.line = ((left world).content.commands sh.config).take bound ∧
      (((left world).content.commands sh.config).length < bound →
        course.ending = some ((left world).content.ending sh.config)) := by
  obtain ⟨noted, done, hcourse, houtline⟩ := exists_course_recorded hcalls
  obtain ⟨later, hlater, hended⟩ :=
    hcourse.commands_eq (List.prefix_refl _) ⟨calls, rfl, hleft⟩ hall hfork
  rw [Course.lines_of_outline houtline] at hlater
  rw [Course.ending_of_outline houtline] at hended
  obtain ⟨hle, hcut⟩ := course_length sys interactive stream bound sh [] world
  intro course
  change (left world).content.commands sh.config = course.executions.map Execution.line ++ later
    at hlater
  rcases hending : course.ending with _ | ending
  · have hlength : (course.executions.map Execution.line).length = bound :=
      (List.length_map _).trans (hcut hending)
    rw [hlater]
    refine ⟨(List.take_left' hlength).symm, fun hlt => ?_⟩
    rw [List.length_append, hlength] at hlt
    exact absurd hlt (Nat.not_lt.mpr (Nat.le_add_right _ _))
  · obtain ⟨rfl, rfl⟩ := hended ending hending
    rw [List.append_nil] at hlater
    rw [hlater]
    refine ⟨(List.take_of_length_le ?_).symm, fun _ => rfl⟩
    rwa [List.length_map]

end Session

/-- **The lines a session runs.** As long as only the shell reads its input and children can be
made, a session runs the commands of its input, in order and once each, and then it is over. The
course of the session is the session itself: it has the same status, the same shell and the same
world at the end, and each of its lines has been executed between the worlds that stand beside
it. -/
theorem runLines_commands {sys : System World Process} {left : World → Source} {interactive : Bool}
    {stream : InputStream} {bound : Nat} {sh : Shell Process} {world : World}
    {calls : Record Process} (hall : sh.builtins = Builtin.all)
    (hcalls : ((sh.runLines sys.recorded interactive stream bound []).run (world, [])).2.2 = calls)
    (hfork : ∀ errno, .fork (.error errno) ∉ calls) (hleft : Undisturbed sys left world calls) :
    ∃ course done,
      (sh.course sys interactive stream bound []).run world = (course, done) ∧
      (sh.runLines sys interactive stream bound []).run world =
        ((course.code interactive, course.shell), done) ∧
      CourseRun sys interactive stream sh [] world course done ∧
      (∀ execution ∈ course.executions, ∃ ran,
        (execution.shell.executeLine sys execution.line).run execution.before =
          ((execution.result, execution.next), ran) ∧
        execution.after = if execution.result.isOk then ran
          else ((reportError sys execution.next.env.process).run ran).2) ∧
      course.executions.map Execution.line = ((left world).content.commands sh.config).take bound ∧
      (((left world).content.commands sh.config).length < bound →
        course.ending = some ((left world).content.ending sh.config)) := by
  have hcourse := course_courseRun sys interactive stream bound sh [] world
  obtain ⟨hlines, hending⟩ := course_commands hcalls hleft hall hfork
  refine ⟨_, _, rfl, runLines_eq_course .., hcourse, fun execution hmem => ?_, hlines, hending⟩
  obtain ⟨buffer, before, buffer', hruns⟩ := hcourse.runs execution hmem
  exact executeLine_of_attempt hruns.attempted

/-- On a machine as it comes: a command whose output is redirected, one that is not found, and a
line that ends the session, with another line behind it. And on a system where reads fail: a read
fails while the rest of an overlong line is skipped. The line is not run, and neither is what the
failure has left of it. -/
theorem runLines_commands_of_two :
    (let start := Host.start [] (utf8 "echo hi > out\nnope\n exit\nls\n")
      let sh := ((Shell.new Host.system start.process {}).run start.machine).1
      let left := fun machine => ((Host.system.unread start.process .standardInput).run machine).1
      let calls := ((sh.runLines Host.system.recorded true .standardInput 9 []).run
        (start.machine, [])).2.2
      sh.builtins = Builtin.all ∧ (∀ errno, .fork (.error errno) ∉ calls) ∧
        Undisturbed Host.system left start.machine calls ∧
        ∃ course done, (sh.runLines Host.system true .standardInput 9 []).run start.machine =
            ((course.code true, course.shell), done) ∧
          CourseRun Host.system true .standardInput sh [] start.machine course done ∧
          course.executions.map Execution.line = ["echo hi > out\n", "nope\n", " exit\n"] ∧
          course.ending = some (.dismissed exitSuccess)) ∧
    let sh : Shell Unit := ⟨⟨(), [], .standard⟩, { maxLineLength := 6 }, Builtin.all, 0⟩
    let source : Source := [.block (utf8 "ls\n"), .interrupted, .block (utf8 "overlong"),
      .failed (.other "lost"), .block (utf8 "line\nexit\n")]
    let calls := ((sh.runLines quiet.recorded true .standardInput 3 []).run (source, [])).2.2
    sh.builtins = Builtin.all ∧ (∀ errno, .fork (.error errno) ∉ calls) ∧
      Undisturbed quiet id source calls ∧
      ∃ course done, (sh.runLines quiet true .standardInput 3 []).run source =
          ((course.code true, course.shell), done) ∧
        CourseRun quiet true .standardInput sh [] source course done ∧
        course.executions.map Execution.line = ["ls\n"] ∧
        course.ending = some (.unreadable (.other "lost")) := by
  refine ⟨?_, ?_⟩
  · intro start sh left calls
    have hfacts : (∀ call ∈ calls, call.isGranted = true) ∧
        Undisturbed Host.system left start.machine calls ∧
        (left start.machine).content.commands sh.config =
          ["echo hi > out\n", "nope\n", " exit\n"] ∧
        (left start.machine).content.ending sh.config = .dismissed exitSuccess := by
      decide +kernel
    have hall : sh.builtins = Builtin.all := rfl
    have hrecord : ((sh.runLines Host.system.recorded true .standardInput 9 []).run
      (start.machine, [])).2.2 = calls := rfl
    -- The calls are settled. Now their list must not be evaluated again.
    clear_value calls left sh
    obtain ⟨hgranted, hleft, hcommands, hending⟩ := hfacts
    have hfork := Record.not_mem_fork_error hgranted
    obtain ⟨course, done, -, hrun, hcourse, -, hlines, hended⟩ :=
      runLines_commands hall hrecord hfork hleft
    rw [hcommands] at hlines hended
    rw [hending] at hended
    exact ⟨hall, hfork, hleft, course, done, hrun, hcourse, hlines, hended (by decide)⟩
  · intro sh source calls
    have hcommands : source.content.commands sh.config = ["ls\n"] := by decide +kernel
    have hending : source.content.ending sh.config = .unreadable (.other "lost") := by
      decide +kernel
    have hgranted : ∀ call ∈ calls, call.isGranted = true := by decide +kernel
    have hall : sh.builtins = Builtin.all := rfl
    have hrecord : ((sh.runLines quiet.recorded true .standardInput 3 []).run
      (source, [])).2.2 = calls := rfl
    clear_value calls sh
    have hfork := Record.not_mem_fork_error hgranted
    have hleft : Undisturbed quiet id source calls := undisturbed_quiet source calls
    obtain ⟨course, done, -, hrun, hcourse, -, hlines, hended⟩ :=
      runLines_commands hall hrecord hfork hleft
    rw [id, hcommands] at hlines hended
    rw [hending] at hended
    exact ⟨hall, hfork, hleft, course, done, hrun, hcourse, hlines, hended (by decide)⟩

end Shell

end MiniShell
