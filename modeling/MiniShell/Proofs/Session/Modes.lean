import MiniShell.Host.Layout
import MiniShell.Proofs.Session.Status

/-!
# Interactive and batch sessions

The two modes differ in a prompt. On a system that does not heed prompts, a session that prompts
and one that does not go through the same lines with the same results, side by side. What is asked
of the system is asked of the calls that the second session makes, in the worlds in which the two
sessions make them (`Heedless`).

1. `Prompting` relates the two sessions while they run: the record of the first is that of the
   second with a prompt put in front of every read.
2. `modes_agree` draws the conclusions. The status depends on the mode only if the input has ended
   and no command was run.
-/

namespace MiniShell

variable {World World' Process α : Type}

/-! ## Prompts in a record -/

/-- The calls with which a shell that prompts makes this call. -/
def Call.prompted (prompt : Bytes) : Call Process → Record Process
  | .advance process stream reads =>
    [.write process standardOutput prompt, .advance process stream reads]
  | call => [call]

/-- The record of a shell that prompts, from that of one that does not. -/
def Record.prompted (prompt : Bytes) (calls : Record Process) : Record Process :=
  calls.flatMap (Call.prompted prompt)

namespace Record

theorem prompted_append (prompt : Bytes) (calls more : Record Process) :
    prompted prompt (calls ++ more) = prompted prompt calls ++ prompted prompt more :=
  List.flatMap_append

/-- There is no prompt in front of a call that reads nothing. -/
theorem prompted_of_not_isRead {prompt : Bytes} {call : Call Process} (h : call.isRead = false) :
    prompted prompt [call] = [call] := by
  cases call with
  | advance _ _ _ => cases h
  | _ => rfl

/-- No prompt is a report. -/
theorem reports_prompted (prompt : Bytes) (calls : Record Process) :
    reports (prompted prompt calls) = reports calls := by
  have hcall : ∀ call : Call Process, reports (call.prompted prompt) = reports [call] := by
    intro call
    cases call <;> rfl
  induction calls with
  | nil => rfl
  | cons call calls ih =>
    have hcons : prompted prompt (call :: calls) =
        call.prompted prompt ++ prompted prompt calls := List.flatMap_cons
    rw [hcons, reports_append, ih, hcall, ← reports_append]
    rfl

end Record

/-! ## Side by side -/

/-- The world in which the call is made by a shell that prompts: a read comes after the prompt. -/
def Call.afterPrompt (sys : System World Process) (prompt : Bytes) (world : World) :
    Call Process → World
  | .advance process _ _ => ((sys.write process standardOutput prompt).run world).2
  | _ => world

theorem Call.afterPrompt_of_not_isRead {sys : System World Process} {prompt : Bytes}
    {world : World} {call : Call Process} (h : call.isRead = false) :
    call.afterPrompt sys prompt world = world := by
  cases call with
  | advance _ _ _ => cases h
  | _ => rfl

/-- In related worlds the call is answered alike, with a prompt in front of a read on the first
system and without one on the second, and leaves related worlds behind. What is unread is the same
when it is a read. -/
def Call.Alike (related : World → World' → Prop) (sys : System World Process)
    (other : System World' Process) (prompt : Bytes) (world : World) (world' : World')
    (call : Call Process) : Prop :=
  related world world' →
    call.unread? sys (call.afterPrompt sys prompt world) = call.unread? other world' ∧
      (call.again sys (call.afterPrompt sys prompt world)).1 = (call.again other world').1 ∧
      related (call.again sys (call.afterPrompt sys prompt world)).2 (call.again other world').2

/-- The first system answers the calls on record as the second does, one after the other, and a
prompt that is written to it before a read changes nothing about that. -/
def Heedless (related : World → World' → Prop) (sys : System World Process)
    (other : System World' Process) (prompt : Bytes) : World → World' → Record Process → Prop
  | _, _, [] => True
  | world, world', call :: calls =>
    call.Alike related sys other prompt world world' ∧
      Heedless related sys other prompt (call.again sys (call.afterPrompt sys prompt world)).2
        (call.again other world').2 calls

instance Heedless.decidable (related : World → World' → Prop) (sys : System World Process)
    (other : System World' Process) (prompt : Bytes) [DecidableEq Process]
    [∀ world world', Decidable (related world world')] :
    (world : World) → (world' : World') → (calls : Record Process) →
      Decidable (Heedless related sys other prompt world world' calls)
  | _, _, [] => inferInstanceAs (Decidable True)
  | world, world', call :: calls =>
    have := decidable related sys other prompt
      (call.again sys (call.afterPrompt sys prompt world)).2 (call.again other world').2 calls
    inferInstanceAs (Decidable ((_ → _ ∧ _ ∧ _) ∧ _))

/-- A session that prompts stands beside one that does not: the worlds are related, there is a
prompt in front of every read and nowhere else, and the calls that are still to be made are answered
alike. `record` is what the session without prompts has put on record in the end. -/
def Prompting (related : World → World' → Prop) (sys : System World Process)
    (other : System World' Process) (prompt : Bytes) (record : Record Process)
    (state : World × Record Process) (state' : World' × Record Process) : Prop :=
  related state.1 state'.1 ∧ state.2 = state'.2.prompted prompt ∧
    ∃ calls, record = state'.2 ++ calls ∧
      Heedless related sys other prompt state.1 state'.1 calls

/-- What happened is not on record. -/
def OffRecord (record : Record Process) (state : World × Record Process) : Prop :=
  ¬ state.2 <+: record

section Prompting

variable {related : World → World' → Prop} {sys : System World Process}
  {other : System World' Process} {prompt : Bytes} {record : Record Process}

theorem OffRecord.of_append {state : World × Record Process} (h : OffRecord record state)
    (world : World) (calls : Record Process) : OffRecord record (world, state.2 ++ calls) :=
  fun hon => h ((List.prefix_append _ calls).trans hon)

/-- The next call on record. -/
theorem Prompting.next {state : World × Record Process} {state' : World' × Record Process}
    {call : Call Process} (h : Prompting related sys other prompt record state state')
    (hon : state'.2 ++ [call] <+: record) :
    call.Alike related sys other prompt state.1 state'.1 ∧
      ∃ calls, record = state'.2 ++ [call] ++ calls ∧
        Heedless related sys other prompt (call.again sys (call.afterPrompt sys prompt state.1)).2
          (call.again other state'.1).2 calls := by
  obtain ⟨-, -, rest, hrest, hheedless⟩ := h
  obtain ⟨calls, hcalls⟩ := hon
  have hnext : rest = call :: calls := by
    rw [← hcalls, List.append_assoc] at hrest
    exact (List.append_cancel_left hrest).symm
  subst hnext
  exact ⟨hheedless.1, calls, hcalls.symm, hheedless.2⟩

/-- A call of a command has the same answer in both sessions. -/
theorem agree_prompting {action : StateM World α} {action' : StateM World' α}
    (call : α → Call Process) (hcall : ∀ a b, call a = call b → a = b)
    (hread : ∀ a, (call a).isRead = false)
    (hagain : ∀ a world,
      (call a).again sys world = (call (action.run world).1, (action.run world).2))
    (hagain' : ∀ a world',
      (call a).again other world' = (call (action'.run world').1, (action'.run world').2)) :
    AgreeUnless (OffRecord record) (Prompting related sys other prompt record)
      (noted call action) (noted call action') where
  stays state' h := h.of_append _ _
  agrees := by
    rintro ⟨world, now⟩ ⟨world', now'⟩ h hon
    obtain ⟨halike, calls, hcalls, hheedless⟩ := h.next (not_not.mp hon)
    obtain ⟨hrelated, hrecord, -⟩ := h
    obtain ⟨-, hanswer, hafter⟩ := halike hrelated
    rw [Call.afterPrompt_of_not_isRead (hread _), hagain, hagain'] at hanswer hafter hheedless
    have hanswer := hcall _ _ hanswer
    refine ⟨hanswer, hafter, ?_, calls, hcalls, hheedless⟩
    have hnew : now ++ [call (action.run world).1] =
        Record.prompted prompt (now' ++ [call (action'.run world').1]) := by
      rw [Record.prompted_append, Record.prompted_of_not_isRead (hread _), hanswer]
      exact congrArg (· ++ _) hrecord
    exact hnew

theorem similar_prompting :
    SimilarUnless (OffRecord record) (Prompting related sys other prompt record) sys.recorded
      other.recorded where
  changeDir _ _ := agree_prompting _ (fun _ _ h => (Call.changeDir.inj h).2.2) (fun _ => rfl)
    (fun _ _ => rfl) fun _ _ => rfl
  currentDir _ := agree_prompting _ (fun _ _ h => (Call.currentDir.inj h).2) (fun _ => rfl)
    (fun _ _ => rfl) fun _ _ => rfl
  isExecutable _ _ := agree_prompting _ (fun _ _ h => (Call.isExecutable.inj h).2.2) (fun _ => rfl)
    (fun _ _ => rfl) fun _ _ => rfl
  create _ _ _ := agree_prompting _ (fun _ _ h => (Call.create.inj h).2.2.2) (fun _ => rfl)
    (fun _ _ => rfl) fun _ _ => rfl
  duplicate _ _ _ := agree_prompting _ (fun _ _ h => (Call.duplicate.inj h).2.2.2) (fun _ => rfl)
    (fun _ _ => rfl) fun _ _ => rfl
  close _ _ := agree_prompting _ (fun _ _ h => (Call.close.inj h).2.2) (fun _ => rfl)
    (fun _ _ => rfl) fun _ _ => rfl
  write process descriptor bytes :=
    agree_prompting (fun _ => .write process descriptor bytes) (fun _ _ _ => rfl)
      (fun _ => rfl) (fun _ _ => rfl) fun _ _ => rfl
  execute _ _ _ := agree_prompting _ (fun _ _ h => (Call.execute.inj h).2.2.2) (fun _ => rfl)
    (fun _ _ => rfl) fun _ _ => rfl
  fork := agree_prompting _ (fun _ _ h => Call.fork.inj h) (fun _ => rfl) (fun _ _ => rfl)
    fun _ _ => rfl
  wait _ := agree_prompting _ (fun _ _ h => (Call.wait.inj h).2) (fun _ => rfl) (fun _ _ => rfl)
    fun _ _ => rfl

/-- Both sessions read the same line, the first after a prompt. -/
theorem agree_prompting_ask {stream : InputStream} {sh : Shell Process}
    (hprompt : utf8 sh.config.prompt = prompt) (buffer : Bytes) :
    AgreeUnless (OffRecord record) (Prompting related sys other prompt record)
      (sh.ask sys.recorded true stream buffer) (sh.ask other.recorded false stream buffer) where
  stays state' h := h.of_append _ _
  agrees := by
    subst hprompt
    rintro ⟨world, now⟩ ⟨world', now'⟩ h hon
    obtain ⟨halike, calls, hcalls, hheedless⟩ := h.next (not_not.mp hon)
    obtain ⟨hrelated, hrecord, -⟩ := h
    obtain ⟨hunread, -, hafter⟩ := halike hrelated
    have hsource := Option.some.inj hunread
    have hwritten : (sh.prompt sys.recorded true).run (world, now) =
        ((), (((sys.write sh.env.process standardOutput (utf8 sh.config.prompt)).run world).2,
          now ++ [.write sh.env.process standardOutput (utf8 sh.config.prompt)])) := rfl
    have hsilent : (sh.prompt other.recorded false).run (world', now') = ((), (world', now')) := rfl
    rw [Shell.ask, Shell.ask, run_bind, run_bind, hwritten, hsilent, Shell.readLine_recorded,
      Shell.readLine_recorded]
    dsimp only [Call.afterPrompt] at hrecord hsource ⊢
    rw [hsource]
    refine ⟨rfl, hafter, ?_, calls, hcalls, hheedless⟩
    dsimp only
    rw [Record.prompted_append, ← hrecord, List.append_assoc]
    rfl

/-- **Side by side.** Both sessions take the same course, with a prompt in front of every read of
the first, if the calls of the second are answered alike. -/
theorem course_prompting {stream : InputStream} (bound : Nat) {sh : Shell Process}
    (hprompt : utf8 sh.config.prompt = prompt) (buffer : Bytes) {state : World × Record Process}
    {state' : World' × Record Process}
    (hstate : Prompting related sys other prompt record state state')
    (hon : ((sh.course other.recorded false stream bound buffer).run state').2.2 <+: record) :
    ((sh.course sys.recorded true stream bound buffer).run state).1.outline =
        ((sh.course other.recorded false stream bound buffer).run state').1.outline ∧
      Prompting related sys other prompt record
        ((sh.course sys.recorded true stream bound buffer).run state).2
        ((sh.course other.recorded false stream bound buffer).run state').2 :=
  Shell.course_agree similar_prompting
    (fun _ hlater buffer => agree_prompting_ask
      ((congrArg (fun config : Config => utf8 config.prompt) hlater).trans hprompt) buffer)
    bound rfl buffer hstate (not_not.mpr hon)

end Prompting

/-! ## What the modes differ in -/

/-- The same course has the same status in both modes, unless the input has ended and no command
was run. -/
theorem Course.code_ne_code_iff {course : Course World Process} {course' : Course World' Process}
    (h : course.outline = course'.outline) :
    course.code true ≠ course'.code false ↔
      course.ending = some .exhausted ∧ course.shell.commandsExecuted = 0 := by
  rw [← code_of_outline h, code, code]
  rcases course.ending with _ | cause | _ | cause | code
  · simp
  · simp
  · simp [Shell.endOfInput, exitSuccess, exitFailure]
  · simp
  · simp

theorem Course.code_of_exhausted {course : Course World Process}
    (hending : course.ending = some .exhausted) (hnone : course.shell.commandsExecuted = 0)
    (interactive : Bool) :
    course.code interactive = some (if interactive then exitSuccess else exitFailure) := by
  rw [code, hending]
  simp [Shell.endOfInput, hnone]

namespace Shell

/-- **Modes.** If the calls of a session without prompts are answered alike on a system to which
prompts are written, both modes go through the same lines with the same results and reports, and end
with the same shell for the same reason. In one there is a prompt in front of every read, and in the
other there is none. The status differs if the input has ended and no command was run, and in no
other case. -/
theorem modes_agree {related : World → World' → Prop} {sys : System World Process}
    {other : System World' Process} {stream : InputStream} {sh : Shell Process} {bound : Nat}
    {world : World} {world' : World'} {calls' : Record Process} (hworld : related world world')
    (hcalls : ((sh.runLines other.recorded false stream bound []).run (world', [])).2.2 = calls')
    (h : Heedless related sys other (utf8 sh.config.prompt) world world' calls') :
    ∃ course course' calls done done',
      (sh.course sys.recorded true stream bound []).run (world, []) = (course, (done, calls)) ∧
      (sh.course other.recorded false stream bound []).run (world', []) =
        (course', (done', calls')) ∧
      (sh.runLines sys true stream bound []).run world =
        ((course.code true, course.shell), done) ∧
      (sh.runLines other false stream bound []).run world' =
        ((course'.code false, course'.shell), done') ∧
      course.outline = course'.outline ∧ related done done' ∧
      calls = Record.prompted (utf8 sh.config.prompt) calls' ∧
      Record.prompts calls = course.asked ∧ Record.prompts calls' = 0 ∧
      Record.reports calls = Record.reports calls' ∧
      (course.code true ≠ course'.code false ↔
        course.ending = some .exhausted ∧ course.shell.commandsExecuted = 0) ∧
      (course.ending = some .exhausted → course.shell.commandsExecuted = 0 →
        course.code true = some exitSuccess ∧ course'.code false = some exitFailure) ∧
      ∀ left, Undisturbed sys left world calls →
        ((left world).tokenLists sh.config).length < bound → course.ending.isSome := by
  have hstart : Prompting related sys other (utf8 sh.config.prompt) calls'
    (world, ([] : Record Process)) (world', []) := ⟨hworld, rfl, calls', rfl, h⟩
  have hplain := (course_recorded sys true stream bound sh [] world []).1
  have hprompts := (course_courseRun sys.recorded true stream bound sh [] (world, [])).prompts_eq
  have hsilent := (course_courseRun other.recorded false stream bound sh [] (world', [])).prompts_eq
  rw [runLines_eq_course] at hcalls
  have hon : ((sh.course other.recorded false stream bound []).run (world', [])).2.2 <+: calls' :=
    hcalls ▸ List.prefix_refl calls'
  obtain ⟨houtline, hrelated, hrecord, -⟩ := course_prompting bound rfl [] hstart hon
  rcases hleft : (sh.course sys.recorded true stream bound []).run (world, []) with
    ⟨course, done, calls⟩
  rcases hright : (sh.course other.recorded false stream bound []).run (world', []) with
    ⟨course', done', noted⟩
  rw [hright] at hcalls
  obtain rfl : noted = calls' := hcalls
  rw [hleft] at hplain hprompts houtline hrelated hrecord
  rw [hright] at hsilent houtline hrelated hrecord
  refine ⟨course, course', calls, done, done', rfl, rfl, runLines_recorded hleft,
    runLines_recorded hright, houtline, hrelated, hrecord, ?_, hsilent, ?_,
    Course.code_ne_code_iff houtline, fun hending hnone => ?_, fun left hundisturbed hbound => ?_⟩
  · exact hprompts.trans (Nat.zero_add _)
  · have hreports := congrArg Record.reports hrecord
    rwa [Record.reports_prompted] at hreports
  · have hbatch : course'.code false = course.code false :=
      Course.code_of_outline houtline.symm false
    rw [hbatch, Course.code_of_exhausted hending hnone, Course.code_of_exhausted hending hnone]
    exact ⟨rfl, rfl⟩
  · rw [Source.length_tokenLists] at hbound
    have hrecord : ((sh.runLines sys.recorded true stream bound []).run (world, [])).2.2 =
        calls := by rw [runLines_eq_course, hleft]
    rw [← Course.ending_of_outline hplain]
    exact course_ends hrecord hundisturbed hbound

/-- The machines differ in nothing but what has been written to a stream. -/
def SameBut (stream : Nat) (m m' : Host.Machine) : Prop :=
  (m.collect stream).2 = (m'.collect stream).2

instance (stream : Nat) (m m' : Host.Machine) : Decidable (SameBut stream m m') :=
  inferInstanceAs (Decidable (_ = _))

/-- On a machine as it comes, and on one with something in its output already: a command that is not
found, with a blank line in front, and an input of blanks only. -/
theorem modes_agree_of_two :
    let start := Host.start [] (utf8 "\nnope\n")
    let sh := ((Shell.new Host.system start.process {}).run start.machine).1
    let prompt := utf8 sh.config.prompt
    let noted := start.machine.setNode start.output (.pipe (utf8 "before\n"))
    let blank := (Host.start [] (utf8 " ")).machine
    let calls' := ((sh.runLines Host.system.recorded false .standardInput 3 []).run
      (noted, [])).2.2
    let idle := ((sh.runLines Host.system.recorded false .standardInput 3 []).run
      (blank, [])).2.2
    SameBut start.output start.machine noted ∧ SameBut start.output blank blank ∧
      Heedless (SameBut start.output) Host.system Host.system prompt start.machine noted calls' ∧
      Heedless (SameBut start.output) Host.system Host.system prompt blank blank idle ∧
      (∃ calls, ((sh.course Host.system.recorded true .standardInput 3 []).run
          (start.machine, [])).2.2 = calls ∧
        Record.prompts calls = 3 ∧ Record.prompts calls' = 0 ∧
        Record.reports calls = 1 ∧ Record.reports calls' = 1) ∧
      ((sh.runLines Host.system true .standardInput 3 []).run blank).1.1 = some exitSuccess ∧
      ((sh.runLines Host.system false .standardInput 3 []).run blank).1.1 = some exitFailure := by
  intro start sh prompt noted blank calls' idle
  have hfacts : SameBut start.output start.machine noted ∧
      Heedless (SameBut start.output) Host.system Host.system prompt start.machine noted calls' ∧
      Heedless (SameBut start.output) Host.system Host.system prompt blank blank idle := by
    decide +kernel
  let take := fun m => (sh.course Host.system.recorded true .standardInput 3 []).run (m, [])
  have hcourses : (take start.machine).1.asked = 3 ∧
      Record.reports (take start.machine).2.2 = 1 ∧
      (take blank).1.ending = some .exhausted ∧ (take blank).1.shell.commandsExecuted = 0 := by
    decide +kernel
  have hsame : SameBut start.output blank blank := rfl
  have hcalls' : ((sh.runLines Host.system.recorded false .standardInput 3 []).run
    (noted, [])).2.2 = calls' := rfl
  have hidle : ((sh.runLines Host.system.recorded false .standardInput 3 []).run
    (blank, [])).2.2 = idle := rfl
  have hprompt : utf8 sh.config.prompt = prompt := rfl
  dsimp only [take] at hcourses
  clear_value calls' idle prompt sh noted blank
  obtain ⟨hnoted, hheedless, hheedless'⟩ := hfacts
  obtain ⟨hasked, hone, hended, hnone⟩ := hcourses
  refine ⟨hnoted, hsame, hheedless, hheedless', ?_, ?_⟩
  · rw [← hprompt] at hheedless
    obtain ⟨course, course', calls, done, done', hrun, hrun', -, -, -, -, -, hprompts, hsilent,
      hreports, -⟩ := modes_agree hnoted hcalls' hheedless
    rw [hrun] at hasked hone
    exact ⟨calls, congrArg (·.2.2) hrun, hprompts.trans hasked, hsilent, hone,
      hreports.symm.trans hone⟩
  · rw [← hprompt] at hheedless'
    obtain ⟨course, course', calls, done, done', hrun, -, hplain, hplain', -, -, -, -, -, -, -,
      hcodes, -⟩ := modes_agree hsame hidle hheedless'
    rw [hrun] at hended hnone
    obtain ⟨hzero, hone⟩ := hcodes hended hnone
    exact ⟨(congrArg (·.1.1) hplain).trans hzero, (congrArg (·.1.1) hplain').trans hone⟩

end Shell

end MiniShell
