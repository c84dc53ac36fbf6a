import MiniShell.Proofs.Session.Reports
import MiniShell.Proofs.Text.Encoding
import Mathlib.Data.List.Infix
import Mathlib.Data.List.TakeWhile

/-!
# What programs are given

Every program that a session executes is given arguments that come from one line. Each stage on
the way adds its part, and `IsArguments` has them together: the reader bounds the line, cutting it
leaves words without separators, the built-ins keep their names for themselves, the command ends in
front of the operator, and words with a NUL byte are refused.

1. `LineRun.isArguments`: one line that is run keeps to it.
2. `CourseRun.executed_eq` and `CourseRun.isArguments`: so do all lines of a session, and nothing
   else is executed.
-/

namespace MiniShell

variable {World Process : Type}

/-! ## Lines -/

/-- The line is what a reader reads first of the input. -/
def Delivered (maxLength : Nat) (input : Input) (line : String) : Prop :=
  (input.readLine (lineLimit maxLength)).1 = .ok (some line)

/-- A line is the text of the bytes that were kept of it. -/
theorem Delivered.exists_kept {maxLength : Nat} {input : Input} {line : String}
    (hread : Delivered maxLength input line) :
    ∃ kept : Bytes, kept.length ≤ max 1 (maxLength - 1) ∧ line = decodeLossy kept := by
  unfold Delivered at hread
  have hlimit := lineLimit_pos maxLength
  have hkept : ∀ bytes : Bytes, (bytes.take (lineLimit maxLength)).length ≤
      max 1 (maxLength - 1) := fun bytes => List.length_take_le _ bytes
  obtain ⟨body, rest, hbody, h⟩ | ⟨tail, cause, rest, htail, h⟩ | ⟨tail, htail, h⟩ :=
    input.content.cases_line
  · rw [(Input.readLine_line hlimit hbody h).1] at hread
    cases hread
    exact ⟨_, hkept _, rfl⟩
  · rw [(Input.readLine_failed hlimit htail h).1] at hread
    cases hread
  · by_cases hne : tail = []
    · rw [(Input.readLine_nil (h.trans (by rw [hne]; rfl))).1] at hread
      cases hread
    · rw [(Input.readLine_tail hlimit htail hne h).1] at hread
      cases hread
      exact ⟨_, hkept _, rfl⟩

theorem Delivered.length_utf8_le {maxLength : Nat} {input : Input} {line : String}
    (h : Delivered maxLength input line) :
    (utf8 line).length ≤ 3 * max 1 (maxLength - 1) := by
  obtain ⟨kept, hlength, rfl⟩ := h.exists_kept
  have htext := length_utf8_decodeLossy_le kept
  omega

/-- A line that is run has been delivered. -/
theorem Execution.Runs.delivered {sys : System World Process} {interactive : Bool}
    {stream : InputStream} {buffer buffer' : Bytes} {world : World}
    {execution : Execution World Process}
    (h : execution.Runs sys interactive stream buffer world buffer') :
    Delivered execution.shell.config.maxLineLength execution.input execution.line := by
  have hask := h.asked
  rw [Shell.ask, run_bind, Shell.readLine, run_bind] at hask
  rw [Delivered, h.input]
  exact congrArg (·.1.1) hask

/-! ## Arguments -/

/-- The arguments are those of a program that a shell with the settings `config` executes for the
line. -/
structure IsArguments (config : Config) (line : String) (arguments : List Bytes) : Prop where
  count : 1 ≤ arguments.length ∧ arguments.length ≤ config.maxTokens
  words : ∀ argument ∈ arguments, argument ≠ [] ∧
    ∀ b ∈ argument, b ≠ 0x20 ∧ b ≠ 0x09 ∧ b ≠ 0x0A ∧ b ≠ 0x00
  name : ∀ name ∈ ["exit", "quit", "cd"], arguments.head? ≠ some (utf8 name)
  plain : utf8 ">" ∉ arguments.tail
  first : arguments <+: (MiniShell.words line).map utf8
  all : ">" ∉ ((MiniShell.words line).take config.maxTokens).tail →
    arguments = ((MiniShell.words line).take config.maxTokens).map utf8
  size : arguments.flatten.length ≤ 3 * max 1 (config.maxLineLength - 1)

namespace Tokens

theorem command_isPrefix (t : Tokens) : t.command <+: t.toList := by
  obtain ⟨rest, hrest⟩ := List.takeWhile_prefix isPlain (l := t.arguments)
  refine ⟨rest, ?_⟩
  rw [command, List.append_assoc, hrest]
  exact List.take_append_drop 1 t.toList

theorem command_of_cons {t : Tokens} {name : String} {arguments : List String}
    (h : t.toList = name :: arguments) : t.command = name :: arguments.takeWhile isPlain := by
  rw [command, Tokens.arguments, h]
  rfl

/-- The words of a command are the first of its line. -/
theorem command_ofLine_isPrefix (line : String) (capacity : Nat) :
    (Tokens.ofLine line capacity).command <+: words line := by
  refine (Tokens.ofLine line capacity).command_isPrefix.trans ?_
  rw [Tokens.toList_ofLine]
  exact List.take_prefix _ _

/-- Behind its name a command has no operator. -/
theorem operator_not_mem_command {t : Tokens} {name : String} {arguments : List String}
    (h : t.toList = name :: arguments) : redirectOperator ∉ t.command.tail := by
  rw [command_of_cons h, List.tail_cons]
  intro hmem
  have hplain : isPlain redirectOperator = true := List.mem_takeWhile_imp hmem
  exact absurd hplain (by decide)

end Tokens

/-- A word without a NUL byte goes to the system without a separator and without a NUL byte. -/
theorem utf8_of_mem_words {line word : String} (h : word ∈ words line)
    (hnul : hasNul (utf8 word) = false) :
    utf8 word ≠ [] ∧ ∀ b ∈ utf8 word, b ≠ 0x20 ∧ b ≠ 0x09 ∧ b ≠ 0x0A ∧ b ≠ 0x00 := by
  have htoken := isToken_of_mem_words h
  have hword := (isToken_iff.1 htoken).not_separator
  refine ⟨mt utf8_eq_nil_iff.1 htoken.ne_empty, fun b hb => ?_⟩
  have hplain : ∀ a ∈ separatorBytes, b ≠ a := by
    rintro a ha rfl
    have hsep : isSeparatorByte b = true := List.contains_iff_mem.2 ha
    have hmem := ofNat_mem_of_mem_utf8 hb (toNat_le_of_isSeparatorByte hsep)
    have hchar := isSeparator_ofNat hsep
    rw [hword _ hmem] at hchar
    cases hchar
  have hzero : b ≠ 0x00 := by
    rintro rfl
    rw [hasNul, List.contains_iff_mem.2 hb] at hnul
    cases hnul
  exact ⟨hplain _ (by decide), hplain _ (by decide), hplain _ (by decide), hzero⟩

/-- What is no built-in of the default table has none of their names. -/
theorem utf8_ne_of_not_builtin {name taken : String}
    (hname : ∀ builtin ∈ Builtin.all, builtin.name ≠ name)
    (htaken : taken ∈ ["exit", "quit", "cd"]) :
    utf8 name ≠ utf8 taken := by
  have hnames : ["exit", "quit", "cd"] = Builtin.all.map Builtin.name := rfl
  rw [hnames] at htaken
  obtain ⟨builtin, hmem, rfl⟩ := List.mem_map.1 htaken
  exact fun heq => hname builtin hmem (utf8_injective heq).symm

/-- The command of a delivered line makes good arguments, unless it is a built-in or holds a NUL
byte. -/
theorem isArguments_command {config : Config} {input : Input} {line name : String}
    {arguments : List String} (hdelivered : Delivered config.maxLineLength input line)
    (htokens : (Tokens.ofLine line config.maxTokens).toList = name :: arguments)
    (hname : ∀ builtin ∈ Builtin.all, builtin.name ≠ name)
    (hnul : ∀ token ∈ (Tokens.ofLine line config.maxTokens).command, hasNul (utf8 token) = false) :
    IsArguments config line ((Tokens.ofLine line config.maxTokens).command.map utf8) where
  count := by
    have hlength := (Tokens.ofLine line config.maxTokens).command_isPrefix.length_le
    rw [Tokens.toList_ofLine, List.length_take] at hlength
    rw [List.length_map]
    refine ⟨?_, by omega⟩
    rw [Tokens.command_of_cons htokens, List.length_cons]
    omega
  words := by
    intro argument hargument
    obtain ⟨token, htoken, rfl⟩ := List.mem_map.1 hargument
    have hword := (Tokens.command_ofLine_isPrefix line config.maxTokens).subset htoken
    exact utf8_of_mem_words hword (hnul token htoken)
  name := by
    intro taken htaken heq
    rw [Tokens.command_of_cons htokens, List.map_cons, List.head?_cons, Option.some.injEq] at heq
    exact utf8_ne_of_not_builtin hname htaken heq
  plain := by
    rw [← List.map_tail]
    intro hmem
    obtain ⟨token, htoken, heq⟩ := List.mem_map.1 hmem
    obtain rfl : token = redirectOperator := utf8_injective heq
    exact Tokens.operator_not_mem_command htokens htoken
  first := (Tokens.command_ofLine_isPrefix line config.maxTokens).map utf8
  all := by
    intro hnone
    rw [← Tokens.toList_ofLine, ← List.drop_one] at hnone
    rw [Tokens.command_of_not_mem hnone, Tokens.toList_ofLine]
  size := by
    have hfirst := Tokens.command_ofLine_isPrefix line config.maxTokens
    calc ((Tokens.ofLine line config.maxTokens).command.map utf8).flatten.length
      _ = ((Tokens.ofLine line config.maxTokens).command.flatMap utf8).length := by
        rw [List.flatMap_def]
      _ ≤ ((words line).flatMap utf8).length := (hfirst.flatMap utf8).length_le
      _ ≤ (utf8 line).length := length_flatMap_words_le line
      _ ≤ 3 * max 1 (config.maxLineLength - 1) := hdelivered.length_utf8_le

/-! ## What a line executes -/

section Executed

variable {search : SearchPath} {process : Process} {t : Tokens} {calls : Record Process}

/-- Nothing is executed with an argument that holds a NUL byte. -/
theorem Unstarted.executed_nul {command : List String}
    (h : Unstarted search process command calls) :
    Record.executed calls = [] ∨ ∀ token ∈ command, hasNul (utf8 token) = false := by
  cases h with
  | missing hlookup => exact .inl hlookup.inert.2.2.1
  | nul hlookup _ => exact .inl hlookup.inert.2.2.1
  | refused _ hnul _ => exact .inr hnul

theorem ChildRun.executed_nul {fate : Fate} {status : Status}
    (h : ChildRun search process t fate calls status) :
    Record.executed calls = [] ∨ ∀ token ∈ t.command, hasNul (utf8 token) = false := by
  cases h with
  | malformed _ => exact .inl rfl
  | unopened _ hopening =>
    rw [Record.executed_append, hopening.seen.2.1]
    exact .inl rfl
  | unpointed _ hopening =>
    rw [Record.executed_append, hopening.seen.2.2.1]
    exact .inl rfl
  | unstarted hopening hstarting =>
    rw [Record.executed_append, Record.executed_append, hopening.seen.2.2.1,
      Record.executed_report, List.nil_append, List.append_nil]
    exact hstarting.executed_nul
  | ran _ hstarting =>
    cases hstarting with
    | found _ hnul _ => exact .inr hnul

/-- A child executes its command or nothing. -/
theorem LaunchRun.executed {result : Except Failure Status}
    (h : LaunchRun search process t calls result) :
    ∀ run ∈ Record.executed calls, run.2.2 = t.command.map utf8 ∧
      ∀ token ∈ t.command, hasNul (utf8 token) = false := by
  cases h with
  | unforked errno => exact List.forall_mem_nil _
  | @forked fate calls status hchild ended =>
    have hcalls : Record.executed (.fork (.ok ()) :: (calls ++ [.wait status ended])) =
        Record.executed calls := (Record.executed_append calls _).trans (List.append_nil _)
    rw [hcalls]
    intro run hrun
    refine ⟨(hchild.obeys.runs run hrun).1, ?_⟩
    rcases hchild.executed_nul with hnone | hnul
    · rw [hnone] at hrun
      cases hrun
    · exact hnul

theorem PerformRun.executed_eq_nil {env : Environment Process} {builtin : Builtin}
    {arguments : List String} {answer : Except Failure Control × Environment Process}
    (h : PerformRun env builtin arguments calls answer) : Record.executed calls = [] := by
  cases h with
  | ended _ | misused _ => rfl
  | moved hmove | unmoved hmove => cases hmove <;> rfl

/-- **One line.** What a line executes is given good arguments. -/
theorem LineRun.isArguments {sh : Shell Process} {input : Input} {line : String}
    {answer : Except Failure Outcome × Shell Process} (h : LineRun sh line calls answer)
    (hall : sh.builtins = Builtin.all) (hdelivered : Delivered sh.config.maxLineLength input line) :
    ∀ run ∈ Record.executed calls, IsArguments sh.config line run.2.2 := by
  cases h with
  | blank _ => exact List.forall_mem_nil _
  | builtin _ _ hperform =>
    rw [hperform.executed_eq_nil]
    exact List.forall_mem_nil _
  | launched hname htokens hlaunch =>
    intro run hrun
    obtain ⟨harguments, hnul⟩ := hlaunch.executed run hrun
    rw [harguments]
    rw [hall] at hname
    exact isArguments_command hdelivered htokens hname hnul

end Executed

/-! ## What a session executes -/

theorem executed_reportOf (answer : Except Failure Outcome × Shell Process) :
    Record.executed (Shell.reportOf answer) = [] := by
  rcases answer with ⟨_ | _, _⟩ <;> rfl

theorem Shell.executed_asking (sh : Shell Process) (interactive : Bool) (stream : InputStream)
    (reads : Nat) : Record.executed (sh.asking interactive stream reads) = [] := by
  cases interactive <;> rfl

/-- What comes to the record with a line is what the line executes, with good arguments. -/
theorem Execution.Runs.executed {sys : System World Process} {interactive : Bool}
    {stream : InputStream} {buffer buffer' : Bytes} {state : World × Record Process}
    {execution : Execution (World × Record Process) Process}
    (h : execution.Runs sys.recorded interactive stream buffer state buffer')
    (hall : execution.shell.builtins = Builtin.all) :
    execution.after.2 = execution.before.2 ++ execution.calls ∧
      execution.next.builtins = Builtin.all ∧
      execution.next.config = execution.shell.config ∧
      ∀ run ∈ Record.executed execution.calls,
        IsArguments execution.shell.config execution.line run.2.2 := by
  obtain ⟨calls, hline, -, hcalls, hdone⟩ := h.exists_calls
  refine ⟨hdone, h.frame.2.1.trans hall, h.frame.1, ?_⟩
  rw [hcalls, Record.executed_append, executed_reportOf, List.append_nil]
  exact hline.isArguments hall h.delivered

namespace CourseRun

variable {sys : System World Process} {interactive : Bool} {stream : InputStream}
  {sh : Shell Process} {buffer : Bytes} {state state' : World × Record Process}
  {course : Course (World × Record Process) Process}

/-- From turn to turn, what is executed is executed by a line, which has been delivered and gives
good arguments. -/
theorem isArguments
    (h : CourseRun sys.recorded interactive stream sh buffer state course state')
    (hall : sh.builtins = Builtin.all) :
    Record.executed state'.2 = Record.executed state.2 ++
        course.executions.flatMap (fun execution => Record.executed execution.calls) ∧
      ∀ execution ∈ course.executions,
        Delivered sh.config.maxLineLength execution.input execution.line ∧
        ∀ run ∈ Record.executed execution.calls,
          IsArguments sh.config execution.line run.2.2 := by
  induction h with
  | cut _ _ _ => exact ⟨(List.append_nil _).symm, List.forall_mem_nil _⟩
  | unreadable hask =>
    obtain ⟨reads, hasked⟩ := Shell.exists_asking hask
    refine ⟨?_, List.forall_mem_nil _⟩
    rw [reportError_recorded, hasked, Record.executed_append, Record.executed_append,
      Shell.executed_asking, List.append_nil]
    rfl
  | exhausted hask =>
    obtain ⟨reads, hasked⟩ := Shell.exists_asking hask
    refine ⟨?_, List.forall_mem_nil _⟩
    rw [hasked, Record.executed_append, Shell.executed_asking]
    rfl
  | dismissed hruns _ =>
    obtain ⟨reads, hasked⟩ := Shell.exists_asking hruns.asked
    obtain ⟨hdone, -, -, harguments⟩ := hruns.executed hall
    refine ⟨?_, List.forall_mem_singleton.2 ⟨hruns.delivered, harguments⟩⟩
    rw [hdone, hasked, Record.executed_append, Record.executed_append, Shell.executed_asking,
      List.append_nil, List.flatMap_singleton]
  | next hruns _ _ ih =>
    obtain ⟨reads, hasked⟩ := Shell.exists_asking hruns.asked
    obtain ⟨hdone, hbuiltins, hconfig, harguments⟩ := hruns.executed hall
    obtain ⟨htotal, hrest⟩ := ih hbuiltins
    rw [hconfig] at hrest
    refine ⟨?_, List.forall_mem_cons.2 ⟨⟨hruns.delivered, harguments⟩, hrest⟩⟩
    rw [htotal, hdone, hasked, Record.executed_append, Record.executed_append,
      Shell.executed_asking, List.append_nil, List.flatMap_cons, List.append_assoc]

end CourseRun

/-- Nothing is executed to open the input of a session. -/
theorem Mode.stream_executes (sys : System World Process) (process : Process) (mode : Mode) :
    Makes (mode.stream sys.recorded process) fun calls _ => Record.executed calls = [] := by
  cases mode with
  | interactive => exact .pure rfl
  | batch path =>
    refine (askAbout_makes path _ _).mono fun calls answer h => ?_
    obtain ⟨-, rfl, -⟩ | ⟨-, given, rfl, -⟩ := h <;> rfl

/-- **Arguments.** All that a session executes, in any mode and for any input, is executed by one
of its lines, which was read from what was unread in its turn, and is given arguments that come from
this line. -/
theorem Shell.session_arguments {sys : System World Process} {process : Process} {config : Config}
    {bound : Nat} {mode : Mode} {world ready done : World} {sh : Shell Process}
    {course : Course (World × Record Process) Process} {calls : Record Process}
    (hnew : (Shell.new sys process config).run world = (sh, ready))
    (hrun : (sh.session sys.recorded bound mode).run (ready, []) = (course, (done, calls))) :
    (sh.run sys bound mode).run ready =
        ((course.code mode.isInteractive, course.shell), done) ∧
      Record.executed calls =
        course.executions.flatMap (fun execution => Record.executed execution.calls) ∧
      ∀ execution ∈ course.executions,
        (∃ stream buffer before buffer',
          execution.Runs sys.recorded mode.isInteractive stream buffer before buffer') ∧
        Delivered config.maxLineLength execution.input execution.line ∧
        ∀ run ∈ Record.executed execution.calls, IsArguments config execution.line run.2.2 := by
  have hall : sh.builtins = Builtin.all := (congrArg (·.1.builtins) hnew).symm
  have hconfig : sh.config = config := (congrArg (·.1.config) hnew).symm
  refine ⟨run_recorded hrun, ?_⟩
  obtain ⟨opening, answer, opened, hopen, hnothing⟩ :=
    mode.stream_executes sys sh.env.process ready []
  rw [List.nil_append] at hopen
  cases answer with
  | error cause =>
    rw [session_of_error hopen] at hrun
    have hcalls : opening ++ [.report sh.env.process] = calls := congrArg (·.2.2) hrun
    have hcourse : ⟨[], some (.unopened cause), sh⟩ = course := congrArg (·.1) hrun
    rw [← hcourse, ← hcalls, Record.executed_append, hnothing]
    exact ⟨rfl, List.forall_mem_nil _⟩
  | ok stream =>
    rw [session_of_ok hopen] at hrun
    have hcourse := course_courseRun sys.recorded mode.isInteractive stream bound sh []
      (opened, opening)
    rw [hrun] at hcourse
    obtain ⟨htotal, harguments⟩ := hcourse.isArguments hall
    rw [hnothing, List.nil_append] at htotal
    rw [hconfig] at harguments
    exact ⟨htotal, fun execution hmem =>
      ⟨⟨stream, hcourse.runs execution hmem⟩, harguments execution hmem⟩⟩

/-- A byte that is no character comes back as three, and what is behind the operator is no
argument. -/
theorem Shell.session_arguments_of_echo :
    let host := Host.start [] [0x65, 0x63, 0x68, 0x6F, 0x20, 0xFF, 0x20, 0x3E, 0x20, 0x66, 0x0A]
    ∃ sh ready course done calls,
      (Shell.new Host.system host.process {}).run host.machine = (sh, ready) ∧
      (sh.session Host.system.recorded 5 .interactive).run (ready, []) = (course, (done, calls)) ∧
      ∃ execution ∈ course.executions, ∃ run ∈ Record.executed execution.calls,
        run.2.2 = [[0x65, 0x63, 0x68, 0x6F], [0xEF, 0xBF, 0xBD]] ∧
          IsArguments {} execution.line run.2.2 := by
  intro host
  have hgiven : let start := (Shell.new Host.system host.process {}).run host.machine
      let ran := (start.1.session Host.system.recorded 5 .interactive).run (start.2, [])
      ∃ execution ∈ ran.1.executions, ∃ run ∈ Record.executed execution.calls,
        run.2.2 = [[0x65, 0x63, 0x68, 0x6F], [0xEF, 0xBF, 0xBD]] := by
    decide +kernel
  rcases hnew : (Shell.new Host.system host.process {}).run host.machine with ⟨sh, ready⟩
  rw [hnew] at hgiven
  rcases hran : (sh.session Host.system.recorded 5 .interactive).run (ready, []) with
    ⟨course, done, calls⟩
  dsimp only at hgiven
  rw [hran] at hgiven
  obtain ⟨execution, hexecution, run, hrun, harguments⟩ := hgiven
  obtain ⟨-, -, hall⟩ := session_arguments hnew hran
  exact ⟨sh, ready, course, done, calls, rfl, hran, execution, hexecution, run, hrun, harguments,
    (hall execution hexecution).2.2 run hrun⟩

end MiniShell
