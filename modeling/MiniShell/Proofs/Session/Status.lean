import MiniShell.Host.Layout
import MiniShell.Proofs.Session.Reading

/-!
# The exit status of a session

How a session ends is a matter of its input alone, as long as only the shell reads it and children
can be made. A line that is `exit` or `quit` ends it, a failed read ends it, and so does the end of
the input (`Content.ending`). No command has a say in it, whatever becomes of it.

`run_status` has the exit status and the number of commands, in terms of what a reader delivers.
Memory for the lines and their tokens is taken for granted, as in `Input.readLine` and
`Tokens.ofLine`.
-/

namespace MiniShell

variable {World Process : Type}

/-! ## The tokens of the input -/

/-- The tokens of each line that is read in front of the first failure. -/
def Source.tokenLists (config : Config) (source : Source) : List (List String) :=
  (Content.untilFailure ((Input.ofSource source).lines (lineLimit config.maxLineLength))).map
    fun line => (Tokens.ofLine line config.maxTokens).toList

/-- The tokens that end a session. -/
def dismissals : List (List String) := [["exit"], ["quit"]]

namespace Source

theorem tokenLists_eq (config : Config) (source : Source) :
    source.tokenLists config = (source.content.texts (lineLimit config.maxLineLength)).map
      fun line => (Tokens.ofLine line config.maxTokens).toList := by
  rw [tokenLists, Input.lines_eq (lineLimit_pos _), Content.texts_eq_untilFailure,
    Input.content_ofSource]

theorem length_tokenLists (config : Config) (source : Source) :
    (source.tokenLists config).length =
      (source.content.texts (lineLimit config.maxLineLength)).length := by
  rw [tokenLists_eq, List.length_map]

/-- The commands of the input are its lines up to the first that ends a session. -/
theorem map_commands (config : Config) (source : Source) :
    (source.content.commands config).map
        (fun line => (Tokens.ofLine line config.maxTokens).toList) =
      (source.tokenLists config).take
        ((source.tokenLists config).findIdx (· ∈ dismissals) + 1) := by
  rw [tokenLists_eq, List.findIdx_map, Content.commands, List.map_take]
  rfl

theorem ending_content (config : Config) (source : Source) :
    source.content.ending config =
      if ∃ tokens ∈ source.tokenLists config, tokens ∈ dismissals then .dismissed exitSuccess
      else
        match source.content.failure? with
        | some cause => .unreadable cause
        | none => .exhausted := by
  have hany : (source.content.texts (lineLimit config.maxLineLength)).any
        (Shell.endsSession config.maxTokens) = true ↔
      ∃ tokens ∈ source.tokenLists config, tokens ∈ dismissals := by
    rw [tokenLists_eq, List.any_eq_true]
    constructor
    · rintro ⟨line, hline, hends⟩
      exact ⟨_, List.mem_map_of_mem hline, of_decide_eq_true hends⟩
    · rintro ⟨tokens, htokens, hends⟩
      obtain ⟨line, hline, rfl⟩ := List.mem_map.mp htokens
      exact ⟨line, hline, decide_eq_true hends⟩
  rw [Content.ending]
  exact if_congr hany rfl rfl

end Source

/-! ## What a session counts -/

namespace Shell

section Tokens

variable {sys : System World Process} {left : World → Source} {interactive : Bool}
  {stream : InputStream} {bound : Nat} {sh : Shell Process} {world : World}
  {calls : Record Process} {lists : List (List String)}
  (hcalls : ((sh.runLines sys.recorded interactive stream bound []).run (world, [])).2.2 = calls)
  (hleft : Undisturbed sys left world calls) (hall : sh.builtins = Builtin.all)
  (hfork : ∀ errno, .fork (.error errno) ∉ calls)
  (hlists : (left world).tokenLists sh.config = lists) (hbound : lists.length < bound)

include hcalls hleft hall hfork hlists hbound

/-- Such a session has run all commands of its input, and ends as the input says. -/
theorem course_eq :
    let course := ((sh.course sys interactive stream bound []).run world).1
    course.executions.map Execution.line = (left world).content.commands sh.config ∧
      course.ending = some ((left world).content.ending sh.config) := by
  rw [← hlists, Source.length_tokenLists] at hbound
  have hlength : ((left world).content.commands sh.config).length < bound :=
    Nat.lt_of_le_of_lt (List.length_take_le' _ _) hbound
  obtain ⟨hlines, hending⟩ := course_commands hcalls hleft hall hfork
  rw [List.take_of_length_le (Nat.le_of_lt hlength)] at hlines
  exact ⟨hlines, hending hlength⟩

/-- What such a session has run, and what it has counted. -/
theorem course_tokens :
    let course := ((sh.course sys interactive stream bound []).run world).1
    course.executions.map
        (fun execution => (Tokens.ofLine execution.line sh.config.maxTokens).toList) =
          lists.take (lists.findIdx (· ∈ dismissals) + 1) ∧
      course.shell.commandsExecuted = sh.commandsExecuted +
        (lists.take (lists.findIdx (· ∈ dismissals) + 1)).countP (· ≠ []) := by
  have hlines := (course_eq hcalls hleft hall hfork hlists hbound).1
  have hran := Source.map_commands sh.config (left world)
  have hcount := (course_courseRun sys interactive stream bound sh [] world).commandsExecuted_eq
  rw [← hlines, hlists] at hran
  rw [← hran]
  constructor
  · rw [List.map_map]
    rfl
  · rw [hcount, List.countP_map, List.countP_map, List.countP_map]
    rfl

/-- The status of such a session. -/
theorem course_code :
    let course := ((sh.course sys interactive stream bound []).run world).1
    course.code interactive = some (
      if ∃ tokens ∈ lists, tokens ∈ dismissals then exitSuccess
      else if (left world).content.failure?.isSome then exitFailure
      else course.shell.endOfInput interactive) := by
  have hending := (course_eq hcalls hleft hall hfork hlists hbound).2
  rw [Source.ending_content, hlists] at hending
  dsimp only
  rw [Course.code, hending]
  split
  · rfl
  · cases (left world).content.failure? <;> rfl

end Tokens

theorem endOfInput_cases (sh : Shell Process) (interactive : Bool) :
    sh.endOfInput interactive = exitSuccess ∨ sh.endOfInput interactive = exitFailure := by
  unfold endOfInput
  split
  · exact .inl rfl
  · exact .inr rfl

theorem endOfInput_eq_exitSuccess (sh : Shell Process) (interactive : Bool) :
    sh.endOfInput interactive = exitSuccess ↔ interactive = true ∨ 0 < sh.commandsExecuted := by
  unfold endOfInput
  split
  · rename_i h
    rw [Bool.or_eq_true, decide_eq_true_eq] at h
    exact iff_of_true rfl h
  · rename_i h
    rw [Bool.or_eq_true, decide_eq_true_eq] at h
    exact iff_of_false (by decide) h

/-- **The status of a session.** As long as only the shell reads its input and children can be made,
the status of a new shell and the number of commands it has run are a matter of the tokens of its
lines. If the first dismissal among them is reached, the status is 0. If a read fails before, it is
1, and at the end of the input it is 0, unless a batch file had no commands. No line but a dismissal
ends a session, whatever becomes of it. -/
theorem run_status {sys : System World Process} {process : Process} {config : Config}
    {created : World} {sh : Shell Process}
    (hnew : ((Shell.new sys process config).run created).1 = sh) (world : World) (mode : Mode) :
    (∀ cause opened, (mode.stream sys sh.env.process).run world = (.error cause, opened) →
      ∀ bound, ((sh.run sys bound mode).run world).1 = (some exitFailure, sh) ∧
        sh.commandsExecuted = 0) ∧
    ∀ stream opened left, (mode.stream sys sh.env.process).run world = (.ok stream, opened) →
      let lists := (left opened).tokenLists config
      ∀ bound calls, lists.length < bound →
        ((sh.runLines sys.recorded mode.isInteractive stream bound []).run (opened, [])).2.2 =
          calls →
        (∀ errno, .fork (.error errno) ∉ calls) → Undisturbed sys left opened calls →
        ∃ code sh', ((sh.run sys bound mode).run world).1 = (some code, sh') ∧
          (code = exitSuccess ∨ code = exitFailure) ∧
          ((sh.session sys bound mode).run world).1.executions.map
              (fun execution => (Tokens.ofLine execution.line config.maxTokens).toList) =
            lists.take (lists.findIdx (· ∈ dismissals) + 1) ∧
          ((∃ tokens ∈ lists, tokens ∈ dismissals) → code = exitSuccess ∧
            sh'.commandsExecuted =
              (lists.take (lists.findIdx (· ∈ dismissals) + 1)).countP (· ≠ [])) ∧
          ((∀ tokens ∈ lists, tokens ∉ dismissals) →
            sh'.commandsExecuted = lists.countP (· ≠ []) ∧
            ((∃ cause, .failed cause ∈ left opened) → code = exitFailure) ∧
            ((∀ cause, .failed cause ∉ left opened) →
              (code = exitSuccess ↔
                mode.isInteractive = true ∨ ∃ tokens ∈ lists, tokens ≠ []))) := by
  constructor
  · intro cause opened hopen bound
    rw [run_eq_session, session_of_error hopen]
    exact ⟨rfl, hnew ▸ rfl⟩
  intro stream opened left hopen lists bound calls hbound hcalls hfork hleft
  obtain ⟨hconfig, hall, hzero⟩ : sh.config = config ∧ sh.builtins = Builtin.all ∧
      sh.commandsExecuted = 0 := hnew ▸ ⟨rfl, rfl, rfl⟩
  have hlists : (left opened).tokenLists sh.config = lists := by rw [hconfig]
  obtain ⟨hran, hcount⟩ := course_tokens hcalls hleft hall hfork hlists hbound
  have hcode := course_code hcalls hleft hall hfork hlists hbound
  rw [hconfig] at hran
  rw [hzero, Nat.zero_add] at hcount
  rw [run_eq_session, session_of_ok hopen]
  refine ⟨_, _, congrArg (·, _) hcode, ?_, hran, fun hexit => ⟨if_pos hexit, hcount⟩,
    fun hnone => ?_⟩
  · split
    · exact .inl rfl
    · split
      · exact .inr rfl
      · exact endOfInput_cases _ _
  · have hexit : ¬ ∃ tokens ∈ lists, tokens ∈ dismissals :=
      fun ⟨tokens, htokens, hends⟩ => hnone tokens htokens hends
    have hall : lists.take (lists.findIdx (· ∈ dismissals) + 1) = lists := by
      refine List.take_of_length_le (Nat.le_succ_of_le (Nat.le_of_eq ?_))
      rw [eq_comm, List.findIdx_eq_length]
      exact fun tokens htokens => decide_eq_false (hnone tokens htokens)
    rw [hall] at hcount
    rw [if_neg hexit]
    refine ⟨hcount, fun hfailed => ?_, fun hfailed => ?_⟩
    · rw [if_pos (Source.failure?_content _ |>.mpr hfailed)]
    · have hfailure : ¬ (left opened).content.failure?.isSome = true := fun h => by
        obtain ⟨cause, hcause⟩ := (Source.failure?_content _).mp h
        exact hfailed cause hcause
      rw [if_neg hfailure, endOfInput_eq_exitSuccess, hcount, List.countP_pos_iff]
      simp only [decide_eq_true_eq]

/-- On a machine as it comes: a batch file that is not there, and one with a line of which the first
word is all that is kept. And on a system where reads fail: a read that fails before any command. -/
theorem run_status_of_three :
    let config : Config := { maxTokens := 1 }
    (let start := Host.start [(utf8 "script", .file 0o644 (utf8 "nope\n\nexit now\nls\n"))] []
      let sh := ((Shell.new Host.system start.process config).run start.machine).1
      let missing := Mode.batch (utf8 "missing")
      let script := Mode.batch (utf8 "script")
      let stream := InputStream.file 3
      let opened := ((script.stream Host.system sh.env.process).run start.machine).2
      let left := fun machine => ((Host.system.unread start.process stream).run machine).1
      let calls := ((sh.runLines Host.system.recorded false stream 5 []).run (opened, [])).2.2
      ((missing.stream Host.system sh.env.process).run start.machine).1 =
          .error (.system .noEntry) ∧
        ((script.stream Host.system sh.env.process).run start.machine).1 = .ok stream ∧
        (left opened).tokenLists config = [["nope"], [], ["exit"], ["ls"]] ∧
        (∀ errno, .fork (.error errno) ∉ calls) ∧ Undisturbed Host.system left opened calls ∧
        ((sh.run Host.system 5 missing).run start.machine).1.1 = some exitFailure ∧
        ∃ sh', ((sh.run Host.system 5 script).run start.machine).1 = (some exitSuccess, sh') ∧
          sh'.commandsExecuted = 2) ∧
    let sh := ((Shell.new quiet () config).run []).1
    let lost : Source := [.block (utf8 " \nls"), .failed (.other "lost")]
    let calls := ((sh.runLines quiet.recorded true .standardInput 5 []).run (lost, [])).2.2
    lost.tokenLists config = [[]] ∧
      (∀ errno, .fork (.error errno) ∉ calls) ∧ Undisturbed quiet id lost calls ∧
      ∃ sh', ((sh.run quiet 5 .interactive).run lost).1 = (some exitFailure, sh') ∧
        sh'.commandsExecuted = 0 := by
  intro config
  refine ⟨?_, ?_⟩
  · intro start sh missing script stream opened left calls
    have hlists : (left opened).tokenLists config = [["nope"], [], ["exit"], ["ls"]] := by
      rw [Source.tokenLists_eq]
      decide +kernel
    have hfacts :
        ((missing.stream Host.system sh.env.process).run start.machine).1 =
          .error (.system .noEntry) ∧
        ((script.stream Host.system sh.env.process).run start.machine).1 = .ok stream ∧
        (∀ call ∈ calls, call.isGranted = true) ∧ Undisturbed Host.system left opened calls := by
      decide +kernel
    have hbound : ((left opened).tokenLists config).length < 5 := by
      rw [hlists]
      decide
    have hnew : ((Shell.new Host.system start.process config).run start.machine).1 = sh := rfl
    have hrecord : ((sh.runLines Host.system.recorded false stream 5 []).run
      (opened, [])).2.2 = calls := rfl
    have hopened : ((script.stream Host.system sh.env.process).run start.machine).2 = opened := rfl
    obtain ⟨closed, hclosed⟩ : ∃ closed,
      ((missing.stream Host.system sh.env.process).run start.machine).2 = closed := ⟨_, rfl⟩
    -- What the machine does is settled. From here on it must not be evaluated again.
    clear_value calls opened sh
    obtain ⟨hmissing, hscript, hgranted, hleft⟩ := hfacts
    have hfork := Record.not_mem_fork_error hgranted
    obtain ⟨code, sh', hrun, -, -, hexit, -⟩ :=
      (run_status hnew start.machine script).2 stream opened left (Prod.ext hscript hopened) 5 calls
        hbound hrecord hfork hleft
    rw [hlists] at hexit
    obtain ⟨rfl, hcount⟩ := hexit (by decide)
    have hunopened :=
      (run_status hnew start.machine missing).1 _ _ (Prod.ext hmissing hclosed) 5
    exact ⟨hmissing, hscript, hlists, hfork, hleft, congrArg Prod.fst hunopened.1, sh', hrun,
      hcount⟩
  · intro sh lost calls
    have hlists : lost.tokenLists config = [[]] := by
      rw [Source.tokenLists_eq]
      decide
    have hcalls : ∀ call ∈ calls, call.isGranted = true := by decide +kernel
    have hopen : (Mode.interactive.stream quiet ()).run lost = (.ok .standardInput, lost) := rfl
    have hbound : ((id lost).tokenLists config).length < 5 := by
      rw [id, hlists]
      decide
    have hrecord : ((sh.runLines quiet.recorded true .standardInput 5 []).run
      (lost, [])).2.2 = calls := rfl
    have hnew : ((Shell.new quiet () config).run []).1 = sh := rfl
    clear_value calls sh
    have hfork := Record.not_mem_fork_error hcalls
    have hleft := undisturbed_quiet lost calls
    obtain ⟨code, sh', hrun, -, -, -, hnone⟩ :=
      (run_status hnew lost .interactive).2 _ _ id hopen 5 calls hbound hrecord hfork hleft
    rw [id, hlists] at hnone
    obtain ⟨hcount, hfailed, -⟩ := hnone (by decide)
    obtain rfl := hfailed ⟨.other "lost", by decide⟩
    exact ⟨hlists, hfork, hleft, sh', hrun, hcount⟩

end Shell

end MiniShell
