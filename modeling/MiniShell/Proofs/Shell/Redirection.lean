import MiniShell.Proofs.Child.Launch
import MiniShell.Proofs.Shell.Line
import MiniShell.Proofs.System.Descriptors
import MiniShell.Proofs.System.Undisturbed

/-!
# Lines with a redirection

A line may have more words than the shell keeps, and the words that are lost are lost before the
redirection is looked at. So a line is judged by the words that are kept: an operator that is lost
redirects nothing, and of the words after an operator that is kept, exactly one must be kept too
(`executeLine_redirection`).

`lost_word_excused` is a line whose second word after the operator is lost. It is malformed as a
whole and well-formed as far as it is kept, and it is run.
-/

namespace MiniShell

variable {World Process : Type}

namespace Shell

/-- A line that is no built-in is launched, whatever its redirection. -/
theorem executeLine_makes (sys : System World Process) {sh : Shell Process} {line name : String}
    {arguments : List String} (h : (sh.tokens line).toList = name :: arguments)
    (hname : ∀ builtin ∈ sh.builtins, builtin.name ≠ name) :
    Makes (sh.executeLine sys.recorded line) fun calls answer => ∃ result,
      LaunchRun sh.env.searchPath sh.env.process (sh.tokens line) calls result ∧
        answer = (result.map .external, sh.counted) := by
  have hfind : sh.builtins.find? (·.name == name) = none := by
    rw [List.find?_eq_none]
    intro builtin hbuiltin
    rw [beq_iff_eq]
    exact hname builtin hbuiltin
  intro world record
  obtain ⟨calls, result, world', hrun, hrow⟩ :=
    launch_makes sys sh.env.searchPath sh.env.process (sh.tokens line) world record
  refine ⟨calls, _, world', ?_, result, hrow, rfl⟩
  rw [executeLine_external h hfind, hrun]

/-- **Redirections of whole lines.** A line with an operator behind its name is launched, and the
child obeys what is kept of the redirection. If the operator is lost, that is none. If one word
after it is kept, that is the target, and otherwise the child reports a malformed redirection. Once
both streams have been pointed at a target, they lead to the file that was opened. -/
theorem executeLine_redirection (sys : System World Process) {sh : Shell Process}
    {line name : String} {before after : List String}
    (hwords : words line = name :: (before ++ redirectOperator :: after))
    (hfirst : redirectOperator ∉ before)
    (hname : ∀ builtin ∈ sh.builtins, builtin.name ≠ name)
    (hmax : 1 ≤ sh.config.maxTokens) (world : World) (record : Record Process) :
    ∃ calls result world',
      (sh.executeLine sys.recorded line).run (world, record) =
        ((result, sh.counted), (world', record ++ calls)) ∧
      (sh.executeLine sys line).run world = ((result, sh.counted), world') ∧
      ((∃ errno, calls = [.fork (.error errno)] ∧ result = .error (.fork errno)) ∨
        ∃ fate child status ended, calls = .fork (.ok ()) :: (child ++ [.wait status ended]) ∧
          result = (ended.mapError .wait).map .external ∧
          ChildRun sh.env.searchPath sh.env.process (sh.tokens line) fate child status ∧
          (sh.config.maxTokens ≤ before.length + 1 →
            Obeys sh.env.process .absent ((words line).take sh.config.maxTokens) child) ∧
          (before.length + 1 < sh.config.maxTokens → ∀ target,
            after.take (sh.config.maxTokens - (before.length + 2)) = [target] →
              Obeys sh.env.process (.file target) (name :: before) child) ∧
          (before.length + 1 < sh.config.maxTokens →
            (∀ target, after.take (sh.config.maxTokens - (before.length + 2)) ≠ [target]) →
              child = [.report sh.env.process] ∧ status = .exited 0) ∧
          ∀ target opening rest pointed, child = opening ++ rest →
            Pointed sh.env.process (.file target) opening pointed →
              ∀ (Open File : Type) (d : Descriptors sys Open File),
                d.Leads sh.env.process target opening pointed) := by
  obtain ⟨arguments, htokens⟩ : ∃ arguments, (sh.tokens line).toList = name :: arguments := by
    obtain ⟨room, hroom⟩ : ∃ room, sh.config.maxTokens = room + 1 :=
      ⟨sh.config.maxTokens - 1, by omega⟩
    rw [tokens, Tokens.toList_ofLine, hwords, hroom, List.take_succ_cons]
    exact ⟨_, rfl⟩
  obtain ⟨calls, _, world', hrun, result, hrow, rfl⟩ :=
    executeLine_makes sys htokens hname world record
  have haccount := ((similar_follows sys (world, record)).executeLine sh line).account hrun
  refine ⟨calls, _, world', hrun, ((similar_recorded sys).executeLine sh line).run_eq hrun, ?_⟩
  cases hrow with
  | unforked errno => exact .inl ⟨errno, rfl, rfl⟩
  | @forked fate child status hchild ended =>
    refine .inr ⟨fate, child, status, ended, rfl, rfl, hchild, fun hlost => ?_,
      fun hkept target htarget => ?_, fun hkept hnone => ?_, ?_⟩
    · obtain ⟨hredirection, hcommand⟩ := Tokens.ofLine_of_lost hfirst hwords hlost
      have hobeys := hchild.obeys
      rwa [tokens, hredirection, hcommand] at hobeys
    · obtain ⟨hredirection, hcommand⟩ := Tokens.ofLine_of_kept hfirst hwords hkept
      have hobeys := hchild.obeys
      rw [tokens, hredirection, hcommand, htarget] at hobeys
      exact hobeys
    · obtain ⟨hredirection, -⟩ := Tokens.ofLine_of_kept hfirst hwords hkept
      exact hchild.of_malformed (hredirection.trans (Redirection.ofOperands_of_ne hnone))
    · rintro target opening rest pointed rfl hopening Open File d
      obtain ⟨forked, -, hrest⟩ := haccount
      obtain ⟨between, hlife, -⟩ := hrest.of_append
      exact d.leads hlife hopening

/-- Of two words after the operator the second is lost, and the first becomes the target. -/
theorem executeLine_redirection_kept_target :
    let sh : Shell Unit := ⟨⟨(), [], ⟨["/bin/"]⟩⟩, {}, Builtin.all, 0⟩
    let line := "echo a b c d e f g > out extra"
    let arguments := ["a", "b", "c", "d", "e", "f", "g"]
    words line = "echo" :: (arguments ++ redirectOperator :: ["out", "extra"]) ∧
      redirectOperator ∉ arguments ∧ (∀ builtin ∈ sh.builtins, builtin.name ≠ "echo") ∧
      1 ≤ sh.config.maxTokens ∧
      ∃ child status ended, ((sh.executeLine quiet.recorded line).run ([], [])).2.2 =
          .fork (.ok ()) :: (child ++ [.wait status ended]) ∧
        Obeys () (.file "out") ("echo" :: arguments) child := by
  intro sh line arguments
  have hwords : words line = "echo" :: (arguments ++ redirectOperator :: ["out", "extra"]) := by
    decide
  have hfirst : redirectOperator ∉ arguments := by decide
  have hname : ∀ builtin ∈ sh.builtins, builtin.name ≠ "echo" := by decide
  have hmax : 1 ≤ sh.config.maxTokens := by decide
  refine ⟨hwords, hfirst, hname, hmax, ?_⟩
  obtain ⟨calls, result, world', hrun, -, ⟨errno, rfl, rfl⟩ |
      ⟨fate, child, status, ended, rfl, -, -, -, hkept, -, -⟩⟩ :=
    executeLine_redirection quiet hwords hfirst hname hmax ([] : Source) []
  · have hgranted : ∀ call ∈ ((sh.executeLine quiet.recorded line).run ([], [])).2.2,
        call.isGranted = true := by decide +kernel
    rw [hrun] at hgranted
    exact absurd (hgranted _ List.mem_cons_self) Bool.false_ne_true
  · rw [hrun]
    exact ⟨child, status, ended, rfl, hkept (by decide) "out" rfl⟩

/-- A system on which every program is there and ends well. -/
def willing : System Source Unit :=
  { quiet with
    isExecutable := fun _ _ => pure true
    execute := fun _ _ _ => pure (.ok (.exited 0)) }

/-- Two words follow the operator, and yet the file is opened, the program runs, and nothing is
reported. -/
theorem lost_word_excused :
    let sh : Shell Unit := ⟨⟨(), [], ⟨["/bin/"]⟩⟩, {}, Builtin.all, 0⟩
    let line := "echo a b c d e f g > out extra"
    let command := ["echo", "a", "b", "c", "d", "e", "f", "g"]
    let calls := ((sh.executeLine willing.recorded line).run ([], [])).2.2
    words line = command ++ redirectOperator :: ["out", "extra"] ∧
      redirectOperator ∉ command ∧ (∀ builtin ∈ sh.builtins, builtin.name ≠ "echo") ∧
      Record.created calls = [(utf8 "out", true)] ∧
      Record.executed calls = [((), utf8 "/bin/echo", command.map utf8)] ∧
      Record.written calls = [] := by
  intro sh line command calls
  have htokens : sh.tokens line =
      ⟨["echo", "a", "b", "c", "d", "e", "f", "g", ">", "out"], 10⟩ := by decide
  have hname : (sh.tokens line).toList =
      "echo" :: ["a", "b", "c", "d", "e", "f", "g", ">", "out"] := by rw [htokens]
  have hfind : sh.builtins.find? (·.name == "echo") = none := by decide
  have hlaunch : (launch willing.recorded ⟨["/bin/"]⟩ ()
        ⟨["echo", "a", "b", "c", "d", "e", "f", "g", ">", "out"], 10⟩).run (([] : Source), []) =
      (.ok (.exited 0), (([] : Source),
        [.fork (.ok ()), .create () (utf8 "out") redirectMode (.ok (3, ())),
        .duplicate () 3 standardOutput (.ok ()), .duplicate () 3 standardError (.ok ()),
        .close () 3 (), .isExecutable () (utf8 "/bin/echo") true,
        .execute () (utf8 "/bin/echo") (command.map utf8) (.ok (.exited 0)),
        .wait (.exited 0) (.ok (.exited 0))])) := rfl
  have hcalls : calls = ((launch willing.recorded ⟨["/bin/"]⟩ ()
      ⟨["echo", "a", "b", "c", "d", "e", "f", "g", ">", "out"], 10⟩).run ([], [])).2.2 := by
    show ((sh.executeLine willing.recorded line).run ([], [])).2.2 = _
    rw [executeLine_external hname hfind, htokens]
  rw [hcalls, hlaunch]
  exact ⟨by decide, by decide, by decide, rfl, rfl, rfl⟩

end Shell

end MiniShell
