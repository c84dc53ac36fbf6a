import MiniShell.Proofs.Child.Launch
import MiniShell.Proofs.Shell.Line
import MiniShell.Proofs.System.Account

/-!
# Lines keep their trouble to themselves

`LineRun` lists all that a line can come to, each with its calls: nothing, a built-in
(`PerformRun`), or the launch of a command. Whatever the system answers, a line is in this list
(`executeLine_run`).

`executeLine_contained` reads off what a line changes and which failures it can come to. A shell
moves when `cd` succeeds and at no other time, it counts every line that is not blank, and of the
failures of a child it learns only that the child could not be made or awaited. The working
directory of the shell is part of its process, so a shell whose process stays has not moved.
-/

namespace MiniShell

variable {World Process : Type}

/-! ## Built-ins -/

/-- What moving to the directory `path` comes to. Without a name from the system, the new directory
is called by the path, seen from the old one. -/
inductive MoveRun (env : Environment Process) (path : Path) :
    Record Process → Except IoError (Environment Process) → Prop where
  | nul (hnul : hasNul path = true) : MoveRun env path [] (.error .nulInPath)
  | refused (hnul : hasNul path = false) (errno : Errno) :
    MoveRun env path [.changeDir env.process path (.error errno)] (.error (.system errno))
  | moved (hnul : hasNul path = false) (process : Process) (dir : Option Path) :
    MoveRun env path [.changeDir env.process path (.ok process), .currentDir process dir]
      (.ok ⟨process, dir.getD (env.currentDir.join path), env.searchPath⟩)

theorem changeDir_makes (sys : System World Process) (env : Environment Process) (path : Path) :
    Makes (env.changeDir sys.recorded path) (MoveRun env path) := by
  refine .bind (askAbout_makes path _ _) fun calls answer h => ?_
  obtain ⟨hnul, rfl, rfl⟩ | ⟨hnul, given, rfl, rfl⟩ := h
  · exact .pure (.nul hnul)
  · cases given with
    | error errno => exact .pure (.refused hnul errno)
    | ok process => exact .noted fun dir => .pure (.moved hnul process dir)

/-- The number of operands that a built-in takes. -/
def Builtin.arity : Builtin → Nat
  | .exit | .quit => 0
  | .cd => 1

/-- What a built-in comes to: the end of the session, a usage error, a move, or a failed one. -/
inductive PerformRun (env : Environment Process) :
    Builtin → List String → Record Process → Except Failure Control × Environment Process → Prop
    where
  | ended {builtin : Builtin} (hbuiltin : builtin ≠ .cd) :
    PerformRun env builtin [] [] (.ok (.exit exitSuccess), env)
  | misused {builtin : Builtin} {arguments : List String}
    (hcount : arguments.length ≠ builtin.arity) :
    PerformRun env builtin arguments [] (.error (.usage builtin.name), env)
  | moved {target : String} {calls : Record Process} {env' : Environment Process}
    (hmove : MoveRun env (utf8 target) calls (.ok env')) :
    PerformRun env .cd [target] calls (.ok .proceed, env')
  | unmoved {target : String} {calls : Record Process} {cause : IoError}
    (hmove : MoveRun env (utf8 target) calls (.error cause)) :
    PerformRun env .cd [target] calls (.error (.changeDir (utf8 target) cause), env)

theorem perform_makes (sys : System World Process) (env : Environment Process)
    (builtin : Builtin) (arguments : List String) :
    Makes (builtin.perform sys.recorded env arguments) (PerformRun env builtin arguments) := by
  unfold Builtin.perform
  split
  · exact .pure (.ended (by decide))
  · exact .pure (.ended (by decide))
  · rename_i target
    refine .bind (changeDir_makes sys env (utf8 target)) fun calls answer hmove => ?_
    cases answer with
    | error cause => exact .pure (by rw [List.append_nil]; exact .unmoved hmove)
    | ok env' => exact .pure (by rw [List.append_nil]; exact .moved hmove)
  · rename_i hexit hquit hcd
    refine .pure (.misused fun hcount => ?_)
    cases builtin with
    | exit => exact hexit rfl (List.length_eq_zero_iff.mp hcount)
    | quit => exact hquit rfl (List.length_eq_zero_iff.mp hcount)
    | cd =>
      obtain ⟨target, rfl⟩ := List.length_eq_one_iff.mp hcount
      exact hcd target rfl rfl

/-! ## Lines -/

/-- What a line comes to, with the calls it makes and the shell after it. -/
inductive LineRun (sh : Shell Process) (line : String) :
    Record Process → Except Failure Outcome × Shell Process → Prop where
  | blank (htokens : (sh.tokens line).toList = []) : LineRun sh line [] (.ok .empty, sh)
  | builtin {builtin : Builtin} {arguments : List String} {calls : Record Process}
    {result : Except Failure Control} {env : Environment Process}
    (hbuiltin : builtin ∈ sh.builtins)
    (htokens : (sh.tokens line).toList = builtin.name :: arguments)
    (hperform : PerformRun sh.env builtin arguments calls (result, env)) :
    LineRun sh line calls (result.map .builtin, { sh.counted with env })
  | launched {name : String} {arguments : List String} {calls : Record Process}
    {result : Except Failure Status}
    (hname : ∀ builtin ∈ sh.builtins, builtin.name ≠ name)
    (htokens : (sh.tokens line).toList = name :: arguments)
    (hlaunch : LaunchRun sh.env.searchPath sh.env.process (sh.tokens line) calls result) :
    LineRun sh line calls (result.map .external, sh.counted)

/-! ## What can be read off a line -/

section LineRun

variable {sh : Shell Process} {line : String} {calls : Record Process}
  {answer : Except Failure Outcome × Shell Process}

/-- The tokens of a blank line are none, and it is the only line with an empty outcome. -/
theorem LineRun.empty_iff (h : LineRun sh line calls answer) :
    answer.1 = .ok .empty ↔ (sh.tokens line).toList = [] := by
  cases h with
  | blank htokens => simp [htokens]
  | @builtin _ _ _ result _ _ htokens _ =>
    rw [htokens]
    cases result <;> simp [Except.map]
  | @launched _ _ _ result _ htokens _ =>
    rw [htokens]
    cases result <;> simp [Except.map]

theorem LineRun.eq_of_blank (h : LineRun sh line calls answer)
    (hblank : (sh.tokens line).toList = []) : calls = [] ∧ answer = (.ok .empty, sh) := by
  cases h with
  | blank _ => exact ⟨rfl, rfl⟩
  | builtin _ htokens _ | launched _ htokens _ =>
    rw [htokens] at hblank
    cases hblank

/-- Every line that is not blank counts, whatever comes of it. -/
theorem LineRun.commandsExecuted_eq (h : LineRun sh line calls answer) :
    answer.2.commandsExecuted =
      sh.commandsExecuted + if (sh.tokens line).toList = [] then 0 else 1 := by
  cases h with
  | blank htokens => simp [htokens]
  | builtin _ htokens _ | launched _ htokens _ => simp [htokens, Shell.counted]

theorem PerformRun.searchPath_eq {env : Environment Process} {builtin : Builtin}
    {arguments : List String} {done : Except Failure Control × Environment Process}
    (h : PerformRun env builtin arguments calls done) :
    done.2.searchPath = env.searchPath := by
  cases h with
  | ended _ | misused _ | unmoved _ => rfl
  | moved hmove =>
    cases hmove with
    | moved _ _ _ => rfl

/-- Settings, built-ins and the search path stay as they are. -/
theorem LineRun.frame (h : LineRun sh line calls answer) :
    answer.2.config = sh.config ∧ answer.2.builtins = sh.builtins ∧
      answer.2.env.searchPath = sh.env.searchPath := by
  cases h with
  | blank _ | launched _ _ _ => exact ⟨rfl, rfl, rfl⟩
  | builtin _ _ hperform => exact ⟨rfl, rfl, hperform.searchPath_eq⟩

/-- A shell moves when `cd` succeeds, and stays where it is otherwise. -/
theorem LineRun.moves (h : LineRun sh line calls answer) :
    (∃ target process dir, (sh.tokens line).toList = [Builtin.cd.name, target] ∧
        answer.1 = .ok (.builtin .proceed) ∧ answer.2.env.process = process ∧
        calls = [.changeDir sh.env.process (utf8 target) (.ok process),
          .currentDir process dir]) ∨
      answer.1 ≠ .ok (.builtin .proceed) ∧ answer.2.env = sh.env := by
  cases h with
  | blank _ => exact .inr ⟨by simp, rfl⟩
  | @launched _ _ _ result _ _ _ =>
    refine .inr ⟨?_, rfl⟩
    cases result <;> simp [Except.map]
  | builtin _ htokens hperform =>
    cases hperform with
    | ended _ => exact .inr ⟨by simp [Except.map], rfl⟩
    | misused _ | unmoved _ => exact .inr ⟨by simp [Except.map], rfl⟩
    | @moved target _ _ hmove =>
      cases hmove with
      | moved _ process dir => exact .inl ⟨target, process, dir, htokens, rfl, rfl, rfl⟩

/-- The failures that a line can come to. Only that of a fork is fatal. -/
theorem LineRun.failure (h : LineRun sh line calls answer) {failure : Failure}
    (hfailure : answer.1 = .error failure) :
    ((∃ builtin ∈ sh.builtins, (sh.tokens line).name? = some builtin.name ∧
          failure = .usage builtin.name) ∨
        (∃ target cause, (sh.tokens line).toList = [Builtin.cd.name, target] ∧
          failure = .changeDir (utf8 target) cause) ∨
        (∃ errno, failure = .fork errno) ∨ ∃ errno, failure = .wait errno) ∧
      (failure.isFatal = true ↔ ∃ errno, failure = .fork errno) := by
  cases h with
  | blank _ => cases hfailure
  | @launched _ _ _ result _ _ hlaunch =>
    cases hlaunch with
    | unforked errno =>
      cases hfailure
      exact ⟨.inr (.inr (.inl ⟨errno, rfl⟩)), by simp [Failure.isFatal]⟩
    | forked _ ended =>
      cases ended with
      | ok _ => cases hfailure
      | error errno =>
        cases hfailure
        exact ⟨.inr (.inr (.inr ⟨errno, rfl⟩)), by simp [Failure.isFatal]⟩
  | @builtin builtin _ _ _ _ hbuiltin htokens hperform =>
    cases hperform with
    | ended _ | moved _ => cases hfailure
    | misused _ =>
      cases hfailure
      exact ⟨.inl ⟨builtin, hbuiltin, Tokens.name?_of_cons htokens, rfl⟩,
        by simp [Failure.isFatal]⟩
    | @unmoved target _ cause _ =>
      cases hfailure
      exact ⟨.inr (.inl ⟨target, cause, htokens, rfl⟩), by simp [Failure.isFatal]⟩

theorem Builtin.cons_mem_dismissals {builtin : Builtin} {arguments : List String} :
    builtin.name :: arguments ∈ [["exit"], ["quit"]] ↔ builtin ≠ .cd ∧ arguments = [] := by
  cases builtin <;> simp [Builtin.name]

/-- **Ends of sessions.** Among all lines, `exit` and `quit` by themselves end the session, and they
end it well. A command does not, as long as its child could be made. -/
theorem LineRun.statusAfter_eq (h : LineRun sh line calls answer)
    (hall : sh.builtins = Builtin.all) (hfork : ∀ errno, .fork (.error errno) ∉ calls) :
    Shell.statusAfter answer.1 =
      if Shell.endsSession sh.config.maxTokens line then some exitSuccess else none := by
  have hends : Shell.endsSession sh.config.maxTokens line = true ↔
      (sh.tokens line).toList ∈ [["exit"], ["quit"]] := decide_eq_true_iff
  cases h with
  | blank htokens =>
    rw [htokens] at hends
    exact (if_neg (mt hends.mp (by decide))).symm
  | @builtin builtin _ _ _ _ _ htokens hperform =>
    rw [htokens, Builtin.cons_mem_dismissals] at hends
    cases hperform with
    | ended hbuiltin => exact (if_pos (hends.mpr ⟨hbuiltin, rfl⟩)).symm
    | misused hcount =>
      refine (if_neg fun h => ?_).symm
      obtain ⟨hbuiltin, rfl⟩ := hends.mp h
      cases builtin with
      | exit | quit => exact hcount rfl
      | cd => exact hbuiltin rfl
    | moved _ | unmoved _ => exact (if_neg fun h => (hends.mp h).1 rfl).symm
  | @launched name _ _ _ hname htokens hlaunch =>
    have hother : ∀ builtin : Builtin, builtin.name ≠ name := fun builtin =>
      hname builtin (hall ▸ by cases builtin <;> decide)
    have hexit : name ≠ "exit" := (hother .exit).symm
    have hquit : name ≠ "quit" := (hother .quit).symm
    have hnot : (sh.tokens line).toList ∉ [["exit"], ["quit"]] := by simp [htokens, hexit, hquit]
    rw [if_neg (mt hends.mp hnot)]
    cases hlaunch with
    | unforked errno => exact absurd List.mem_cons_self (hfork errno)
    | forked _ ended => cases ended <;> rfl

end LineRun

namespace Shell

theorem executeLine_lineRun (sys : System World Process) (sh : Shell Process) (line : String) :
    Makes (sh.executeLine sys.recorded line) (LineRun sh line) := by
  intro world record
  rcases htokens : (sh.tokens line).toList with _ | ⟨name, arguments⟩
  · refine ⟨[], _, world, ?_, .blank htokens⟩
    rw [executeLine_empty htokens, List.append_nil]
  · rcases hfind : sh.builtins.find? (·.name == name) with _ | builtin
    · have hname : ∀ builtin ∈ sh.builtins, builtin.name ≠ name := fun builtin hbuiltin hname =>
        List.find?_eq_none.mp hfind builtin hbuiltin (beq_iff_eq.mpr hname)
      obtain ⟨calls, result, world', hrun, hlaunch⟩ :=
        launch_makes sys sh.env.searchPath sh.env.process (sh.tokens line) world record
      refine ⟨calls, _, world', ?_, .launched hname htokens hlaunch⟩
      rw [executeLine_external htokens hfind, hrun]
    · have hname : builtin.name = name := by simpa using List.find?_some hfind
      obtain ⟨calls, ⟨result, env⟩, world', hrun, hperform⟩ :=
        perform_makes sys sh.env builtin arguments world record
      refine ⟨calls, _, world', ?_, .builtin (List.mem_of_find?_eq_some hfind)
        (hname.symm ▸ htokens) hperform⟩
      rw [executeLine_builtin htokens hfind, hrun]

/-- **A line.** Whatever the system answers, a line comes to something in the list. Its calls are
an account of what happened, and there is no more to it when no record is kept. -/
theorem executeLine_run (sys : System World Process) (sh : Shell Process) (line : String)
    (world : World) (record : Record Process) :
    ∃ calls answer world', LineRun sh line calls answer ∧ Account sys world world' calls ∧
      (sh.executeLine sys.recorded line).run (world, record) =
        (answer, (world', record ++ calls)) ∧
      (sh.executeLine sys line).run world = (answer, world') := by
  obtain ⟨calls, answer, world', hrun, hline⟩ := executeLine_lineRun sys sh line world record
  exact ⟨calls, answer, world', hline,
    ((similar_follows sys (world, record)).executeLine sh line).account hrun, hrun,
    ((similar_recorded sys).executeLine sh line).run_eq hrun⟩

/-! ## Lines in a row -/

/-- Runs lines one after the other, whatever comes of each. -/
def executeLines (sys : System World Process) (sh : Shell Process) :
    List String → StateM World (List (Except Failure Outcome) × Shell Process)
  | [] => pure ([], sh)
  | line :: lines => do
    let (result, sh) ← sh.executeLine sys line
    let (results, sh) ← executeLines sys sh lines
    pure (result :: results, sh)

/-- What no line changes, no number of lines changes. -/
theorem executeLines_frame (sys : System World Process) (sh : Shell Process)
    (lines : List String) (world : World) :
    ((sh.executeLines sys lines).run world).1.2.config = sh.config ∧
      ((sh.executeLines sys lines).run world).1.2.builtins = sh.builtins ∧
      ((sh.executeLines sys lines).run world).1.2.env.searchPath = sh.env.searchPath := by
  induction lines generalizing sh world with
  | nil => exact ⟨rfl, rfl, rfl⟩
  | cons line lines ih =>
    obtain ⟨calls, ⟨result, sh'⟩, world', hline, -, -, hrun⟩ :=
      executeLine_run sys sh line world []
    obtain ⟨hconfig, hbuiltins, hsearch⟩ := hline.frame
    obtain ⟨hconfig', hbuiltins', hsearch'⟩ := ih sh' world'
    rw [executeLines, run_bind, hrun]
    exact ⟨hconfig'.trans hconfig, hbuiltins'.trans hbuiltins, hsearch'.trans hsearch⟩

/-- **Containment.** A blank line is nothing at all, and every other line counts. A line comes to
four failures only, of which that of a fork is fatal. A successful `cd` moves the shell, and after
any other line it is where it was, with the directory it has on record. Settings, built-ins and
the search path outlast any number of lines. -/
theorem executeLine_contained (sys : System World Process) (sh : Shell Process) (line : String)
    (world : World) :
    ∃ result sh' world', (sh.executeLine sys line).run world = ((result, sh'), world') ∧
      (result = .ok .empty ↔ (sh.tokens line).toList = []) ∧
      (result = .ok .empty → sh' = sh ∧ world' = world) ∧
      (result ≠ .ok .empty → sh'.commandsExecuted = sh.commandsExecuted + 1) ∧
      (∀ failure, result = .error failure →
        ((∃ builtin ∈ sh.builtins, (sh.tokens line).name? = some builtin.name ∧
              failure = .usage builtin.name) ∨
            (∃ target cause, (sh.tokens line).toList = [Builtin.cd.name, target] ∧
              failure = .changeDir (utf8 target) cause) ∨
            (∃ errno, failure = .fork errno) ∨ ∃ errno, failure = .wait errno) ∧
          (failure.isFatal = true ↔ ∃ errno, failure = .fork errno)) ∧
      ((∃ target, (sh.tokens line).toList = [Builtin.cd.name, target] ∧
          result = .ok (.builtin .proceed) ∧
          ((sys.changeDir sh.env.process (utf8 target)).run world).1 = .ok sh'.env.process) ∨
        result ≠ .ok (.builtin .proceed) ∧ sh'.env = sh.env) ∧
      ∀ lines, ((sh.executeLines sys lines).run world).1.2.config = sh.config ∧
        ((sh.executeLines sys lines).run world).1.2.builtins = sh.builtins ∧
        ((sh.executeLines sys lines).run world).1.2.env.searchPath = sh.env.searchPath := by
  obtain ⟨calls, ⟨result, sh'⟩, world', hline, haccount, -, hrun⟩ :=
    executeLine_run sys sh line world []
  refine ⟨result, sh', world', hrun, hline.empty_iff, fun hempty => ?_, fun hempty => ?_,
    fun failure hfailure => hline.failure hfailure, ?_,
    fun lines => executeLines_frame sys sh lines world⟩
  · obtain ⟨rfl, hanswer⟩ := hline.eq_of_blank (hline.empty_iff.mp hempty)
    exact ⟨congrArg Prod.snd hanswer, haccount.symm⟩
  · have hcount := hline.commandsExecuted_eq
    rwa [if_neg (mt hline.empty_iff.mpr hempty)] at hcount
  · obtain ⟨target, process, dir, htokens, hresult, hprocess, rfl⟩ | hstays := hline.moves
    · obtain ⟨between, hmove, -⟩ := haccount
      refine .inl ⟨target, htokens, hresult, ?_⟩
      rw [hmove, hprocess]
    · exact .inr hstays

end Shell

end MiniShell
