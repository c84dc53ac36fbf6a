import Mathlib.Logic.Relation
import Mathlib.Tactic.SplitIfs
import MiniShell.Host.Lookup
import MiniShell.Proofs.Shell.Line
import MiniShell.Proofs.Text.Runs

/-!
# The recorded working directory

An environment records the path of its working directory and the system knows it too. As long as
nobody renames directories the two agree (`InStep`): every step of a run keeps it so
(`Step.inStep`), and so does the run (`inStep_of_steps`). Where a directory has been removed the
system knows no path any more, and the record goes on by itself until a move leads to a directory
that has one.
-/

namespace MiniShell

open Host (components dot)

variable {World Process : Type}

/-- The path that the system knows for the working directory of a process. -/
def reported (sys : System World Process) (world : World) (process : Process) : Option Path :=
  ((sys.currentDir process).run world).1

/-- What holds of the directories of every Unix system: paths are absolute, and to move or to ask
where one is leaves all directories where they are. -/
structure Directories (sys : System World Process) : Prop where
  changeDir (process : Process) (path : Path) (world : World) (other : Process) :
    reported sys ((sys.changeDir process path).run world).2 other = reported sys world other
  currentDir (process : Process) (world : World) (other : Process) :
    reported sys ((sys.currentDir process).run world).2 other = reported sys world other
  absolute {world : World} {process : Process} {dir : Path} :
    reported sys world process = some dir → dir.head? = some slash

/-- Nobody has renamed the directory that the process works in. It may have been removed. -/
def Unrenamed (sys : System World Process) (process : Process) (before after : World) : Prop :=
  ∀ dir, reported sys after process = some dir → reported sys before process = some dir

/-! ## Steps -/

/-- What can happen between an environment and the world, directories being renamed by nobody. -/
inductive Move (sys : System World Process) :
    Environment Process × World → Environment Process × World → Prop where
  /-- Tokens are offered to a table of built-ins. -/
  | dispatched (table : List Builtin) (tokens : Tokens) (env : Environment Process)
    (world : World) :
    Move sys (env, world) (((dispatch sys table tokens env).run world).1.2,
      ((dispatch sys table tokens env).run world).2)
  /-- The environment is moved, or stays what it is because that fails. -/
  | changed (path : Path) (env : Environment Process) (world : World) :
    Move sys (env, world) (((env.changeDir sys path).run world).1.toOption.getD env,
      ((env.changeDir sys path).run world).2)
  /-- A shell runs a line, be it a built-in or a program. -/
  | ran (sh : Shell Process) (line : String) (world : World)
    (h : Unrenamed sys sh.env.process world ((sh.executeLine sys line).run world).2) :
    Move sys (sh.env, world) (((sh.executeLine sys line).run world).1.2.env,
      ((sh.executeLine sys line).run world).2)
  /-- Others do something, such as to remove a directory. -/
  | elsewhere (env : Environment Process) {before after : World}
    (h : Unrenamed sys env.process before after) : Move sys (env, before) (env, after)

/-- Something happens to an environment, or another takes its place. -/
inductive Step (sys : System World Process) :
    Environment Process × World → Environment Process × World → Prop where
  | moved {state state' : Environment Process × World} (h : Move sys state state') :
    Step sys state state'
  | captured (env : Environment Process) (world : World) (search : SearchPath) :
    Step sys (env, world) ((Environment.capture sys env.process search).run world)

/-- What is recorded is what the system knows, if it knows anything. -/
def InStep (sys : System World Process) (state : Environment Process × World) : Prop :=
  ∀ dir, reported sys state.2 state.1.process = some dir → state.1.currentDir = dir

section

variable {sys : System World Process} {env env' : Environment Process} {path : Path}
  {world world' : World}

/-! ## One move -/

theorem changeDir_of_nul (hnul : hasNul path = true) :
    (env.changeDir sys path).run world = (.error .nulInPath, world) := by
  rw [Environment.changeDir, run_bind, askAbout, if_pos hnul]
  rfl

theorem changeDir_of_not_nul (hnul : hasNul path = false) :
    (env.changeDir sys path).run world =
      match (sys.changeDir env.process path).run world with
      | (.error errno, moved) => (.error (.system errno), moved)
      | (.ok process, moved) =>
        (.ok ⟨process, (reported sys moved process).getD (env.currentDir.join path),
          env.searchPath⟩, ((sys.currentDir process).run moved).2) := by
  rw [Environment.changeDir, run_bind, askAbout, hnul, if_neg Bool.false_ne_true, run_bind]
  rcases (sys.changeDir env.process path).run world with ⟨errno | process, moved⟩ <;> rfl

/-- A move that fails leaves every process where it is. -/
theorem reported_of_error (d : Directories sys) {cause : IoError}
    (h : (env.changeDir sys path).run world = (.error cause, world')) (other : Process) :
    reported sys world' other = reported sys world other := by
  have hmoved := d.changeDir env.process path world other
  cases hnul : hasNul path with
  | true =>
    rw [changeDir_of_nul hnul] at h
    cases h
    rfl
  | false =>
    rw [changeDir_of_not_nul hnul] at h
    rcases hchange : (sys.changeDir env.process path).run world with ⟨errno | process, moved⟩
    · rw [hchange] at h hmoved
      cases h
      exact hmoved
    · rw [hchange] at h
      cases h

/-- A move that succeeds records what the system knows of the new directory, or else how it was
reached. -/
theorem currentDir_of_ok (d : Directories sys)
    (h : (env.changeDir sys path).run world = (.ok env', world')) :
    env'.currentDir = (reported sys world' env'.process).getD (env.currentDir.join path) := by
  cases hnul : hasNul path with
  | true =>
    rw [changeDir_of_nul hnul] at h
    cases h
  | false =>
    rw [changeDir_of_not_nul hnul] at h
    rcases hchange : (sys.changeDir env.process path).run world with ⟨errno | process, moved⟩
    · rw [hchange] at h
      cases h
    · rw [hchange] at h
      have hmoved := d.currentDir process moved process
      cases h
      dsimp only
      rw [hmoved]

/-- A built-in leaves an environment as it is, or moves it. -/
theorem perform_cases (d : Directories sys) (builtin : Builtin) (arguments : List String)
    (env : Environment Process) (world : World) :
    (((builtin.perform sys env arguments).run world).1.2 = env ∧
      ∀ other, reported sys ((builtin.perform sys env arguments).run world).2 other =
        reported sys world other) ∨
    ∃ path control, ((builtin.perform sys env arguments).run world).1.1 = .ok control ∧
      (env.changeDir sys path).run world =
        (.ok ((builtin.perform sys env arguments).run world).1.2,
          ((builtin.perform sys env arguments).run world).2) := by
  unfold Builtin.perform
  split
  · exact .inl ⟨rfl, fun _ => rfl⟩
  · exact .inl ⟨rfl, fun _ => rfl⟩
  · rename_i target
    rw [run_bind]
    rcases hmove : (env.changeDir sys (utf8 target)).run world with ⟨cause | env', world'⟩
    · exact .inl ⟨rfl, reported_of_error d hmove⟩
    · exact .inr ⟨_, _, rfl, hmove⟩
  · exact .inl ⟨rfl, fun _ => rfl⟩

theorem dispatch_cases (d : Directories sys) (table : List Builtin) (tokens : Tokens)
    (env : Environment Process) (world : World) :
    (((dispatch sys table tokens env).run world).1.2 = env ∧
      ∀ other, reported sys ((dispatch sys table tokens env).run world).2 other =
        reported sys world other) ∨
    ∃ path control, ((dispatch sys table tokens env).run world).1.1 = some (.ok control) ∧
      (env.changeDir sys path).run world =
        (.ok ((dispatch sys table tokens env).run world).1.2,
          ((dispatch sys table tokens env).run world).2) := by
  unfold dispatch
  split
  · exact .inl ⟨rfl, fun _ => rfl⟩
  · rename_i builtin hfind
    rw [run_bind, run_eq_perform]
    obtain hstays | ⟨path, control, hresult, hmove⟩ :=
      perform_cases d builtin tokens.arguments env world
    · exact .inl hstays
    · exact .inr ⟨path, control, congrArg some hresult, hmove⟩

/-- A move leaves the environment as it is, its directory not being renamed, or goes to another
directory. -/
theorem Move.cases (d : Directories sys) {state state' : Environment Process × World}
    (h : Move sys state state') :
    (state'.1 = state.1 ∧ Unrenamed sys state.1.process state.2 state'.2) ∨
      ∃ path, (state.1.changeDir sys path).run state.2 = (.ok state'.1, state'.2) := by
  cases h with
  | dispatched table tokens env world =>
    obtain ⟨hsame, hreports⟩ | ⟨path, -, -, hmove⟩ := dispatch_cases d table tokens env world
    · exact .inl ⟨hsame, fun dir hdir => (hreports env.process).symm.trans hdir⟩
    · exact .inr ⟨path, hmove⟩
  | changed path env world =>
    rcases hmove : (env.changeDir sys path).run world with ⟨cause | env', world'⟩
    · have hreports := reported_of_error d hmove env.process
      exact .inl ⟨rfl, fun dir hdir => hreports.symm.trans hdir⟩
    · exact .inr ⟨path, hmove⟩
  | ran sh line world h =>
    rcases htokens : (sh.tokens line).toList with _ | ⟨name, arguments⟩
    · rw [Shell.executeLine_empty htokens] at h ⊢
      exact .inl ⟨rfl, h⟩
    · rcases hfind : sh.builtins.find? (·.name == name) with _ | builtin
      · rw [Shell.executeLine_external htokens hfind] at h ⊢
        exact .inl ⟨rfl, h⟩
      · rw [Shell.executeLine_builtin htokens hfind] at h ⊢
        obtain ⟨hsame, -⟩ | ⟨path, -, -, hmove⟩ := perform_cases d builtin arguments sh.env world
        · exact .inl ⟨hsame, h⟩
        · exact .inr ⟨path, hmove⟩
  | elsewhere env h => exact .inl ⟨rfl, h⟩

/-! ## Agreement -/

theorem inStep_capture (d : Directories sys) (process : Process) (search : SearchPath)
    (world : World) : InStep sys ((Environment.capture sys process search).run world) := by
  intro dir hdir
  have hknown : reported sys world process = some dir :=
    (d.currentDir process world process).symm.trans hdir
  show (reported sys world process).getD (utf8 ".") = dir
  rw [hknown, Option.getD_some]

theorem Move.inStep (d : Directories sys) {state state' : Environment Process × World}
    (h : Move sys state state') (hstate : InStep sys state) : InStep sys state' := by
  intro dir hdir
  obtain ⟨hsame, hnames⟩ | ⟨path, hmove⟩ := h.cases d
  · rw [hsame] at hdir ⊢
    exact hstate dir (hnames dir hdir)
  · rw [currentDir_of_ok d hmove, hdir, Option.getD_some]

/-- Whatever happens next, the record is in step with the system. -/
theorem Step.inStep (d : Directories sys) {state state' : Environment Process × World}
    (h : Step sys state state') (hstate : InStep sys state) : InStep sys state' := by
  cases h with
  | moved h => exact h.inStep d hstate
  | captured env world search => exact inStep_capture d env.process search world

theorem inStep_of_steps (d : Directories sys) {state state' : Environment Process × World}
    (h : Relation.ReflTransGen (Step sys) state state') (hstate : InStep sys state) :
    InStep sys state' := by
  induction h with
  | refl => exact hstate
  | tail _ hstep ih => exact hstep.inStep d ih

/-! ## Joined paths -/

theorem join_of_absolute (base : Path) (h : path.head? = some slash) : base.join path = path :=
  if_pos h

/-- A path that starts at the root is followed by one that does. -/
theorem head?_join {base : Path} (h : base.head? = some slash) :
    (base.join path).head? = some slash := by
  unfold Path.join
  split_ifs with habsolute
  · exact habsolute
  · rw [List.head?_append, h]
    rfl
  · rw [List.head?_append, h]
    rfl

/-- The components of a relative path come behind those of the base. -/
theorem components_join (base : Path) (h : path.head? ≠ some slash) :
    components (base.join path) = components base ++ components path := by
  unfold Path.join components
  rw [if_neg h]
  split_ifs with hbase
  · refine runs_append_of_getLast (fun a ha => ?_) path
    obtain rfl | hlast := hbase
    · cases ha
    · rw [hlast] at ha
      exact beq_iff_eq.2 (Option.some.inj ha).symm
  · exact runs_append_cons (by decide) base path

/-- Directories that are called after the one before, with a dot behind it, end in as many dots. -/
theorem components_of_dots (dirs : Nat → Path) :
    ∀ n, (∀ i < n, dirs (i + 1) = (dirs i).join dot) →
      components (dirs n) = components (dirs 0) ++ List.replicate n dot := by
  have hdot : components dot = [dot] := by decide
  intro n
  induction n with
  | zero =>
    intro _
    exact (List.append_nil _).symm
  | succ n ih =>
    intro h
    rw [h n (by omega), components_join _ (by decide), ih fun i hi => h i (by omega), hdot,
      List.append_assoc, ← List.replicate_succ']

/-- To the letter, each dot stands behind a slash of its own. -/
theorem text_of_dots (dirs : Nat → Path) (hne : dirs 0 ≠ [])
    (hlast : (dirs 0).getLast? ≠ some slash) :
    ∀ n, (∀ i < n, dirs (i + 1) = (dirs i).join dot) →
      dirs n = dirs 0 ++ (List.replicate n (slash :: dot)).flatten := by
  have hdot : (slash :: dot).getLast? ≠ some slash := by decide
  intro n
  induction n with
  | zero =>
    intro _
    exact (List.append_nil _).symm
  | succ n ih =>
    intro h
    have hbefore := ih fun i hi => h i (by omega)
    have hopen : ¬ (dirs n = [] ∨ (dirs n).getLast? = some slash) := by
      rw [hbefore]
      rcases n with _ | n
      · simp [hne, hlast]
      · rw [List.replicate_succ', List.flatten_append, List.flatten_singleton]
        simpa [hne, List.getLast?_append] using hdot
    rw [h n (by omega), Path.join, if_neg (by decide), if_neg hopen, hbefore, List.append_assoc,
      List.replicate_succ', List.flatten_append, List.flatten_singleton]

theorem Move.absolute (d : Directories sys) {state state' : Environment Process × World}
    (h : Move sys state state') (habsolute : state.1.currentDir.head? = some slash) :
    state'.1.currentDir.head? = some slash := by
  obtain ⟨hsame, -⟩ | ⟨path, hmove⟩ := h.cases d
  · rwa [hsame]
  · rw [currentDir_of_ok d hmove]
    cases hreported : reported sys state'.2 state'.1.process with
    | some dir => exact d.absolute hreported
    | none => exact head?_join habsolute

theorem absolute_of_moves (d : Directories sys) {state state' : Environment Process × World}
    (h : Relation.ReflTransGen (Move sys) state state')
    (habsolute : state.1.currentDir.head? = some slash) :
    state'.1.currentDir.head? = some slash := by
  induction h with
  | refl => exact habsolute
  | tail _ hmove ih => exact hmove.absolute d ih

end

/-- **The working directory.** Of an environment that was captured at some time, the recorded
directory is the one that the system knows, whatever has happened since, unless the system knows
none. A move that fails changes neither of the two. One that succeeds records what the system knows,
or else joins the path to the old record, so that dots add up and an absolute path replaces it. An
absolute record stays absolute. -/
theorem Environment.currentDir_in_step {sys : System World Process} (d : Directories sys) :
    (∀ process search world after,
      Relation.ReflTransGen (Step sys) ((capture sys process search).run world) after →
        InStep sys after) ∧
    (∀ (env : Environment Process) path world,
      match (env.changeDir sys path).run world with
      | (.error _, world') =>
        ∀ process, reported sys world' process = reported sys world process
      | (.ok env', world') =>
        env'.currentDir = (reported sys world' env'.process).getD (env.currentDir.join path)) ∧
    (∀ table tokens env world failure,
      ((dispatch sys table tokens env).run world).1.1 = some (.error failure) →
        ((dispatch sys table tokens env).run world).1.2 = env ∧
          ∀ process, reported sys ((dispatch sys table tokens env).run world).2 process =
            reported sys world process) ∧
    (∀ (envs : Nat → Environment Process) n,
      (∀ i < n, ∃ world world',
        ((envs i).changeDir sys dot).run world = (.ok (envs (i + 1)), world') ∧
          reported sys world' (envs (i + 1)).process = none) →
      components (envs n).currentDir =
          components (envs 0).currentDir ++ List.replicate n dot ∧
        ((envs 0).currentDir ≠ [] → (envs 0).currentDir.getLast? ≠ some slash →
          (envs n).currentDir =
            (envs 0).currentDir ++ (List.replicate n (slash :: dot)).flatten)) ∧
    (∀ (env env' : Environment Process) path world world', path.head? = some slash →
      (env.changeDir sys path).run world = (.ok env', world') →
        reported sys world' env'.process = none → env'.currentDir = path) ∧
    ∀ before after, Relation.ReflTransGen (Move sys) before after →
      before.1.currentDir.head? = some slash → after.1.currentDir.head? = some slash := by
  refine ⟨?_, ?_, ?_, ?_, ?_, fun _ _ => absolute_of_moves d⟩
  · intro process search world after hsteps
    exact inStep_of_steps d hsteps (inStep_capture d process search world)
  · intro env path world
    rcases hmove : (env.changeDir sys path).run world with ⟨cause | env', world'⟩
    · exact reported_of_error d hmove
    · exact currentDir_of_ok d hmove
  · intro table tokens env world failure hfailed
    obtain hstays | ⟨path, control, hresult, -⟩ := dispatch_cases d table tokens env world
    · exact hstays
    · rw [hfailed] at hresult
      cases hresult
  · intro envs n hmoves
    have hdirs : ∀ i < n, (envs (i + 1)).currentDir = (envs i).currentDir.join dot := by
      intro i hi
      obtain ⟨world, world', hmove, hnone⟩ := hmoves i hi
      rw [currentDir_of_ok d hmove, hnone, Option.getD_none]
    exact ⟨components_of_dots (fun i => (envs i).currentDir) n hdirs, fun hne hlast =>
      text_of_dots (fun i => (envs i).currentDir) hne hlast n hdirs⟩
  · intro env env' path world world' habsolute hmove hnone
    rw [currentDir_of_ok d hmove, hnone, Option.getD_none, join_of_absolute _ habsolute]

end MiniShell
