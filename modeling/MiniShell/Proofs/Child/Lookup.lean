import MiniShell.Host.Layout
import MiniShell.Proofs.Child.Launch

/-!
# The search for a program

The directories of a search path are tried in their order, and each candidate is the text of the
directory with the text of the name behind it.

1. To search one list of directories after another is to search the first and, only if nothing is
   found there, the second (`resolve_append`). Nothing is assumed of the system for that.
2. Where a predicate on paths says what may be executed, the program is the first candidate that it
   holds of (`Accesses.resolve_run`, `lookup_eq_some_iff`, `lookup_eq_none_iff`).
3. What is found holds no NUL byte, and neither does its name (`hasNul_of_resolve`). So a NUL byte
   in a directory or in the name of a command is a program that is not there, and the later
   arguments are the only place where it makes an argument invalid (`becomeProgram_run`,
   `runCommand_invalidArgument_iff`, `runCommand_notFound_iff`).

`resolve_first_match` puts these together.
-/

namespace MiniShell

variable {World Process : Type} {sys : System World Process} {search : SearchPath}
  {process : Process} {name program : String} {world : World}

/-! ## Two lists of directories -/

theorem firstExecutable_append (sys : System World Process) (process : Process)
    (paths more : List String) :
    firstExecutable sys process (paths ++ more) = (do
      match ← firstExecutable sys process paths with
      | some program => pure (some program)
      | none => firstExecutable sys process more) := by
  induction paths with
  | nil => rfl
  | cons path paths ih =>
    funext world
    show (firstExecutable sys process (path :: (paths ++ more))).run world =
      (firstExecutable sys process (path :: paths) >>= _ : StateM World _).run world
    rw [firstExecutable, firstExecutable, ih, run_bind, run_bind, run_bind]
    cases ((isExecutable sys process path).run world).1 <;> rfl

theorem candidates_append (dirs more : List String) (name : String) :
    (⟨dirs ++ more⟩ : SearchPath).candidates name =
      (⟨dirs⟩ : SearchPath).candidates name ++ (⟨more⟩ : SearchPath).candidates name :=
  List.map_append

/-- The second list is searched only if nothing is found in the first. -/
theorem resolve_append (sys : System World Process) (process : Process) (name : String)
    (dirs more : List String) :
    (⟨dirs ++ more⟩ : SearchPath).resolve sys process name = (do
      match ← (⟨dirs⟩ : SearchPath).resolve sys process name with
      | some program => pure (some program)
      | none => (⟨more⟩ : SearchPath).resolve sys process name) := by
  unfold SearchPath.resolve
  cases name.isEmpty with
  | true => rfl
  | false =>
    simp only [Bool.false_eq_true, if_false]
    rw [candidates_append, firstExecutable_append]

/-- Directories at the end make no difference to what is found before. -/
theorem resolve_append_of_some {dirs : List String} {after : World}
    (h : ((⟨dirs⟩ : SearchPath).resolve sys process name).run world = (some program, after))
    (more : List String) :
    ((⟨dirs ++ more⟩ : SearchPath).resolve sys process name).run world =
      (some program, after) := by
  rw [resolve_append, run_bind, h]
  rfl

/-! ## A predicate on paths -/

/-- In this world, `access` says which paths the process may execute, and asking changes nothing.
No path with a NUL byte is one of them. -/
structure Accesses (sys : System World Process) (process : Process) (world : World)
    (access : Path → Bool) : Prop where
  isExecutable : ∀ path, hasNul path = false →
    (sys.isExecutable process path).run world = (access path, world)
  nul : ∀ path, hasNul path = true → access path = false

/-- The program that a name stands for, where `access` says what may be executed. -/
def SearchPath.lookup (search : SearchPath) (access : Path → Bool) (name : String) :
    Option String :=
  if name = "" then none else (search.candidates name).find? fun path => access (utf8 path)

namespace Accesses

variable {access : Path → Bool} (h : Accesses sys process world access)

include h

theorem isExecutable_run (path : String) :
    (MiniShell.isExecutable sys process path).run world = (access (utf8 path), world) := by
  unfold MiniShell.isExecutable
  by_cases hnul : hasNul (utf8 path) = true
  · rw [if_pos hnul, h.nul _ hnul]
    rfl
  · rw [if_neg hnul]
    exact h.isExecutable _ (Bool.not_eq_true _ ▸ hnul)

/-- One step: the candidate is found, or the search goes on in the same world. -/
theorem firstExecutable_cons (path : String) (paths : List String) :
    (firstExecutable sys process (path :: paths)).run world =
      if access (utf8 path) then (some path, world)
      else (firstExecutable sys process paths).run world := by
  rw [firstExecutable, run_bind, h.isExecutable_run]
  cases access (utf8 path) <;> rfl

theorem firstExecutable_run (paths : List String) :
    (firstExecutable sys process paths).run world =
      (paths.find? fun path => access (utf8 path), world) := by
  induction paths with
  | nil => rfl
  | cons path paths ih =>
    rw [h.firstExecutable_cons, ih, List.find?_cons]
    cases access (utf8 path) <;> rfl

theorem resolve_run (search : SearchPath) (name : String) :
    (search.resolve sys process name).run world = (search.lookup access name, world) := by
  unfold SearchPath.resolve SearchPath.lookup
  by_cases hname : name = ""
  · subst hname
    rfl
  · rw [if_neg hname, if_neg (by simpa using hname)]
    exact h.firstExecutable_run _

end Accesses

section Lookup

variable {access : Path → Bool}

/-- The program is the first candidate that may be executed. -/
theorem lookup_eq_some_iff :
    search.lookup access name = some program ↔
      name ≠ "" ∧ ∃ before dir after, search.dirs = before ++ dir :: after ∧
        program = dir ++ name ∧ access (utf8 (dir ++ name)) = true ∧
        ∀ earlier ∈ before, access (utf8 (earlier ++ name)) = false := by
  unfold SearchPath.lookup SearchPath.candidates
  by_cases hname : name = ""
  · simp [hname]
  · rw [if_neg hname, List.find?_map, Option.map_eq_some_iff]
    simp only [List.find?_eq_some_iff_append, Function.comp_apply, Bool.not_eq_true']
    constructor
    · rintro ⟨dir, ⟨haccess, before, after, hdirs, hbefore⟩, rfl⟩
      exact ⟨hname, before, dir, after, hdirs, rfl, haccess, hbefore⟩
    · rintro ⟨-, before, dir, after, hdirs, rfl, haccess, hbefore⟩
      exact ⟨dir, ⟨haccess, before, after, hdirs, hbefore⟩, rfl⟩

theorem lookup_eq_none_iff :
    search.lookup access name = none ↔
      name = "" ∨ ∀ dir ∈ search.dirs, access (utf8 (dir ++ name)) = false := by
  unfold SearchPath.lookup SearchPath.candidates
  by_cases hname : name = "" <;> simp [hname]

/-- Nothing is joined: a name that looks like an absolute path is looked for behind each directory
all the same. -/
example : SearchPath.standard.lookup (· == utf8 "/usr/bin//bin/ls") "/bin/ls" =
    some "/usr/bin//bin/ls" := by decide

end Lookup

/-! ## NUL bytes -/

theorem utf8_append (text more : String) : utf8 (text ++ more) = utf8 text ++ utf8 more := by
  simp [utf8]

theorem hasNul_append (bytes more : Bytes) :
    hasNul (bytes ++ more) = (hasNul bytes || hasNul more) := by
  simp [hasNul]

/-- The search is one of those that the decision table of a child knows. -/
theorem resolve_lookedUp (sys : System World Process) (search : SearchPath) (process : Process)
    (name : String) (world : World) :
    ∃ calls,
      LookedUp search process name ((search.resolve sys process name).run world).1 calls := by
  obtain ⟨calls, found, after, hrun, hlookup⟩ := resolve_makes sys search process name world []
  rw [((similar_recorded sys).resolve search process name).run_eq hrun]
  exact ⟨calls, hlookup⟩

/-- A program that is found holds no NUL byte, and so neither does its name. -/
theorem hasNul_of_resolve {after : World}
    (h : (search.resolve sys process name).run world = (some program, after)) :
    hasNul (utf8 program) = false ∧ hasNul (utf8 name) = false := by
  obtain ⟨calls, hlookup⟩ := resolve_lookedUp sys search process name world
  rw [h] at hlookup
  refine ⟨hlookup.hasNul_eq_false, ?_⟩
  cases hlookup with
  | found _ hcandidates hnul =>
    have hmem : program ∈ search.candidates name := by simp [hcandidates]
    obtain ⟨dir, -, rfl⟩ := List.mem_map.mp hmem
    rw [utf8_append, hasNul_append, Bool.or_eq_false_iff] at hnul
    exact hnul.2

/-! ## Becoming a program -/

/-- Only the arguments behind the name are left to be looked at for a NUL byte. -/
theorem any_hasNul_eq {tokens : List String} (hprogram : hasNul (utf8 program) = false)
    (hname : hasNul (utf8 (tokens.headD "")) = false) :
    (hasNul (utf8 program) || (tokens.map utf8).any hasNul) =
      tokens.tail.any fun token => hasNul (utf8 token) := by
  cases tokens with
  | nil => rw [hprogram]; rfl
  | cons token tokens =>
    rw [List.headD_cons] at hname
    simp [hprogram, hname, Function.comp_def]

/-- Of what is found, neither the path nor the name is ever refused for a NUL byte. -/
theorem becomeProgram_run (sys : System World Process) (search : SearchPath) (process : Process)
    (t : Tokens) (world : World) :
    (becomeProgram sys search process t).run world =
      match (search.resolve sys process (t.toList.headD "")).run world with
      | (none, after) => (.error (.notFound (t.toList.headD "")), after)
      | (some program, after) =>
        if t.toList.tail.any fun token => hasNul (utf8 token) then (.error .invalidArgument, after)
        else match (sys.execute process (utf8 program) (t.toList.map utf8)).run after with
          | (.error errno, ended) => (.error (.exec (utf8 program) errno), ended)
          | (.ok status, ended) => (.ok status, ended) := by
  rw [becomeProgram, run_bind, Tokens.getD_name?]
  rcases hfound : (search.resolve sys process (t.toList.headD "")).run world with
    ⟨_ | program, after⟩
  · rfl
  · obtain ⟨hprogram, hhead⟩ := hasNul_of_resolve hfound
    dsimp only
    rw [any_hasNul_eq hprogram hhead]
    split
    · rfl
    · rw [run_bind]
      rcases (sys.execute process (utf8 program) (t.toList.map utf8)).run after with
        ⟨errno | status, ended⟩ <;> rfl

theorem becomeProgram_invalidArgument_iff (t : Tokens) :
    ((becomeProgram sys search process t).run world).1 = .error .invalidArgument ↔
      ((search.resolve sys process (t.toList.headD "")).run world).1.isSome = true ∧
        ∃ token ∈ t.toList.tail, hasNul (utf8 token) = true := by
  rw [becomeProgram_run, ← List.any_eq_true]
  rcases (search.resolve sys process (t.toList.headD "")).run world with ⟨_ | program, after⟩
  · simp
  · dsimp only
    split
    · next hany => simp [hany]
    · next hany =>
      rcases (sys.execute process (utf8 program) (t.toList.map utf8)).run after with
        ⟨errno | status, ended⟩ <;> simp [hany]

theorem becomeProgram_notFound_iff (t : Tokens) {missing : String} :
    ((becomeProgram sys search process t).run world).1 = .error (.notFound missing) ↔
      missing = t.toList.headD "" ∧
        ((search.resolve sys process (t.toList.headD "")).run world).1 = none := by
  rw [becomeProgram_run]
  rcases (search.resolve sys process (t.toList.headD "")).run world with ⟨_ | program, after⟩
  · simp [eq_comm]
  · dsimp only
    split
    · simp
    · rcases (sys.execute process (utf8 program) (t.toList.map utf8)).run after with
        ⟨errno | status, ended⟩ <;> simp

/-! ## The whole command -/

/-- Points the streams of a child where they should go. -/
def Redirection.apply (sys : System World Process) (process : Process) :
    Redirection → StateM World (Except Failure Unit × Process)
  | .absent => pure (.ok (), process)
  | .file target => redirectOutput sys process (utf8 target)
  | .malformed => pure (.error .redirectSyntax, process)

/-- The streams are pointed first, and then the rest of the tokens become a program. -/
theorem runCommand_eq (sys : System World Process) (search : SearchPath) (process : Process)
    (t : Tokens) :
    runCommand sys search process t = (do
      match ← t.redirection.apply sys process with
      | (.error failure, process') => pure (.error failure, process')
      | (.ok (), process') =>
        pure (← becomeProgram sys search process' { t with toList := t.command }, process')) := by
  unfold runCommand
  rw [Tokens.takeRedirection_eq]
  cases hredirection : t.redirection with
  | malformed => rfl
  | absent => rw [Tokens.command_of_absent hredirection]; rfl
  | file target => rfl

theorem openTarget_failure {target : Path} {failure : Failure} {after : World}
    (h : (openTarget sys process target).run world = (.error failure, after)) :
    ∃ cause, failure = .redirectOpen target cause := by
  rw [openTarget, run_bind] at h
  rcases hask : (askAbout target (sys.create process target redirectMode)).run world with
    ⟨cause | opened, made⟩
  · rw [hask] at h
    cases h
    exact ⟨cause, rfl⟩
  · rw [hask] at h
    cases h

theorem redirectOutput_failure {target : Path} {failure : Failure} {pointed : Process}
    {after : World}
    (h : (redirectOutput sys process target).run world = ((.error failure, pointed), after)) :
    (∃ cause, failure = .redirectOpen target cause) ∨ ∃ errno, failure = .redirect errno := by
  rw [redirectOutput, run_bind] at h
  rcases hopen : (openTarget sys process target).run world with
    ⟨unopened | ⟨descriptor, opened⟩, made⟩
  · rw [hopen] at h
    cases h
    exact .inl (openTarget_failure hopen)
  rw [hopen] at h
  dsimp only at h
  rw [run_bind] at h
  rcases houtput : (sys.duplicate opened descriptor standardOutput).run made with
    ⟨errno | halfway, first⟩
  · rw [houtput] at h
    cases h
    exact .inr ⟨errno, rfl⟩
  rw [houtput] at h
  dsimp only at h
  rw [run_bind] at h
  rcases herror : (sys.duplicate halfway descriptor standardError).run first with
    ⟨errno | both, second⟩
  · rw [herror] at h
    cases h
    exact .inr ⟨errno, rfl⟩
  · rw [herror] at h
    cases h

/-- The failures of a redirection. -/
def Failure.concernsRedirection : Failure → Bool
  | .redirectSyntax | .redirectOpen .. | .redirect _ => true
  | _ => false

/-- What goes wrong with the streams is put down to the redirection. -/
theorem apply_failure {redirection : Redirection} {failure : Failure} {pointed : Process}
    {after : World}
    (h : (redirection.apply sys process).run world = ((.error failure, pointed), after)) :
    failure.concernsRedirection = true := by
  cases redirection with
  | absent => cases h
  | malformed =>
    cases h
    rfl
  | file target => obtain ⟨cause, rfl⟩ | ⟨errno, rfl⟩ := redirectOutput_failure h <;> rfl

/-- Any other failure comes after the streams have been pointed. -/
theorem runCommand_failure_iff (t : Tokens) {failure : Failure}
    (hother : failure.concernsRedirection = false) :
    ((runCommand sys search process t).run world).1.1 = .error failure ↔
      ∃ pointed between,
        (t.redirection.apply sys process).run world = ((.ok (), pointed), between) ∧
        ((becomeProgram sys search pointed { t with toList := t.command }).run between).1 =
          .error failure := by
  rw [runCommand_eq, run_bind]
  rcases happly : (t.redirection.apply sys process).run world with
    ⟨⟨unpointed | _, pointed⟩, between⟩
  · constructor
    · rintro ⟨⟩
      rw [apply_failure happly] at hother
      cases hother
    · rintro ⟨_, _, hpointed, -⟩
      cases hpointed
  · constructor
    · intro h
      exact ⟨pointed, between, rfl, h⟩
    · rintro ⟨_, _, hpointed, h⟩
      cases hpointed
      exact h

/-- An argument is invalid if a program is found and one of the arguments holds a NUL byte. -/
theorem runCommand_invalidArgument_iff (t : Tokens) :
    ((runCommand sys search process t).run world).1.1 = .error .invalidArgument ↔
      ∃ pointed between,
        (t.redirection.apply sys process).run world = ((.ok (), pointed), between) ∧
        ((search.resolve sys pointed (t.command.headD "")).run between).1.isSome = true ∧
        ∃ token ∈ t.command.tail, hasNul (utf8 token) = true := by
  rw [runCommand_failure_iff t rfl]
  simp only [becomeProgram_invalidArgument_iff]

theorem runCommand_notFound_iff (t : Tokens) {missing : String} :
    ((runCommand sys search process t).run world).1.1 = .error (.notFound missing) ↔
      missing = t.command.headD "" ∧
      ∃ pointed between,
        (t.redirection.apply sys process).run world = ((.ok (), pointed), between) ∧
        ((search.resolve sys pointed missing).run between).1 = none := by
  rw [runCommand_failure_iff t rfl]
  simp only [becomeProgram_notFound_iff]
  constructor
  · rintro ⟨pointed, between, happly, rfl, hnone⟩
    exact ⟨rfl, pointed, between, happly, hnone⟩
  · rintro ⟨rfl, pointed, between, happly, hnone⟩
    exact ⟨pointed, between, happly, rfl, hnone⟩

/-- **First match.** The empty name stands for no program. Where a predicate says what may be
executed, any other name stands for the first directory, with the name behind it, that the
predicate holds of, and for none if there is no such directory. Whatever the system answers, two
lists of directories in a row are searched one after the other, the second only if nothing is found
in the first, and so directories at the end make no difference to what is found before. What is
found holds no NUL byte, and nor does its name. So of a command with its streams in place, a name
for which nothing is found is a program that is not there, and an argument is invalid exactly if a
program is found and a token behind the name, in front of the operator, holds a NUL byte. -/
theorem resolve_first_match (sys : System World Process) (process : Process) :
    (∀ search : SearchPath, search.resolve sys process "" = pure none) ∧
    (∀ (search : SearchPath) name world access, Accesses sys process world access →
      ∃ found, (search.resolve sys process name).run world = (found, world) ∧
        (∀ program, found = some program ↔ name ≠ "" ∧ ∃ before dir after,
          search.dirs = before ++ dir :: after ∧ program = dir ++ name ∧
            access (utf8 (dir ++ name)) = true ∧
            ∀ earlier ∈ before, access (utf8 (earlier ++ name)) = false) ∧
        (found = none ↔ name = "" ∨ ∀ dir ∈ search.dirs, access (utf8 (dir ++ name)) = false)) ∧
    (∀ dirs more name, (⟨dirs ++ more⟩ : SearchPath).resolve sys process name = do
      match ← (⟨dirs⟩ : SearchPath).resolve sys process name with
      | some program => pure (some program)
      | none => (⟨more⟩ : SearchPath).resolve sys process name) ∧
    (∀ dirs more name world program after,
      ((⟨dirs⟩ : SearchPath).resolve sys process name).run world = (some program, after) →
        ((⟨dirs ++ more⟩ : SearchPath).resolve sys process name).run world =
          (some program, after)) ∧
    (∀ (search : SearchPath) name world program after,
      (search.resolve sys process name).run world = (some program, after) →
        hasNul (utf8 program) = false ∧ hasNul (utf8 name) = false) ∧
    ∀ search t world,
      (((runCommand sys search process t).run world).1.1 = .error .invalidArgument ↔
        ∃ pointed between,
          (t.redirection.apply sys process).run world = ((.ok (), pointed), between) ∧
          ((search.resolve sys pointed (t.command.headD "")).run between).1.isSome = true ∧
          ∃ token ∈ t.command.tail, hasNul (utf8 token) = true) ∧
      ∀ missing, ((runCommand sys search process t).run world).1.1 = .error (.notFound missing) ↔
        missing = t.command.headD "" ∧ ∃ pointed between,
          (t.redirection.apply sys process).run world = ((.ok (), pointed), between) ∧
          ((search.resolve sys pointed missing).run between).1 = none := by
  refine ⟨fun _ => rfl, fun search name world access h => ?_,
    fun dirs more name => resolve_append sys process name dirs more,
    fun dirs more name world program after h => resolve_append_of_some h more,
    fun search name world program after => hasNul_of_resolve,
    fun search t world => ⟨runCommand_invalidArgument_iff t, fun _ => runCommand_notFound_iff t⟩⟩
  exact ⟨search.lookup access name, h.resolve_run search name, fun _ => lookup_eq_some_iff,
    lookup_eq_none_iff⟩

/-- The machine answers by a predicate on paths. -/
theorem Host.accesses (m : Host.Machine) (p : Host.Process) :
    Accesses Host.system p m fun path =>
      !hasNul path && (m.find p.workingDir path).toOption.any m.mayExecute where
  isExecutable path hnul := by rw [hnul]; rfl
  nul path hnul := by rw [hnul]; rfl

/-- A directory without a slash and a name with one make a path together, behind a directory with a
NUL byte and one that is not there. -/
theorem resolve_first_match_of_split_path :
    let host := Host.start [] []
    let search : SearchPath := ⟨["\x00/", "missing/", "/usr/bi", "/bi"]⟩
    let outcome := fun words =>
      ((runCommand Host.system search host.process ⟨words, 10⟩).run host.machine).1.1
    (∃ access, Accesses Host.system host.process host.machine access) ∧
      (search.resolve Host.system host.process "n/echo").run host.machine =
        (some "/usr/bin/echo", host.machine) ∧
      outcome ["n/echo", "a\x00b", ">", "out"] = .error .invalidArgument ∧
      outcome ["n/ec\x00ho", "a"] = .error (.notFound "n/ec\x00ho") ∧
      outcome ["n/echo", "a", ">", "o\x00t"] ≠ .error .invalidArgument := by
  intro host search outcome
  have haccess := Host.accesses host.machine host.process
  obtain ⟨-, hfirst, -, -, hnul, hcommand⟩ := resolve_first_match Host.system host.process
  have hfound : (search.resolve Host.system host.process "n/echo").run host.machine =
      (some "/usr/bin/echo", host.machine) := by
    obtain ⟨found, hrun, hsome, -⟩ := hfirst search "n/echo" host.machine _ haccess
    rw [hrun, (hsome "/usr/bin/echo").mpr ⟨by decide, ["\x00/", "missing/"], "/usr/bi", ["/bi"],
      rfl, by decide, by decide +kernel, by decide +kernel⟩]
  refine ⟨⟨_, haccess⟩, hfound, ?_, ?_, ?_⟩
  · let streams := (Redirection.apply Host.system host.process (.file "out")).run host.machine
    have hpointed : streams.1.1.isOk = true := by decide +kernel
    have hlookup : ((search.resolve Host.system streams.1.2 "n/echo").run streams.2).1.isSome =
        true := by
      decide +kernel
    rcases happly : streams with ⟨⟨failure | _, pointed⟩, between⟩
    · rw [happly] at hpointed
      cases hpointed
    · rw [happly] at hlookup
      exact (hcommand search ⟨["n/echo", "a\x00b", ">", "out"], 10⟩ host.machine).1.mpr
        ⟨pointed, between, happly, hlookup, "a\x00b", by decide, by decide⟩
  · refine ((hcommand search ⟨["n/ec\x00ho", "a"], 10⟩ host.machine).2 _).mpr
      ⟨rfl, host.process, host.machine, rfl, ?_⟩
    rcases hlookup : (search.resolve Host.system host.process "n/ec\x00ho").run host.machine with
      ⟨_ | program, after⟩
    · rfl
    · exact absurd (hnul search _ _ program after hlookup).2 (by decide)
  · intro hinvalid
    obtain ⟨-, -, -, -, token, htoken, hbad⟩ :=
      (hcommand search ⟨["n/echo", "a", ">", "o\x00t"], 10⟩ host.machine).1.mp hinvalid
    have hcommand : (⟨["n/echo", "a", ">", "o\x00t"], 10⟩ : Tokens).command.tail = ["a"] := by
      decide
    rw [hcommand, List.mem_singleton] at htoken
    subst htoken
    exact absurd hbad (by decide)

end MiniShell
