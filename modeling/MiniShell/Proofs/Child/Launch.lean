import MiniShell.Proofs.Child.Fate

/-!
# Children follow the decision table

Function by function, from the lookup of one candidate to the launch of a command, the calls that
are made are those of the decision table (`runChild_makes`, `launch_makes`). Nothing is assumed of
the system.
-/

namespace MiniShell

variable {World Process α : Type} {search : SearchPath} {process : Process} {t : Tokens}

/-! ## Opening the target -/

/-- A path with a NUL byte is refused, and the system is asked about any other. -/
theorem askAbout_makes (path : Path) (call : Except Errno α → Call Process)
    (action : StateM World (Except Errno α)) :
    Makes (askAbout path (noted call action)) fun calls answer =>
      (hasNul path = true ∧ calls = [] ∧ answer = .error .nulInPath) ∨
        (hasNul path = false ∧
          ∃ given, calls = [call given] ∧ answer = given.mapError .system) := by
  unfold askAbout
  by_cases hnul : hasNul path = true
  · rw [if_pos hnul]
    exact .pure (.inl ⟨hnul, rfl, rfl⟩)
  · rw [if_neg hnul]
    rw [Bool.not_eq_true] at hnul
    refine .noted fun given => ?_
    cases given with
    | error errno => exact .pure (.inr ⟨hnul, .error errno, rfl, rfl⟩)
    | ok a => exact .pure (.inr ⟨hnul, .ok a, rfl, rfl⟩)

theorem openTarget_makes (sys : System World Process) (process : Process) (target : Path) :
    Makes (openTarget sys.recorded process target) fun calls answer =>
      match answer with
      | .error _ => Unopened process target calls
      | .ok opened => hasNul target = false ∧
        calls = [.create process target redirectMode (.ok opened)] := by
  refine .bind (askAbout_makes target _ _) fun calls answer h => ?_
  obtain ⟨hnul, rfl, rfl⟩ | ⟨hnul, given, rfl, rfl⟩ := h
  · exact .pure (.nul hnul)
  · cases given with
    | error errno => exact .pure (.refused hnul errno)
    | ok opened => exact .pure ⟨hnul, rfl⟩

/-- The streams are pointed at the target, or the target is not opened, or one of the streams
stays where it is. -/
theorem redirectOutput_makes (sys : System World Process) (process : Process) (target : String) :
    Makes (redirectOutput sys.recorded process (utf8 target)) fun calls answer =>
      match answer with
      | (.ok (), process') => Pointed process (.file target) calls process'
      | (.error _, process') => Unopened process (utf8 target) calls ∧ process' = process ∨
        Unpointed process (utf8 target) calls process' := by
  refine .bind (openTarget_makes sys process (utf8 target)) fun calls answer h => ?_
  cases answer with
  | error failure => exact .pure (.inl ⟨by rwa [List.append_nil], rfl⟩)
  | ok opened =>
    obtain ⟨hnul, rfl⟩ := h
    refine .noted fun answer => ?_
    rcases answer with errno | halfway
    · exact .noted fun closed => .pure (.inr (.output hnul errno))
    refine .noted fun answer => ?_
    rcases answer with errno | pointed
    · exact .noted fun closed => .pure (.inr (.error hnul errno))
    · exact .noted fun closed => .pure (.file hnul)

/-! ## Becoming a program -/

theorem isExecutable_makes (sys : System World Process) (process : Process) (path : String) :
    Makes (isExecutable sys.recorded process path) fun calls answer =>
      (hasNul (utf8 path) = true ∧ calls = [] ∧ answer = false) ∨
        (hasNul (utf8 path) = false ∧ calls = [.isExecutable process (utf8 path) answer]) := by
  unfold isExecutable
  by_cases hnul : hasNul (utf8 path) = true
  · rw [if_pos hnul]
    exact .pure (.inl ⟨hnul, rfl, rfl⟩)
  · rw [if_neg hnul]
    rw [Bool.not_eq_true] at hnul
    rw [← bind_pure (sys.recorded.isExecutable process (utf8 path))]
    exact .noted fun answer => .pure (.inr ⟨hnul, rfl⟩)

/-- A denied candidate is on record unless it holds a NUL byte. -/
theorem denials_cons (process : Process) (path : String) (paths : List String) :
    denials process (path :: paths) =
      (if hasNul (utf8 path) then [] else [.isExecutable process (utf8 path) false]) ++
        denials process paths := by
  unfold denials
  rw [List.filter_cons]
  cases hasNul (utf8 path) <;> rfl

/-- Candidates are tried in order, and none after the first that may be executed. -/
theorem firstExecutable_makes (sys : System World Process) (process : Process)
    (paths : List String) :
    Makes (firstExecutable sys.recorded process paths) fun calls found =>
      match found with
      | none => calls = denials process paths
      | some program => ∃ before after, paths = before ++ program :: after ∧
        hasNul (utf8 program) = false ∧
        calls = denials process before ++ [.isExecutable process (utf8 program) true] := by
  induction paths with
  | nil => exact .pure rfl
  | cons path paths ih =>
    refine .bind (isExecutable_makes sys process path) fun calls answer h => ?_
    cases answer with
    | true =>
      obtain ⟨-, -, hfalse⟩ | ⟨hnul, rfl⟩ := h
      · exact absurd hfalse Bool.noConfusion
      · exact .pure ⟨[], paths, rfl, hnul, rfl⟩
    | false =>
      -- Denied, the candidate joins those in front of the one that is found.
      have hcalls : ∀ paths, calls ++ denials process paths = denials process (path :: paths) := by
        intro paths
        obtain ⟨hnul, rfl, -⟩ | ⟨hnul, rfl⟩ := h <;> rw [denials_cons, hnul] <;> rfl
      refine ih.mono fun more found hmore => ?_
      cases found with
      | none => exact hmore ▸ hcalls paths
      | some program =>
        obtain ⟨before, after, rfl, hnul, rfl⟩ := hmore
        refine ⟨path :: before, after, rfl, hnul, ?_⟩
        rw [← hcalls before, List.append_assoc]

theorem resolve_makes (sys : System World Process) (search : SearchPath) (process : Process)
    (name : String) :
    Makes (search.resolve sys.recorded process name) fun calls found =>
      LookedUp search process name found calls := by
  unfold SearchPath.resolve
  by_cases hname : name.isEmpty = true
  · rw [if_pos hname]
    exact .pure (.unnamed (String.isEmpty_iff.mp hname))
  · rw [if_neg hname]
    have hne : name ≠ "" := fun heq => hname (String.isEmpty_iff.mpr heq)
    refine (firstExecutable_makes sys process _).mono fun calls found h => ?_
    cases found with
    | none => exact h ▸ .missing hne
    | some program =>
      obtain ⟨before, after, hcandidates, hnul, rfl⟩ := h
      exact .found hne hcandidates hnul

theorem LookedUp.hasNul_eq_false {name program : String} {calls : Record Process}
    (h : LookedUp search process name (some program) calls) : hasNul (utf8 program) = false := by
  cases h with
  | found _ _ hnul => exact hnul

theorem Tokens.getD_name? (t : Tokens) (default : String) :
    t.name?.getD default = t.toList.headD default := by
  rw [Tokens.name?, Tokens.get?]
  cases t.toList <;> rfl

theorem becomeProgram_makes (sys : System World Process) (search : SearchPath)
    (process : Process) (t : Tokens) :
    Makes (becomeProgram sys.recorded search process t) fun calls answer =>
      match answer with
      | .ok status => Started search process t.toList calls status
      | .error _ => Unstarted search process t.toList calls := by
  unfold becomeProgram
  rw [t.getD_name?]
  refine .bind (resolve_makes sys search process _) fun lookups found hlookup => ?_
  cases found with
  | none => exact .pure (by rw [List.append_nil]; exact .missing hlookup)
  | some program =>
    dsimp only
    rw [hlookup.hasNul_eq_false, Bool.false_or, List.any_map]
    by_cases hany : t.toList.any (hasNul ∘ utf8) = true
    · rw [if_pos hany]
      have hnul : ∃ token ∈ t.toList, hasNul (utf8 token) = true := List.any_eq_true.mp hany
      exact .pure (by rw [List.append_nil]; exact .nul hlookup hnul)
    · rw [if_neg hany]
      have hnul : ∀ token ∈ t.toList, hasNul (utf8 token) = false := by
        intro token htoken
        rw [← Bool.not_eq_true]
        exact fun h => hany (List.any_eq_true.mpr ⟨token, htoken, h⟩)
      refine .noted fun answer => ?_
      cases answer with
      | error errno => exact .pure (.refused hlookup hnul errno)
      | ok status => exact .pure (.found hlookup hnul status)

/-! ## The whole child -/

/-- A child whose streams are where they should be becomes a program or reports. -/
theorem becomeProgram_after (sys : System World Process) (search : SearchPath)
    {process process' : Process} {t command : Tokens} {opening : Record Process}
    (hopening : Pointed process t.redirection opening process')
    (hcommand : command.toList = t.command) :
    Makes (do pure (← becomeProgram sys.recorded search process' command, process'))
      fun calls answer =>
        match answer with
        | (.ok status, _) => ChildRun search process t .ran (opening ++ calls) status
        | (.error _, process'') => ∃ fate,
          ChildRun search process t fate (opening ++ calls ++ [.report process'']) (.exited 0) := by
  refine .bind (becomeProgram_makes sys search process' command) fun calls answer h => ?_
  rw [hcommand] at h
  cases answer with
  | ok status => exact .pure (by rw [List.append_nil]; exact .ran hopening h)
  | error failure =>
    refine .pure ⟨.unstarted, ?_⟩
    rw [List.append_nil, List.append_assoc]
    exact .unstarted hopening h

/-- The command runs, or what it comes to is in the table once it has been reported. -/
theorem runCommand_makes (sys : System World Process) (search : SearchPath) (process : Process)
    (t : Tokens) :
    Makes (runCommand sys.recorded search process t) fun calls answer =>
      match answer with
      | (.ok status, _) => ChildRun search process t .ran calls status
      | (.error _, process') =>
        ∃ fate, ChildRun search process t fate (calls ++ [.report process']) (.exited 0) := by
  unfold runCommand
  rw [Tokens.takeRedirection_eq]
  cases hredirection : t.redirection with
  | malformed => exact .pure ⟨.malformed, .malformed hredirection⟩
  | absent =>
    have hopening : Pointed process t.redirection [] process := hredirection ▸ .absent
    exact becomeProgram_after sys search hopening (Tokens.command_of_absent hredirection).symm
  | file target =>
    refine .bind (redirectOutput_makes sys process target) fun opening answer h => ?_
    rcases answer with ⟨failure | _, process'⟩
    · refine .pure ?_
      rw [List.append_nil]
      obtain ⟨hopening, rfl⟩ | hopening := h
      · exact ⟨.unopened, .unopened hredirection hopening⟩
      · exact ⟨.unpointed, .unpointed hredirection hopening⟩
    · have hopening : Pointed process t.redirection opening process' := hredirection ▸ h
      exact becomeProgram_after sys search hopening rfl

theorem reportError_makes (sys : System World Process) (process : Process) :
    Makes (reportError sys.recorded process) fun calls _ => calls = [.report process] :=
  fun world _ => ⟨_, _, ((sys.write process standardError _).run world).2, rfl, rfl⟩

/-- **A child.** Whatever the system answers, the calls of a child and the status it ends with are
a row of the decision table. -/
theorem runChild_makes (sys : System World Process) (search : SearchPath) (process : Process)
    (t : Tokens) :
    Makes (runChild sys.recorded search process t) fun calls status =>
      ∃ fate, ChildRun search process t fate calls status := by
  refine .bind (runCommand_makes sys search process t) fun calls answer h => ?_
  rcases answer with ⟨failure | status, process'⟩
  · refine .bind (reportError_makes sys process') fun calls _ hcalls => ?_
    exact .pure (hcalls ▸ h)
  · refine .pure ⟨.ran, ?_⟩
    rwa [List.append_nil]

/-! ## The launch of a command -/

/-- What the shell does for an external command, and what it learns. -/
inductive LaunchRun (search : SearchPath) (process : Process) (t : Tokens) :
    Record Process → Except Failure Status → Prop where
  | unforked (errno : Errno) :
    LaunchRun search process t [.fork (.error errno)] (.error (.fork errno))
  | forked {fate : Fate} {calls : Record Process} {status : Status}
    (hchild : ChildRun search process t fate calls status) (ended : Except Errno Status) :
    LaunchRun search process t (.fork (.ok ()) :: (calls ++ [.wait status ended]))
      (ended.mapError .wait)

theorem launch_makes (sys : System World Process) (search : SearchPath) (process : Process)
    (t : Tokens) :
    Makes (launch sys.recorded search process t) (LaunchRun search process t) := by
  refine .noted fun answer => ?_
  cases answer with
  | error errno => exact .pure (.unforked errno)
  | ok _ =>
    refine .bind (runChild_makes sys search process t) fun calls status h => ?_
    obtain ⟨fate, hchild⟩ := h
    refine .noted fun ended => ?_
    cases ended with
    | error errno => exact .pure (.forked hchild (.error errno))
    | ok status => exact .pure (.forked hchild (.ok status))

/-- A stream that stays where it is has been refused by the system. -/
theorem ChildRun.refused {fate : Fate} {calls : Record Process} {status : Status}
    (h : ChildRun search process t fate calls status) (hfate : fate = .unpointed) :
    ∃ process old new errno, .duplicate process old new (.error errno) ∈ calls := by
  subst hfate
  cases h with
  | unpointed _ hopening =>
    cases hopening with
    | output _ errno =>
      exact ⟨_, _, _, errno, List.mem_append_left _ (List.mem_cons_of_mem _ List.mem_cons_self)⟩
    | error _ errno =>
      exact ⟨_, _, _, errno, List.mem_append_left _
        (List.mem_cons_of_mem _ (List.mem_cons_of_mem _ List.mem_cons_self))⟩

end MiniShell
