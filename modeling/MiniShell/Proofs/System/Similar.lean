import MiniShell.Shell

/-!
# Similar systems

Two systems are similar along a relation between their worlds when from related worlds every call
of a command is answered alike and leaves related worlds behind. A line then comes to the same end
on both (`SimilarUnless.executeLine`): the shell has no other way to learn about the world than its
calls.

All this may hold only as long as the second system has not gone astray. What that means is left
open, but for one thing: whoever has gone astray stays so. To compare what two systems do along a
given record, those have gone astray that are no longer on it, and only the calls of the record
matter.

With one system in both places and a relation that holds of equal worlds only, this says what the
calls of a command leave alone.
-/

namespace MiniShell

variable {World World' Process α β : Type}

theorem run_bind (action : StateM World α) (next : α → StateM World β) (world : World) :
    (action >>= next).run world = (next (action.run world).1).run (action.run world).2 := rfl

/-- Two actions answer alike in related worlds and leave related worlds behind, unless the second
goes astray. If it has done so before, it is still astray afterwards. -/
structure AgreeUnless (astray : World' → Prop) (related : World → World' → Prop)
    (action : StateM World α) (other : StateM World' α) : Prop where
  stays : ∀ world', astray world' → astray (other.run world').2
  agrees : ∀ world world', related world world' → ¬ astray (other.run world').2 →
    (action.run world).1 = (other.run world').1 ∧
      related (action.run world).2 (other.run world').2

/-- Two actions answer alike in related worlds, and leave related worlds behind. -/
abbrev Agree (related : World → World' → Prop) (action : StateM World α)
    (other : StateM World' α) : Prop :=
  AgreeUnless (fun _ => False) related action other

namespace AgreeUnless

variable {astray : World' → Prop} {related : World → World' → Prop} {action : StateM World α}
  {other : StateM World' α}

theorem pure (a : α) : AgreeUnless astray related (pure a) (pure a) :=
  ⟨fun _ => id, fun _ _ h _ => ⟨rfl, h⟩⟩

theorem bind {next : α → StateM World β} {next' : α → StateM World' β}
    (h : AgreeUnless astray related action other)
    (hnext : ∀ a, AgreeUnless astray related (next a) (next' a)) :
    AgreeUnless astray related (action >>= next) (other >>= next') where
  stays world' hastray := (hnext _).stays _ (h.stays world' hastray)
  agrees world world' hworld hon := by
    rw [run_bind] at hon
    have hfirst : ¬ astray (other.run world').2 := fun hastray => hon ((hnext _).stays _ hastray)
    obtain ⟨hanswer, hafter⟩ := h.agrees world world' hworld hfirst
    rw [← hanswer] at hon
    rw [run_bind, run_bind, ← hanswer]
    exact (hnext _).agrees _ _ hafter hon

end AgreeUnless

section Agree

variable {related : World → World' → Prop} {action : StateM World α} {other : StateM World' α}

theorem Agree.of_forall (h : ∀ world world', related world world' →
    (action.run world).1 = (other.run world').1 ∧
      related (action.run world).2 (other.run world').2) : Agree related action other :=
  ⟨fun _ => id, fun world world' hworld _ => h world world' hworld⟩

theorem AgreeUnless.apply (h : Agree related action other) {world : World} {world' : World'}
    (hworld : related world world') :
    (action.run world).1 = (other.run world').1 ∧
      related (action.run world).2 (other.run world').2 :=
  h.agrees world world' hworld id

end Agree

/-- Two systems answer the calls of a command alike in related worlds, unless the second goes
astray. -/
structure SimilarUnless (astray : World' → Prop) (related : World → World' → Prop)
    (sys : System World Process) (other : System World' Process) : Prop where
  changeDir : ∀ process path,
    AgreeUnless astray related (sys.changeDir process path) (other.changeDir process path)
  currentDir : ∀ process,
    AgreeUnless astray related (sys.currentDir process) (other.currentDir process)
  isExecutable : ∀ process path,
    AgreeUnless astray related (sys.isExecutable process path) (other.isExecutable process path)
  create : ∀ process path mode,
    AgreeUnless astray related (sys.create process path mode) (other.create process path mode)
  duplicate : ∀ process old new,
    AgreeUnless astray related (sys.duplicate process old new) (other.duplicate process old new)
  close : ∀ process descriptor,
    AgreeUnless astray related (sys.close process descriptor) (other.close process descriptor)
  write : ∀ process descriptor bytes,
    AgreeUnless astray related (sys.write process descriptor bytes)
      (other.write process descriptor bytes)
  execute : ∀ process path arguments,
    AgreeUnless astray related (sys.execute process path arguments)
      (other.execute process path arguments)
  fork : AgreeUnless astray related sys.fork other.fork
  wait : ∀ ended, AgreeUnless astray related (sys.wait ended) (other.wait ended)

/-- Two systems answer the calls of a command alike in related worlds. -/
abbrev Similar (related : World → World' → Prop) (sys : System World Process)
    (other : System World' Process) : Prop :=
  SimilarUnless (fun _ => False) related sys other

namespace SimilarUnless

variable {astray : World' → Prop} {related : World → World' → Prop} {sys : System World Process}
  {other : System World' Process}

theorem askAbout {call : StateM World (Except Errno α)} {call' : StateM World' (Except Errno α)}
    (path : Path) (h : AgreeUnless astray related call call') :
    AgreeUnless astray related (askAbout path call) (askAbout path call') := by
  unfold MiniShell.askAbout
  split
  · exact .pure _
  · refine .bind h fun answer => ?_
    cases answer with
    | error errno => exact .pure _
    | ok a => exact .pure _

variable (h : SimilarUnless astray related sys other)

include h

theorem reportError (process : Process) :
    AgreeUnless astray related (reportError sys process) (reportError other process) :=
  h.write process standardError (utf8 errorMessage)

/-! ## Built-ins -/

theorem changeDirOf (env : Environment Process) (path : Path) :
    AgreeUnless astray related (env.changeDir sys path) (env.changeDir other path) := by
  refine .bind (askAbout path (h.changeDir env.process path)) fun answer => ?_
  cases answer with
  | error cause => exact .pure _
  | ok process => exact .bind (h.currentDir process) fun dir => .pure _

theorem perform (env : Environment Process) (builtin : Builtin) (arguments : List String) :
    AgreeUnless astray related (builtin.perform sys env arguments)
      (builtin.perform other env arguments) := by
  unfold Builtin.perform
  split
  · exact .pure _
  · exact .pure _
  · refine .bind (h.changeDirOf env _) fun answer => ?_
    cases answer with
    | error cause => exact .pure _
    | ok env' => exact .pure _
  · exact .pure _

theorem dispatch (table : List Builtin) (tokens : Tokens) (env : Environment Process) :
    AgreeUnless astray related (dispatch sys table tokens env)
      (dispatch other table tokens env) := by
  unfold MiniShell.dispatch
  split
  · exact .pure _
  · rename_i builtin _
    refine .bind ?_ fun answer => .pure _
    unfold Builtin.run
    split
    · exact .pure _
    · exact h.perform env builtin _

/-! ## External commands -/

theorem firstExecutable (process : Process) (paths : List String) :
    AgreeUnless astray related (firstExecutable sys process paths)
      (firstExecutable other process paths) := by
  induction paths with
  | nil => exact .pure _
  | cons path paths ih =>
    refine .bind ?_ fun answer => ?_
    · unfold MiniShell.isExecutable
      split
      · exact .pure _
      · exact h.isExecutable process _
    · cases answer with
      | true => exact .pure _
      | false => exact ih

theorem resolve (search : SearchPath) (process : Process) (name : String) :
    AgreeUnless astray related (search.resolve sys process name)
      (search.resolve other process name) := by
  unfold SearchPath.resolve
  split
  · exact .pure _
  · exact h.firstExecutable process _

theorem openTarget (process : Process) (target : Path) :
    AgreeUnless astray related (openTarget sys process target)
      (openTarget other process target) := by
  refine .bind (askAbout target (h.create process target redirectMode)) fun answer => ?_
  cases answer with
  | error cause => exact .pure _
  | ok opened => exact .pure _

theorem redirectOutput (process : Process) (target : Path) :
    AgreeUnless astray related (redirectOutput sys process target)
      (redirectOutput other process target) := by
  refine .bind (h.openTarget process target) fun answer => ?_
  rcases answer with failure | ⟨descriptor, opened⟩
  · exact .pure _
  refine .bind (h.duplicate opened descriptor standardOutput) fun answer => ?_
  rcases answer with errno | redirected
  · exact .bind (h.close opened descriptor) fun _ => .pure _
  refine .bind (h.duplicate redirected descriptor standardError) fun answer => ?_
  rcases answer with errno | redirected
  · exact .bind (h.close _ descriptor) fun _ => .pure _
  · exact .bind (h.close _ descriptor) fun _ => .pure _

theorem becomeProgram (search : SearchPath) (process : Process) (tokens : Tokens) :
    AgreeUnless astray related (becomeProgram sys search process tokens)
      (becomeProgram other search process tokens) := by
  refine .bind (h.resolve search process _) fun answer => ?_
  cases answer with
  | none => exact .pure _
  | some program =>
    dsimp only
    split
    · exact .pure _
    · refine .bind (h.execute process _ _) fun answer => ?_
      cases answer with
      | error errno => exact .pure _
      | ok status => exact .pure _

theorem runCommand (search : SearchPath) (process : Process) (tokens : Tokens) :
    AgreeUnless astray related (runCommand sys search process tokens)
      (runCommand other search process tokens) := by
  unfold MiniShell.runCommand
  split
  · exact .pure _
  · exact .bind (h.becomeProgram search process _) fun _ => .pure _
  · refine .bind (h.redirectOutput process _) fun answer => ?_
    rcases answer with ⟨failure | _, process⟩
    · exact .pure _
    · exact .bind (h.becomeProgram search process _) fun _ => .pure _

theorem runChild (search : SearchPath) (process : Process) (tokens : Tokens) :
    AgreeUnless astray related (runChild sys search process tokens)
      (runChild other search process tokens) := by
  refine .bind (h.runCommand search process tokens) fun answer => ?_
  rcases answer with ⟨failure | status, process⟩
  · exact .bind (h.reportError process) fun _ => .pure _
  · exact .pure _

theorem launch (search : SearchPath) (process : Process) (tokens : Tokens) :
    AgreeUnless astray related (launch sys search process tokens)
      (launch other search process tokens) := by
  refine .bind h.fork fun answer => ?_
  rcases answer with errno | _
  · exact .pure _
  refine .bind (h.runChild search process tokens) fun status => ?_
  refine .bind (h.wait status) fun answer => ?_
  cases answer with
  | error errno => exact .pure _
  | ok status => exact .pure _

/-- **One line.** A line has the same result on similar systems, and leaves the same shell. -/
theorem executeLine (sh : Shell Process) (line : String) :
    AgreeUnless astray related (sh.executeLine sys line) (sh.executeLine other line) := by
  unfold Shell.executeLine
  dsimp only
  split
  · exact .pure _
  · refine .bind (h.dispatch sh.builtins _ sh.env) fun answer => ?_
    rcases answer with ⟨_ | result, env⟩
    · exact .bind (h.launch _ _ _) fun _ => .pure _
    · exact .pure _

end SimilarUnless

end MiniShell
