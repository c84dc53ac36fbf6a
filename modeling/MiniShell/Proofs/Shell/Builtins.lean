import MiniShell.Proofs.Operands
import MiniShell.Proofs.Shell.Containment
import MiniShell.Proofs.System.Undisturbed

/-!
# Built-ins count their arguments

A built-in declares its operands and is given what a reader finds for them (`Builtin.runWith`). As
the arguments stand behind the marker, any lawful reader makes of a built-in what the shell makes of
it (`runWith_eq_run`, `dispatchWith_eq_dispatch`).

`dispatch_by_count`: the number of arguments decides between a usage error, the end of the session
and a move, and the text of an argument matters for where a move goes and for nothing else. No
built-in takes two arguments, so three tokens are enough to judge it: with more, the shell does what
it would do if it kept all words of the line.
-/

namespace MiniShell

variable {World Process : Type}

/-! ## Built-ins with declared operands -/

namespace Builtin

/-- The operands that a built-in declares. -/
def operands : Builtin → List Operand
  | .exit | .quit => []
  | .cd => [.required]

/-- What a built-in does with what is given for its operands. -/
def execute (sys : System World Process) (env : Environment Process) :
    (builtin : Builtin) → Values builtin.operands →
      StateM World (Except Failure Control × Environment Process)
  | .exit, _ | .quit, _ => pure (.ok (.exit exitSuccess), env)
  | .cd, (target, _) => do
    match ← env.changeDir sys (utf8 target) with
    | .error cause => pure (.error (.changeDir (utf8 target) cause), env)
    | .ok env' => pure (.ok .proceed, env')

/-- Runs a built-in with arguments that are read as operands. -/
def runWith (read : OperandReader) (sys : System World Process) (env : Environment Process)
    (builtin : Builtin) (arguments : List String) :
    StateM World (Except Failure Control × Environment Process) :=
  match read builtin.operands (asOperands arguments) with
  | none => pure (.error (.usage builtin.name), env)
  | some values => builtin.execute sys env values

end Builtin

/-- Runs the tokens as a built-in of the table, the arguments of which are read as operands. -/
def dispatchWith (read : OperandReader) (sys : System World Process) (table : List Builtin)
    (tokens : Tokens) (env : Environment Process) :
    StateM World (Option (Except Failure Control) × Environment Process) :=
  match tokens.name?.bind fun name => table.find? (·.name == name) with
  | none => pure (none, env)
  | some builtin => do
    let (result, env') ← builtin.runWith read sys env tokens.arguments
    pure (some result, env')

section Reader

variable {read : OperandReader} (hread : read.Lawful) (sys : System World Process)
  (env : Environment Process)

include hread

theorem runWith_eq_run (builtin : Builtin) (arguments : List String) :
    builtin.runWith read sys env arguments = builtin.run sys env arguments := by
  rw [Builtin.runWith, hread.read_eq, run_eq_perform]
  cases builtin with
  | exit | quit => cases arguments <;> rfl
  | cd => rcases arguments with _ | ⟨target, _ | ⟨extra, more⟩⟩ <;> rfl

/-- All lawful readers are the same to the shell. -/
theorem dispatchWith_eq_dispatch (table : List Builtin) (tokens : Tokens) :
    dispatchWith read sys table tokens env = dispatch sys table tokens env := by
  unfold dispatchWith dispatch
  cases tokens.name?.bind fun name => table.find? (·.name == name) with
  | none => rfl
  | some builtin =>
    dsimp only
    rw [runWith_eq_run hread]

end Reader

/-! ## The number of arguments -/

section Count

variable {sys : System World Process} {env : Environment Process} {table : List Builtin}
  {tokens : Tokens} {builtin : Builtin} {arguments : List String}

theorem Builtin.name_inj {other : Builtin} : builtin.name = other.name ↔ builtin = other := by
  cases builtin <;> cases other <;> decide

/-- A built-in of the table is found under its name. -/
theorem find?_name (h : builtin ∈ table) :
    table.find? (·.name == builtin.name) = some builtin := by
  cases hfind : table.find? (·.name == builtin.name) with
  | none => exact absurd (beq_self_eq_true _) (List.find?_eq_none.mp hfind builtin h)
  | some other =>
    have hname : other.name = builtin.name := by simpa using List.find?_some hfind
    rw [Builtin.name_inj.mp hname]

theorem dispatch_of_builtin (h : builtin ∈ table)
    (htokens : tokens.toList = builtin.name :: arguments) :
    dispatch sys table tokens env = (do
      let (result, env') ← builtin.perform sys env arguments
      pure (some result, env')) :=
  dispatch_of_find htokens (find?_name h)

/-- With a wrong number of arguments a built-in does nothing. -/
theorem perform_of_length_ne (h : arguments.length ≠ builtin.arity) :
    builtin.perform sys env arguments = pure (.error (.usage builtin.name), env) := by
  cases builtin with
  | exit | quit =>
    cases arguments with
    | nil => exact absurd rfl h
    | cons argument more => rfl
  | cd =>
    rcases arguments with _ | ⟨target, _ | ⟨extra, more⟩⟩
    · rfl
    · exact absurd rfl h
    · rfl

/-- Usage errors are those of the number of arguments. -/
theorem perform_usage_iff (world : World) :
    (∃ command, ((builtin.perform sys env arguments).run world).1.1 = .error (.usage command)) ↔
      arguments.length ≠ builtin.arity := by
  constructor
  · rintro ⟨command, hresult⟩ hlength
    cases builtin with
    | exit | quit =>
      obtain rfl := List.length_eq_zero_iff.mp hlength
      cases hresult
    | cd =>
      obtain ⟨target, rfl⟩ := List.length_eq_one_iff.mp hlength
      rw [Builtin.perform, run_bind] at hresult
      rcases hmove : (env.changeDir sys (utf8 target)).run world with ⟨cause | env', world'⟩ <;>
        rw [hmove] at hresult <;> cases hresult
  · intro hlength
    rw [perform_of_length_ne hlength]
    exact ⟨_, rfl⟩

theorem dispatch_usage_iff (h : builtin ∈ table)
    (htokens : tokens.toList = builtin.name :: arguments) (world : World) :
    (∃ command, ((dispatch sys table tokens env).run world).1.1 =
        some (.error (.usage command))) ↔ arguments.length ≠ builtin.arity := by
  have hresult : ((dispatch sys table tokens env).run world).1.1 =
      some ((builtin.perform sys env arguments).run world).1.1 := by
    rw [dispatch_of_builtin h htokens]
    rfl
  rw [hresult]
  simp only [Option.some.injEq]
  exact perform_usage_iff world

/-- The calls of a move. -/
def Call.Moves : Call Process → Prop
  | .changeDir .. | .currentDir .. => True
  | _ => False

/-- A built-in moves the shell and makes no other calls. -/
theorem PerformRun.moves {calls : Record Process}
    {answer : Except Failure Control × Environment Process}
    (h : PerformRun env builtin arguments calls answer) : ∀ call ∈ calls, call.Moves := by
  cases h with
  | ended _ | misused _ => exact fun _ hcall => absurd hcall List.not_mem_nil
  | moved hmove | unmoved hmove => cases hmove <;> simp [Call.Moves]

/-! ## Three tokens are enough -/

/-- Of two arguments and more, the first two tell that there are too many. -/
theorem perform_take {n : Nat} (hn : 2 ≤ n) :
    builtin.perform sys env (arguments.take n) = builtin.perform sys env arguments := by
  obtain ⟨n, rfl⟩ : ∃ k, n = k + 2 := ⟨n - 2, by omega⟩
  rcases arguments with _ | ⟨first, _ | ⟨second, more⟩⟩
  · rfl
  · rfl
  · have hlong : ∀ more : List String, (first :: second :: more).length ≠ builtin.arity := by
      intro more
      cases builtin <;> simp [Builtin.arity]
    show builtin.perform sys env (first :: second :: more.take n) = _
    rw [perform_of_length_ne (hlong _), perform_of_length_ne (hlong _)]

theorem dispatch_take {whole : Tokens} {n : Nat} (hn : 3 ≤ n)
    (htokens : tokens.toList = whole.toList.take n) :
    dispatch sys table tokens env = dispatch sys table whole env := by
  have hname : tokens.name? = whole.name? := by
    rw [Tokens.name?, Tokens.name?, Tokens.get?, Tokens.get?, htokens,
      List.getElem?_take_of_lt (by omega)]
  have harguments : tokens.arguments = whole.arguments.take (n - 1) := by
    rw [Tokens.arguments, Tokens.arguments, htokens, List.drop_take]
  unfold dispatch
  rw [hname]
  simp only [harguments, run_eq_perform, perform_take (show 2 ≤ n - 1 by omega)]

end Count

/-- **Built-ins count.** Whatever the arguments look like, `exit` and `quit` end the session if
there is none, `cd` moves to its argument if there is one, and any other number is a usage error, of
which nothing comes. So arguments may be replaced by as many others. A built-in opens no file and
makes no child. A line of which at least three tokens are kept is judged as if all its words
were. -/
theorem dispatch_by_count {read : OperandReader} (hread : read.Lawful)
    (sys : System World Process) (table : List Builtin) (env : Environment Process) :
    (∀ tokens, dispatchWith read sys table tokens env = dispatch sys table tokens env) ∧
      (∀ builtin ∈ table, ∀ tokens arguments, tokens.toList = builtin.name :: arguments →
        (builtin ≠ .cd → dispatchWith read sys table tokens env =
          pure (some (if arguments = [] then .ok (.exit exitSuccess)
            else .error (.usage builtin.name)), env)) ∧
        (builtin = .cd → arguments.length ≠ 1 → dispatchWith read sys table tokens env =
          pure (some (.error (.usage builtin.name)), env)) ∧
        (builtin = .cd → ∀ target, arguments = [target] →
          dispatchWith read sys table tokens env = do
            match ← env.changeDir sys (utf8 target) with
            | .error cause => pure (some (.error (.changeDir (utf8 target) cause)), env)
            | .ok env' => pure (some (.ok .proceed), env')) ∧
        (∀ other arguments', other.toList = builtin.name :: arguments' →
          arguments'.length = arguments.length → ∀ world world',
            ((∃ command, ((dispatchWith read sys table tokens env).run world).1.1 =
                some (.error (.usage command))) ↔
              ∃ command, ((dispatchWith read sys table other env).run world').1.1 =
                some (.error (.usage command)))) ∧
        Makes (dispatchWith read sys.recorded table tokens env) fun calls _ =>
          ∀ call ∈ calls, call.Moves) ∧
      ∀ line capacity (whole : Tokens), 3 ≤ capacity → whole.toList = words line →
        dispatchWith read sys table (.ofLine line capacity) env =
          dispatchWith read sys table whole env := by
  refine ⟨dispatchWith_eq_dispatch hread sys env table, ?_, ?_⟩
  · intro builtin hbuiltin tokens arguments htokens
    simp only [dispatchWith_eq_dispatch hread]
    refine ⟨fun hne => ?_, fun hcd hlength => ?_, fun hcd target htarget => ?_,
      fun other arguments' hother hlength world world' => ?_, ?_⟩
    · rw [dispatch_of_builtin hbuiltin htokens]
      cases builtin with
      | exit | quit => cases arguments <;> rfl
      | cd => exact absurd rfl hne
    · subst hcd
      rw [dispatch_of_builtin hbuiltin htokens, perform_of_length_ne hlength]
      rfl
    · subst hcd htarget
      rw [dispatch_of_builtin hbuiltin htokens]
      funext world
      show (_ >>= _ : StateM World _).run world = (_ >>= _ : StateM World _).run world
      rw [run_bind, run_bind, Builtin.perform, run_bind]
      rcases (env.changeDir sys (utf8 target)).run world with ⟨cause | env', world'⟩ <;> rfl
    · rw [dispatch_usage_iff hbuiltin htokens, dispatch_usage_iff hbuiltin hother, hlength]
    · rw [dispatch_of_builtin hbuiltin htokens]
      refine .bind (perform_makes sys env builtin arguments) fun calls answer hperform => .pure ?_
      rw [List.append_nil]
      exact hperform.moves
  · intro line capacity whole hcapacity hwhole
    rw [dispatchWith_eq_dispatch hread, dispatchWith_eq_dispatch hread]
    exact dispatch_take hcapacity (by rw [Tokens.toList_ofLine, hwhole])

/-- The marker is an argument too many, what looks like an option is a directory, and of three
arguments two are enough to refuse them. -/
theorem dispatch_by_count_of_markers :
    let env : Environment Unit := ⟨(), utf8 "/", .standard⟩
    let judge := fun tokens => ((dispatchWith .plain quiet Builtin.all tokens env).run []).1.1
    OperandReader.plain.Lawful ∧
      judge ⟨["exit", "--"], 10⟩ = some (.error (.usage "exit")) ∧
      judge ⟨["cd", "--help"], 10⟩ =
        some (.error (.changeDir (utf8 "--help") (.system .noEntry))) ∧
      judge (.ofLine "cd a b c" 3) = some (.error (.usage "cd")) := by
  intro env judge
  have hread := OperandReader.lawful_plain
  obtain ⟨-, hwords, hlines⟩ := dispatch_by_count hread quiet Builtin.all env
  obtain ⟨hexit, -⟩ := hwords .exit (by decide) ⟨["exit", "--"], 10⟩ ["--"] rfl
  obtain ⟨-, -, hmove, -⟩ := hwords .cd (by decide) ⟨["cd", "--help"], 10⟩ ["--help"] rfl
  obtain ⟨-, hmany, -⟩ := hwords .cd (by decide) ⟨["cd", "a", "b", "c"], 4⟩ ["a", "b", "c"] rfl
  have hline := hlines "cd a b c" 3 ⟨["cd", "a", "b", "c"], 4⟩ (by decide) (by decide)
  refine ⟨hread, ?_, ?_, ?_⟩
  · show ((dispatchWith .plain quiet Builtin.all _ env).run []).1.1 = _
    rw [hexit (by decide)]
    rfl
  · show ((dispatchWith .plain quiet Builtin.all _ env).run []).1.1 = _
    rw [hmove rfl "--help" rfl]
    rfl
  · show ((dispatchWith .plain quiet Builtin.all _ env).run []).1.1 = _
    rw [hline, hmany rfl (by decide)]
    rfl

/-- Two tokens are not enough: the line loses the argument that is too many. -/
example : ((dispatch quiet Builtin.all (.ofLine "cd a b" 2) ⟨(), utf8 "/", .standard⟩).run []).1.1 =
    some (.error (.changeDir (utf8 "a") (.system .noEntry))) := rfl

end MiniShell
