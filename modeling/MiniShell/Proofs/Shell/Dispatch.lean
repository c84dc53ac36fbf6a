import MiniShell.Host.Layout
import MiniShell.Proofs.Shell.Builtins

/-!
# The search through the table of built-ins

A command is offered to the built-ins of a table one after the other. One that does not bear the
name of the command declines and leaves everything as it is, and the first one that bears it runs
(`tryInOrder`). As the name says which built-in that is, one runs at most, however often the table
holds it (`tryInOrder_of_mem`), and this is what `dispatch` does (`dispatchInOrder_eq`).

So of a table nothing matters but the names in it, for one command (`dispatchInOrder_of_names`) and
for any number of them (`dispatchAll_of_names`). `dispatch_once` puts this together. It holds for
every way to read operands.
-/

namespace MiniShell

variable {World Process : Type}

/-! ## The search -/

/-- Runs the built-in if the command bears its name, and declines otherwise. -/
def Builtin.tryRun (read : OperandReader) (sys : System World Process) (env : Environment Process)
    (builtin : Builtin) (name : String) (arguments : List String) :
    StateM World (Option (Except Failure Control) × Environment Process) :=
  if builtin.name ≠ name then pure (none, env)
  else do
    let (result, env') ← builtin.runWith read sys env arguments
    pure (some result, env')

/-- Offers a command to the built-ins of a table, each time in the environment that is left by
then, up to the first that does not decline. -/
def tryInOrder (read : OperandReader) (sys : System World Process) (name : String)
    (arguments : List String) : List Builtin → Environment Process →
      StateM World (Option (Except Failure Control) × Environment Process)
  | [], env => pure (none, env)
  | builtin :: table, env => do
    match ← builtin.tryRun read sys env name arguments with
    | (none, env') => tryInOrder read sys name arguments table env'
    | (some result, env') => pure (some result, env')

/-- Offers the tokens to a table, if there is a name among them. -/
def dispatchInOrder (read : OperandReader) (sys : System World Process) (table : List Builtin)
    (tokens : Tokens) (env : Environment Process) :
    StateM World (Option (Except Failure Control) × Environment Process) :=
  match tokens.name? with
  | none => pure (none, env)
  | some name => tryInOrder read sys name tokens.arguments table env

/-- Dispatches commands one after the other, whatever comes of each. -/
def dispatchAll (read : OperandReader) (sys : System World Process) (table : List Builtin) :
    List Tokens → Environment Process →
      StateM World (List (Option (Except Failure Control)) × Environment Process)
  | [], env => pure ([], env)
  | tokens :: commands, env => do
    let (result, env') ← dispatchInOrder read sys table tokens env
    let (results, env'') ← dispatchAll read sys table commands env'
    pure (result :: results, env'')

section Search

variable {read : OperandReader} {sys : System World Process} {env : Environment Process}
  {table table' : List Builtin} {builtin : Builtin} {name : String} {arguments : List String}
  {tokens : Tokens}

/-! ## One built-in -/

theorem tryRun_of_ne (h : builtin.name ≠ name) :
    builtin.tryRun read sys env name arguments = pure (none, env) := if_pos h

theorem tryRun_name :
    builtin.tryRun read sys env builtin.name arguments = (do
      let (result, env') ← builtin.runWith read sys env arguments
      pure (some result, env')) := if_neg (not_not_intro rfl)

/-- Who declines leaves the command to those behind, and leaves nothing else. -/
theorem tryInOrder_cons_of_ne (h : builtin.name ≠ name) :
    tryInOrder read sys name arguments (builtin :: table) env =
      tryInOrder read sys name arguments table env := by
  rw [tryInOrder, tryRun_of_ne h]
  rfl

/-- Who does not decline has the last word, even if it is a failure. -/
theorem tryInOrder_cons_name :
    tryInOrder read sys builtin.name arguments (builtin :: table) env = (do
      let (result, env') ← builtin.runWith read sys env arguments
      pure (some result, env')) := by
  rw [tryInOrder, tryRun_name]
  rfl

/-! ## The whole table -/

theorem tryInOrder_of_not_mem (h : name ∉ table.map Builtin.name) :
    tryInOrder read sys name arguments table env = pure (none, env) := by
  induction table with
  | nil => rfl
  | cons builtin table ih =>
    rw [List.map_cons, List.mem_cons, not_or] at h
    rw [tryInOrder_cons_of_ne (Ne.symm h.1), ih h.2]

/-- A built-in of the table runs under its name. It runs once, wherever and however often the
table holds it. -/
theorem tryInOrder_of_mem (h : builtin ∈ table) :
    tryInOrder read sys builtin.name arguments table env = (do
      let (result, env') ← builtin.runWith read sys env arguments
      pure (some result, env')) := by
  induction table with
  | nil => exact absurd h List.not_mem_nil
  | cons other table ih =>
    -- Who is in front is the same built-in and ends the search, or declines under another name.
    by_cases hname : other.name = builtin.name
    · rw [Builtin.name_inj.mp hname, tryInOrder_cons_name]
    · have hne : builtin ≠ other := fun heq => hname (heq ▸ rfl)
      rw [tryInOrder_cons_of_ne hname, ih (List.mem_of_ne_of_mem hne h)]

theorem dispatchInOrder_of_not_mem
    (h : ∀ name, tokens.name? = some name → name ∉ table.map Builtin.name) :
    dispatchInOrder read sys table tokens env = pure (none, env) := by
  unfold dispatchInOrder
  cases hname : tokens.name? with
  | none => rfl
  | some name => exact tryInOrder_of_not_mem (h name hname)

theorem dispatchInOrder_of_mem (h : builtin ∈ table) (hname : tokens.name? = some builtin.name) :
    dispatchInOrder read sys table tokens env = (do
      let (result, env') ← builtin.runWith read sys env tokens.arguments
      pure (some result, env')) := by
  unfold dispatchInOrder
  rw [hname]
  exact tryInOrder_of_mem h

/-- The name of the command is that of a built-in in the table, or of none there. -/
theorem cases_name (table : List Builtin) (tokens : Tokens) :
    (∃ builtin ∈ table, tokens.name? = some builtin.name) ∨
      ∀ name, tokens.name? = some name → name ∉ table.map Builtin.name := by
  by_cases h : ∃ builtin ∈ table, tokens.name? = some builtin.name
  · exact .inl h
  · refine .inr fun name hname hmem => h ?_
    obtain ⟨builtin, hbuiltin, rfl⟩ := List.mem_map.mp hmem
    exact ⟨builtin, hbuiltin, hname⟩

/-- To offer a command around is to look its name up and to run what is found. -/
theorem dispatchInOrder_eq :
    dispatchInOrder read sys table tokens env = dispatchWith read sys table tokens env := by
  unfold dispatchWith
  obtain ⟨builtin, hbuiltin, hname⟩ | hnone := cases_name table tokens
  · rw [dispatchInOrder_of_mem hbuiltin hname, hname, Option.bind_some, find?_name hbuiltin]
  · have hfind : (tokens.name?.bind fun name => table.find? (·.name == name)) = none := by
      rw [Option.bind_eq_none_iff]
      intro name hname
      rw [List.find?_eq_none]
      intro builtin hbuiltin heq
      exact hnone name hname (List.mem_map.mpr ⟨builtin, hbuiltin, beq_iff_eq.mp heq⟩)
    rw [dispatchInOrder_of_not_mem hnone, hfind]

/-! ## Tables with the same names -/

/-- What becomes of one command depends on the names in the table only. -/
theorem dispatchInOrder_of_names
    (h : ∀ name, name ∈ table.map Builtin.name ↔ name ∈ table'.map Builtin.name) :
    dispatchInOrder read sys table tokens env = dispatchInOrder read sys table' tokens env := by
  obtain ⟨builtin, hbuiltin, hname⟩ | hnone := cases_name table tokens
  · obtain ⟨other, hother, hsame⟩ :=
      List.mem_map.mp ((h builtin.name).mp (List.mem_map_of_mem hbuiltin))
    obtain rfl := Builtin.name_inj.mp hsame
    rw [dispatchInOrder_of_mem hbuiltin hname, dispatchInOrder_of_mem hother hname]
  · have hnone' : ∀ name, tokens.name? = some name → name ∉ table'.map Builtin.name :=
      fun name hname hmem => hnone name hname ((h name).mpr hmem)
    rw [dispatchInOrder_of_not_mem hnone, dispatchInOrder_of_not_mem hnone']

theorem dispatchAll_of_names
    (h : ∀ name, name ∈ table.map Builtin.name ↔ name ∈ table'.map Builtin.name)
    (commands : List Tokens) :
    dispatchAll read sys table commands env = dispatchAll read sys table' commands env := by
  induction commands generalizing env with
  | nil => rfl
  | cons tokens commands ih =>
    simp only [dispatchAll, dispatchInOrder_of_names h, ih]

end Search

/-! ## Moves -/

/-- The directory that a call asks to move to. -/
def Call.moved? : Call Process → Option Path
  | .changeDir _ path _ => some path
  | _ => none

/-- The directories that were asked for, in their order. -/
def Record.moved (calls : Record Process) : List Path := calls.filterMap Call.moved?

theorem MoveRun.length_moved_le {env : Environment Process} {path : Path}
    {calls : Record Process} {answer : Except IoError (Environment Process)}
    (h : MoveRun env path calls answer) : (Record.moved calls).length ≤ 1 := by
  cases h with
  | nul _ => exact Nat.zero_le 1
  | refused _ _ | moved _ _ _ => exact Nat.le_refl 1

/-- A built-in moves once or not at all. -/
theorem runWith_moves (read : OperandReader) (sys : System World Process)
    (env : Environment Process) (builtin : Builtin) (arguments : List String) :
    Makes (builtin.runWith read sys.recorded env arguments) fun calls _ =>
      (Record.moved calls).length ≤ 1 := by
  unfold Builtin.runWith
  split
  · exact .pure (Nat.zero_le 1)
  · next values _ =>
    cases builtin with
    | exit | quit => exact .pure (Nat.zero_le 1)
    | cd =>
      refine .bind (changeDir_makes sys env (utf8 values.1)) fun calls answer hmove => ?_
      cases answer with
      | error _ | ok _ => exact .pure (by simpa using hmove.length_moved_le)

theorem dispatchInOrder_moves (read : OperandReader) (sys : System World Process)
    (table : List Builtin) (tokens : Tokens) (env : Environment Process) :
    Makes (dispatchInOrder read sys.recorded table tokens env) fun calls _ =>
      (Record.moved calls).length ≤ 1 := by
  obtain ⟨builtin, hbuiltin, hname⟩ | hnone := cases_name table tokens
  · rw [dispatchInOrder_of_mem hbuiltin hname]
    refine .bind (runWith_moves read sys env builtin _) fun calls answer hmoves => .pure ?_
    rwa [List.append_nil]
  · rw [dispatchInOrder_of_not_mem hnone]
    exact .pure (Nat.zero_le 1)

/-- **At most one.** Offered to a table in its order, a command without a name, or with a name that
is not in the table, is declined, and nothing has happened. Any other command is a single run of the
built-in it names, whatever that comes to, and moves the shell no more than once. So any number of
commands come to the same with two tables that have the same names, in whatever order and however
often. For a lawful reader of operands all this is `dispatch`. -/
theorem dispatch_once (read : OperandReader) (sys : System World Process) :
    (∀ table tokens env,
      (∀ name, tokens.name? = some name → name ∉ table.map Builtin.name) →
        dispatchInOrder read sys table tokens env = pure (none, env)) ∧
    (∀ table tokens env, ∀ builtin ∈ table, tokens.name? = some builtin.name →
      dispatchInOrder read sys table tokens env = do
        let (result, env') ← builtin.runWith read sys env tokens.arguments
        pure (some result, env')) ∧
    (∀ table tokens env,
      Makes (dispatchInOrder read sys.recorded table tokens env) fun calls _ =>
        (Record.moved calls).length ≤ 1) ∧
    (∀ table table' : List Builtin,
      (∀ name, name ∈ table.map Builtin.name ↔ name ∈ table'.map Builtin.name) →
        ∀ commands env,
          dispatchAll read sys table commands env = dispatchAll read sys table' commands env) ∧
    (read.Lawful → ∀ table tokens env,
      dispatchInOrder read sys table tokens env = dispatch sys table tokens env) := by
  refine ⟨fun table tokens env => dispatchInOrder_of_not_mem,
    fun table tokens env builtin => dispatchInOrder_of_mem, dispatchInOrder_moves read sys,
    fun table table' hnames commands env => dispatchAll_of_names hnames commands,
    fun hread table tokens env => ?_⟩
  rw [dispatchInOrder_eq, dispatchWith_eq_dispatch hread]

/-- One directory lies in another of the same name. A table that holds `cd` twice leads into the
first of them and not on into the second. -/
theorem dispatch_once_of_repeated :
    let host := Host.start [(utf8 "a/a", .directory)] []
    let env := ((Environment.capture Host.system host.process .standard).run host.machine).1
    let judge := fun table words =>
      (dispatchAll .plain Host.system table (words.map fun command => ⟨command, 10⟩) env).run
        host.machine
    OperandReader.plain.Lawful ∧
      (∀ name, name ∈ [Builtin.cd, .quit, .cd].map Builtin.name ↔
        name ∈ [Builtin.quit, .cd].map Builtin.name) ∧
      (judge [.cd, .quit, .cd] [["cd", "a"]]).1.2.currentDir = utf8 "/tmp/scratch/work/a" ∧
      (judge [.cd, .quit, .cd] [["cd", "a"], ["cd", "a"]]).1.2.currentDir =
        utf8 "/tmp/scratch/work/a/a" ∧
      (judge [.cd, .quit, .cd] [["cd", "b"], ["exit"], ["quit"]]).1.1.map
        (·.map Except.isOk) = [some false, none, some true] ∧
      dispatch Host.system [.quit, .cd] ⟨["exit"], 10⟩ env = pure (none, env) := by
  intro host env judge
  have hread := OperandReader.lawful_plain
  obtain ⟨hdeclined, -, -, hnames, hdispatch⟩ := dispatch_once .plain Host.system
  have hsame : ∀ name, name ∈ [Builtin.cd, .quit, .cd].map Builtin.name ↔
      name ∈ [Builtin.quit, .cd].map Builtin.name := by
    intro name
    simp only [List.map_cons, List.map_nil, List.mem_cons, List.not_mem_nil, or_false]
    grind
  have hjudge : ∀ words, judge [.cd, .quit, .cd] words = judge [.quit, .cd] words :=
    fun words => congrArg (·.run host.machine) (hnames _ _ hsame _ env)
  refine ⟨hread, hsame, ?_, ?_, ?_, ?_⟩
  · rw [hjudge]
    decide +kernel
  · rw [hjudge]
    decide +kernel
  · rw [hjudge]
    decide +kernel
  · rw [← hdispatch hread]
    refine hdeclined _ _ env fun name hname => ?_
    obtain rfl : "exit" = name := Option.some.inj hname
    decide

end MiniShell
