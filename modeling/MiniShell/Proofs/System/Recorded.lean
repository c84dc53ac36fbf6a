import Mathlib.Control.Monad.Basic
import MiniShell.Proofs.System.Similar

/-!
# What is asked of a system, on record

`sys.recorded` answers as `sys` does and keeps a record of the calls with their answers. Commands
cannot tell the two apart (`similar_recorded`), so what the record says of a command is true of the
command without it. The input of the shell is not among what a command asks for
(`AgreeUnless.not_isRead`).

`Makes action post` says which calls an action makes and what it answers, in one predicate, and
`Makes.bind` puts two actions together.
-/

namespace MiniShell

variable {World Process α β : Type}

/-- A call together with its answer. -/
inductive Call (Process : Type) where
  | changeDir (process : Process) (path : Path) (answer : Except Errno Process)
  | currentDir (process : Process) (answer : Option Path)
  | isExecutable (process : Process) (path : Path) (answer : Bool)
  | create (process : Process) (path : Path) (mode : Nat) (answer : Except Errno (Nat × Process))
  | duplicate (process : Process) (old new : Nat) (answer : Except Errno Process)
  | close (process : Process) (descriptor : Nat) (answer : Process)
  | write (process : Process) (descriptor : Nat) (bytes : Bytes)
  | openFile (process : Process) (path : Path) (answer : Except Errno InputStream)
  | advance (process : Process) (stream : InputStream) (reads : Nat)
  | execute (process : Process) (path : Path) (arguments : List Bytes)
    (answer : Except Errno Status)
  | fork (answer : Except Errno Unit)
  | wait (ended : Status) (answer : Except Errno Status)
  deriving DecidableEq

/-- The calls so far, the oldest first. -/
abbrev Record (Process : Type) := List (Call Process)

/-! ## Keeping the record -/

/-- Makes a call and notes it with its answer. -/
def noted (call : α → Call Process) (action : StateM World α) :
    StateM (World × Record Process) α :=
  fun state =>
    ((action.run state.1).1, ((action.run state.1).2, state.2 ++ [call (action.run state.1).1]))

/-- Does something that is not worth a note. -/
def unnoted (action : StateM World α) : StateM (World × Record Process) α :=
  fun state => ((action.run state.1).1, ((action.run state.1).2, state.2))

/-- The system with a record of its calls. What is unread is looked at and not asked for. -/
def System.recorded (sys : System World Process) : System (World × Record Process) Process where
  changeDir process path := noted (.changeDir process path) (sys.changeDir process path)
  currentDir process := noted (.currentDir process) (sys.currentDir process)
  isExecutable process path := noted (.isExecutable process path) (sys.isExecutable process path)
  create process path mode := noted (.create process path mode) (sys.create process path mode)
  duplicate process old new := noted (.duplicate process old new) (sys.duplicate process old new)
  close process descriptor := noted (.close process descriptor) (sys.close process descriptor)
  write process descriptor bytes :=
    noted (fun _ => .write process descriptor bytes) (sys.write process descriptor bytes)
  openFile process path := noted (.openFile process path) (sys.openFile process path)
  unread process stream := unnoted (sys.unread process stream)
  advance process stream reads :=
    noted (fun _ => .advance process stream reads) (sys.advance process stream reads)
  execute process path arguments :=
    noted (.execute process path arguments) (sys.execute process path arguments)
  fork := noted .fork sys.fork
  wait ended := noted (.wait ended) (sys.wait ended)

/-! ## The record is true -/

theorem agree_noted (call : α → Call Process) (action : StateM World α) :
    Agree (fun world state => world = state.1) action (noted call action) := by
  refine .of_forall ?_
  rintro world ⟨_, record⟩ rfl
  exact ⟨rfl, rfl⟩

/-- **The record is invisible.** A command does not notice that a record is kept. -/
theorem similar_recorded (sys : System World Process) :
    Similar (fun world state => world = state.1) sys sys.recorded where
  changeDir _ _ := agree_noted _ _
  currentDir _ := agree_noted _ _
  isExecutable _ _ := agree_noted _ _
  create _ _ _ := agree_noted _ _
  duplicate _ _ _ := agree_noted _ _
  close _ _ := agree_noted _ _
  write process descriptor bytes := agree_noted (fun _ => .write process descriptor bytes) _
  execute _ _ _ := agree_noted _ _
  fork := agree_noted _ _
  wait _ := agree_noted _ _

/-- What an action comes to on record, it comes to without. -/
theorem AgreeUnless.run_eq {action : StateM World α} {other : StateM (World × Record Process) α}
    (h : Agree (fun world state => world = state.1) action other) {world world' : World}
    {record record' : Record Process} {a : α}
    (hrun : other.run (world, record) = (a, (world', record'))) :
    action.run world = (a, world') := by
  have hstart : world = (world, record).1 := rfl
  obtain ⟨hanswer, hworld⟩ := h.apply hstart
  rw [hrun] at hanswer hworld
  exact Prod.ext hanswer hworld

/-! ## What commands ask for -/

/-- Whether the call reads lines. -/
def Call.isRead : Call Process → Bool
  | .advance .. => true
  | _ => false

/-- The states agree, and no line was read since. -/
def Unread (record : Record Process) (state state' : World × Record Process) : Prop :=
  state = state' ∧ ∃ calls, state.2 = record ++ calls ∧ ∀ call ∈ calls, call.isRead = false

theorem agree_of_not_isRead {record : Record Process} {action : StateM World α}
    (call : α → Call Process) (h : ∀ a, (call a).isRead = false) :
    Agree (Unread record) (noted call action) (noted call action) := by
  refine .of_forall ?_
  rintro ⟨world, now⟩ _ ⟨rfl, calls, hcalls, hunread⟩
  refine ⟨rfl, rfl, calls ++ [call (action.run world).1], ?_, fun new hnew => ?_⟩
  · rw [← List.append_assoc, ← hcalls]
    rfl
  · rcases List.mem_append.mp hnew with hold | hlast
    · exact hunread new hold
    · rw [List.mem_singleton.mp hlast]
      exact h _

theorem similar_unread (sys : System World Process) (record : Record Process) :
    Similar (Unread record) sys.recorded sys.recorded where
  changeDir _ _ := agree_of_not_isRead _ fun _ => rfl
  currentDir _ := agree_of_not_isRead _ fun _ => rfl
  isExecutable _ _ := agree_of_not_isRead _ fun _ => rfl
  create _ _ _ := agree_of_not_isRead _ fun _ => rfl
  duplicate _ _ _ := agree_of_not_isRead _ fun _ => rfl
  close _ _ := agree_of_not_isRead _ fun _ => rfl
  write process descriptor bytes :=
    agree_of_not_isRead (fun _ => .write process descriptor bytes) fun _ => rfl
  execute _ _ _ := agree_of_not_isRead _ fun _ => rfl
  fork := agree_of_not_isRead _ fun _ => rfl
  wait _ := agree_of_not_isRead _ fun _ => rfl

/-- **Commands leave reading to the shell.** -/
theorem AgreeUnless.not_isRead {record calls : Record Process}
    {action : StateM (World × Record Process) α} (h : Agree (Unread record) action action)
    {world world' : World} {a : α}
    (hrun : action.run (world, record) = (a, (world', record ++ calls))) :
    ∀ call ∈ calls, call.isRead = false := by
  have hstart : Unread record (world, record) (world, record) :=
    ⟨rfl, [], (List.append_nil record).symm, fun _ hcall => absurd hcall List.not_mem_nil⟩
  obtain ⟨-, -, calls', hcalls, hunread⟩ := h.apply hstart
  rw [hrun] at hcalls
  rwa [List.append_cancel_left hcalls]

/-! ## Calls and answers of an action -/

/-- From every world, and whatever is on record, the action makes calls and answers as `post`
says. -/
def Makes (action : StateM (World × Record Process) α) (post : Record Process → α → Prop) : Prop :=
  ∀ world record, ∃ calls a world',
    action.run (world, record) = (a, (world', record ++ calls)) ∧ post calls a

namespace Makes

variable {action : StateM (World × Record Process) α} {post : Record Process → α → Prop}

theorem pure {a : α} (h : post [] a) :
    Makes (pure a : StateM (World × Record Process) α) post := by
  intro world record
  refine ⟨[], a, world, ?_, h⟩
  rw [List.append_nil]
  rfl

/-- The calls of the first action stand in front of those of the second. -/
theorem bind {next : α → StateM (World × Record Process) β} {post' : Record Process → β → Prop}
    (h : Makes action post)
    (hnext : ∀ calls a, post calls a → Makes (next a) fun more b => post' (calls ++ more) b) :
    Makes (action >>= next) post' := by
  intro world record
  obtain ⟨calls, a, world', hrun, hpost⟩ := h world record
  obtain ⟨more, b, world'', hrun', hpost'⟩ := hnext calls a hpost world' (record ++ calls)
  refine ⟨calls ++ more, b, world'', ?_, hpost'⟩
  rw [run_bind, hrun, ← List.append_assoc]
  exact hrun'

/-- A call stands in front of those that its answer leads to. -/
theorem noted {call : α → Call Process} {action : StateM World α}
    {next : α → StateM (World × Record Process) β} {post : Record Process → β → Prop}
    (h : ∀ answer, Makes (next answer) fun more b => post (call answer :: more) b) :
    Makes (noted call action >>= next) post := by
  intro world record
  obtain ⟨more, b, world', hrun, hpost⟩ :=
    h (action.run world).1 (action.run world).2 (record ++ [call (action.run world).1])
  refine ⟨call (action.run world).1 :: more, b, world', ?_, hpost⟩
  rw [List.append_assoc] at hrun
  exact hrun

theorem mono {post' : Record Process → α → Prop} (h : Makes action post)
    (himp : ∀ calls a, post calls a → post' calls a) : Makes action post' := by
  intro world record
  obtain ⟨calls, a, world', hrun, hpost⟩ := h world record
  exact ⟨calls, a, world', hrun, himp calls a hpost⟩

end Makes

end MiniShell
