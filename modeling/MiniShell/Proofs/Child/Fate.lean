import MiniShell.Launch
import MiniShell.Proofs.System.Recorded
import MiniShell.Proofs.Tokens.Redirection

/-!
# What can become of a child

`ChildRun` is the decision table of a child: each row has its conditions, the calls of the child
from first to last, and the status it ends with. A child fails because its redirection is
malformed, because the target cannot be opened, because a stream cannot be pointed at it, or
because no program starts. Otherwise it has become a program.

1. The rows exclude one another (`ChildRun.fate_eq`).
2. A child that did not become a program has reported it once (`ChildRun.reported`).
3. No row opens anything but the target, or executes anything but the command with its streams in
   place (`ChildRun.obeys`).
-/

namespace MiniShell

variable {Process : Type}

/-- The five ends of a child. -/
inductive Fate where
  | malformed
  | unopened
  | unpointed
  | unstarted
  | ran
  deriving DecidableEq, Repr

/-- The report of a failure. -/
def Call.report (process : Process) : Call Process :=
  .write process standardError (utf8 errorMessage)

/-! ## Pointing the streams -/

/-- The target cannot be opened. The system is not even asked about a path with a NUL byte. -/
inductive Unopened (process : Process) (target : Path) : Record Process → Prop where
  | nul (hnul : hasNul target = true) : Unopened process target []
  | refused (hnul : hasNul target = false) (errno : Errno) :
    Unopened process target [.create process target redirectMode (.error errno)]

/-- The target is open, but one of the streams cannot be pointed at it. -/
inductive Unpointed (process : Process) (target : Path) : Record Process → Process → Prop where
  | output (hnul : hasNul target = false) {descriptor : Nat} {opened closed : Process}
    (errno : Errno) :
    Unpointed process target
      [.create process target redirectMode (.ok (descriptor, opened)),
        .duplicate opened descriptor standardOutput (.error errno),
        .close opened descriptor closed] closed
  | error (hnul : hasNul target = false) {descriptor : Nat} {opened halfway closed : Process}
    (errno : Errno) :
    Unpointed process target
      [.create process target redirectMode (.ok (descriptor, opened)),
        .duplicate opened descriptor standardOutput (.ok halfway),
        .duplicate halfway descriptor standardError (.error errno),
        .close halfway descriptor closed] closed

/-- Both streams go where they should: where they went before, or to the target, which has been
opened once. Its descriptor is closed again, so that the two streams hold the target and nothing
else does. That is as long as both were open before: a closed stream may have lent its descriptor
to the target, and is closed with it (`Descriptors.pointed`). -/
inductive Pointed (process : Process) : Redirection → Record Process → Process → Prop where
  | absent : Pointed process .absent [] process
  | file {target : String} (hnul : hasNul (utf8 target) = false) {descriptor : Nat}
    {opened halfway pointed closed : Process} :
    Pointed process (.file target)
      [.create process (utf8 target) redirectMode (.ok (descriptor, opened)),
        .duplicate opened descriptor standardOutput (.ok halfway),
        .duplicate halfway descriptor standardError (.ok pointed),
        .close pointed descriptor closed] closed

/-! ## Becoming a program -/

/-- Candidates that may not be executed. Those with a NUL byte are not asked about. -/
def denials (process : Process) (paths : List String) : Record Process :=
  (paths.filter fun path => !hasNul (utf8 path)).map fun path =>
    .isExecutable process (utf8 path) false

/-- The candidates of a name are tried in order up to the first that may be executed. -/
inductive LookedUp (search : SearchPath) (process : Process) (name : String) :
    Option String → Record Process → Prop where
  | unnamed (hname : name = "") : LookedUp search process name none []
  | missing (hname : name ≠ "") :
    LookedUp search process name none (denials process (search.candidates name))
  | found (hname : name ≠ "") {before after : List String} {program : String}
    (hcandidates : search.candidates name = before ++ program :: after)
    (hnul : hasNul (utf8 program) = false) :
    LookedUp search process name (some program)
      (denials process before ++ [.isExecutable process (utf8 program) true])

/-- No program starts: none is found, or an argument holds a NUL byte, or the system refuses. -/
inductive Unstarted (search : SearchPath) (process : Process) (command : List String) :
    Record Process → Prop where
  | missing {lookups : Record Process}
    (hlookup : LookedUp search process (command.headD "") none lookups) :
    Unstarted search process command lookups
  | nul {program : String} {lookups : Record Process}
    (hlookup : LookedUp search process (command.headD "") (some program) lookups)
    (hnul : ∃ token ∈ command, hasNul (utf8 token) = true) :
    Unstarted search process command lookups
  | refused {program : String} {lookups : Record Process}
    (hlookup : LookedUp search process (command.headD "") (some program) lookups)
    (hnul : ∀ token ∈ command, hasNul (utf8 token) = false) (errno : Errno) :
    Unstarted search process command
      (lookups ++ [.execute process (utf8 program) (command.map utf8) (.error errno)])

/-- The program that was found runs, with the command as its arguments. -/
inductive Started (search : SearchPath) (process : Process) (command : List String) :
    Record Process → Status → Prop where
  | found {program : String} {lookups : Record Process}
    (hlookup : LookedUp search process (command.headD "") (some program) lookups)
    (hnul : ∀ token ∈ command, hasNul (utf8 token) = false) (status : Status) :
    Started search process command
      (lookups ++ [.execute process (utf8 program) (command.map utf8) (.ok status)]) status

/-! ## The decision table -/

/-- The rows of the table: what happened, with which calls, and how the child ended. -/
inductive ChildRun (search : SearchPath) (process : Process) (t : Tokens) :
    Fate → Record Process → Status → Prop where
  | malformed (hredirection : t.redirection = .malformed) :
    ChildRun search process t .malformed [.report process] (.exited 0)
  | unopened {target : String} {opening : Record Process}
    (hredirection : t.redirection = .file target)
    (hopening : Unopened process (utf8 target) opening) :
    ChildRun search process t .unopened (opening ++ [.report process]) (.exited 0)
  | unpointed {target : String} {opening : Record Process} {process' : Process}
    (hredirection : t.redirection = .file target)
    (hopening : Unpointed process (utf8 target) opening process') :
    ChildRun search process t .unpointed (opening ++ [.report process']) (.exited 0)
  | unstarted {opening starting : Record Process} {process' : Process}
    (hopening : Pointed process t.redirection opening process')
    (hstarting : Unstarted search process' t.command starting) :
    ChildRun search process t .unstarted (opening ++ (starting ++ [.report process'])) (.exited 0)
  | ran {opening starting : Record Process} {process' : Process} {status : Status}
    (hopening : Pointed process t.redirection opening process')
    (hstarting : Started search process' t.command starting status) :
    ChildRun search process t .ran (opening ++ starting) status

/-! ## What is seen of a child -/

namespace Call

/-- The file that was to be opened for output, and whether it was. -/
def created? : Call Process → Option (Path × Bool)
  | .create _ path _ answer => some (path, answer.isOk)
  | _ => none

/-- Whether a descriptor could be made to refer to a file. -/
def duplicated? : Call Process → Option Bool
  | .duplicate _ _ _ answer => some answer.isOk
  | _ => none

/-- What was to be executed, by which process and with which arguments. -/
def executed? : Call Process → Option (Process × Path × List Bytes)
  | .execute process path arguments _ => some (process, path, arguments)
  | _ => none

/-- What was written, by which process and to which descriptor. -/
def written? : Call Process → Option (Process × Nat × Bytes)
  | .write process descriptor bytes => some (process, descriptor, bytes)
  | _ => none

end Call

namespace Record

def created (calls : Record Process) : List (Path × Bool) := calls.filterMap Call.created?

def duplicated (calls : Record Process) : List Bool := calls.filterMap Call.duplicated?

def executed (calls : Record Process) : List (Process × Path × List Bytes) :=
  calls.filterMap Call.executed?

def written (calls : Record Process) : List (Process × Nat × Bytes) :=
  calls.filterMap Call.written?

@[simp] theorem created_append (calls more : Record Process) :
    created (calls ++ more) = created calls ++ created more := List.filterMap_append

@[simp] theorem duplicated_append (calls more : Record Process) :
    duplicated (calls ++ more) = duplicated calls ++ duplicated more := List.filterMap_append

@[simp] theorem executed_append (calls more : Record Process) :
    executed (calls ++ more) = executed calls ++ executed more := List.filterMap_append

@[simp] theorem written_append (calls more : Record Process) :
    written (calls ++ more) = written calls ++ written more := List.filterMap_append

@[simp] theorem created_report (process : Process) : created [.report process] = [] := rfl

@[simp] theorem duplicated_report (process : Process) : duplicated [.report process] = [] := rfl

@[simp] theorem executed_report (process : Process) : executed [.report process] = [] := rfl

@[simp] theorem written_report (process : Process) :
    written [.report process] = [(process, standardError, utf8 errorMessage)] := rfl

end Record

variable {search : SearchPath} {process process' : Process} {t : Tokens}
  {calls : Record Process}

/-- The calls of a search ask whether files may be executed, and nothing else. -/
theorem LookedUp.asks {name : String} {found : Option String}
    (h : LookedUp search process name found calls) :
    ∀ call ∈ calls, ∃ path answer, call = .isExecutable process path answer := by
  have hdenials : ∀ paths : List String, ∀ call ∈ denials process paths,
      ∃ path answer, call = .isExecutable process path answer := by
    intro paths call hcall
    obtain ⟨path, -, rfl⟩ := List.mem_map.mp hcall
    exact ⟨_, _, rfl⟩
  cases h with
  | unnamed _ => simp
  | missing _ => exact hdenials _
  | found _ _ _ =>
    intro call hcall
    rcases List.mem_append.mp hcall with hcall | hcall
    · exact hdenials _ call hcall
    · exact ⟨_, _, List.mem_singleton.mp hcall⟩

/-- A search changes nothing. -/
theorem LookedUp.inert {name : String} {found : Option String}
    (h : LookedUp search process name found calls) :
    Record.created calls = [] ∧ Record.duplicated calls = [] ∧ Record.executed calls = [] ∧
      Record.written calls = [] := by
  refine ⟨?_, ?_, ?_, ?_⟩ <;>
  · refine List.filterMap_eq_nil_iff.mpr fun call hcall => ?_
    obtain ⟨path, answer, rfl⟩ := h.asks call hcall
    rfl

theorem Unopened.seen {target : Path} (h : Unopened process target calls) :
    (target, true) ∉ Record.created calls ∧ Record.executed calls = [] ∧
      Record.written calls = [] := by
  cases h with
  | nul _ => exact ⟨List.not_mem_nil, rfl, rfl⟩
  | refused _ errno =>
    have hcreated : Record.created [.create process target redirectMode (.error errno)] =
        [(target, false)] := rfl
    rw [hcreated]
    exact ⟨by simp, rfl, rfl⟩

theorem Unpointed.seen {target : Path} (h : Unpointed process target calls process') :
    Record.created calls = [(target, true)] ∧ false ∈ Record.duplicated calls ∧
      Record.executed calls = [] ∧ Record.written calls = [] := by
  cases h with
  | output _ errno => exact ⟨rfl, List.mem_singleton.mpr rfl, rfl, rfl⟩
  | error _ errno => exact ⟨rfl, List.mem_cons_of_mem _ (List.mem_singleton.mpr rfl), rfl, rfl⟩

theorem Pointed.ne_malformed {redirection : Redirection}
    (h : Pointed process redirection calls process') : redirection ≠ .malformed := by
  rintro rfl
  cases h

/-- The files a redirection opens when all goes well. -/
def Redirection.files : Redirection → List (Path × Bool)
  | .file target => [(utf8 target, true)]
  | .absent | .malformed => []

theorem Pointed.seen {redirection : Redirection}
    (h : Pointed process redirection calls process') :
    Record.created calls = redirection.files ∧ false ∉ Record.duplicated calls ∧
      Record.executed calls = [] ∧ Record.written calls = [] := by
  cases h with
  | absent => exact ⟨rfl, List.not_mem_nil, rfl, rfl⟩
  | file _ =>
    have hboth : false ∉ [true, true] := by decide
    exact ⟨rfl, hboth, rfl, rfl⟩

/-- A child that does not become a program may still have tried. -/
theorem Unstarted.seen {command : List String} (h : Unstarted search process command calls) :
    Record.created calls = [] ∧ Record.duplicated calls = [] ∧
      (∀ run ∈ Record.executed calls, run.1 = process ∧ run.2.2 = command.map utf8) ∧
      Record.written calls = [] := by
  cases h with
  | missing hlookup =>
    obtain ⟨hcreated, hduplicated, hexecuted, hwritten⟩ := hlookup.inert
    exact ⟨hcreated, hduplicated, by simp [hexecuted], hwritten⟩
  | nul hlookup _ =>
    obtain ⟨hcreated, hduplicated, hexecuted, hwritten⟩ := hlookup.inert
    exact ⟨hcreated, hduplicated, by simp [hexecuted], hwritten⟩
  | refused hlookup _ errno =>
    obtain ⟨hcreated, hduplicated, hexecuted, hwritten⟩ := hlookup.inert
    rw [Record.created_append, Record.duplicated_append, Record.executed_append,
      Record.written_append, hcreated, hduplicated, hexecuted, hwritten]
    refine ⟨rfl, rfl, fun run hrun => ?_, rfl⟩
    rw [List.mem_singleton.mp hrun]
    exact ⟨rfl, rfl⟩

theorem Started.seen {command : List String} {status : Status}
    (h : Started search process command calls status) :
    Record.created calls = [] ∧ Record.duplicated calls = [] ∧
      (∃ program, Record.executed calls = [(process, program, command.map utf8)]) ∧
      Record.written calls = [] := by
  cases h with
  | found hlookup _ status =>
    obtain ⟨hcreated, hduplicated, hexecuted, hwritten⟩ := hlookup.inert
    rw [Record.created_append, Record.duplicated_append, Record.executed_append,
      Record.written_append, hcreated, hduplicated, hexecuted, hwritten]
    exact ⟨rfl, rfl, ⟨_, rfl⟩, rfl⟩

/-! ## The rows exclude one another -/

/-- The row of the table to which the calls of a child belong. -/
def Fate.ofCalls (redirection : Redirection) (calls : Record Process) : Fate :=
  match redirection with
  | .malformed => .malformed
  | .file target =>
    if (utf8 target, true) ∉ Record.created calls then .unopened
    else if false ∈ Record.duplicated calls then .unpointed
    else if Record.written calls = [] then .ran
    else .unstarted
  | .absent => if Record.written calls = [] then .ran else .unstarted

/-- **One fate.** The calls of a child tell which row of the table applies. -/
theorem ChildRun.fate_eq {fate : Fate} {status : Status}
    (h : ChildRun search process t fate calls status) :
    fate = .ofCalls t.redirection calls := by
  cases h with
  | malformed hredirection =>
    rw [hredirection]
    rfl
  | unopened hredirection hopening =>
    obtain ⟨hcreated, -, -⟩ := hopening.seen
    rw [hredirection]
    simp [Fate.ofCalls, hcreated]
  | unpointed hredirection hopening =>
    obtain ⟨hcreated, hduplicated, -, -⟩ := hopening.seen
    rw [hredirection]
    simp [Fate.ofCalls, hcreated, hduplicated]
  | unstarted hopening hstarting =>
    obtain ⟨hcreated, hduplicated, -, -⟩ := hopening.seen
    obtain ⟨-, hduplicated', -, -⟩ := hstarting.seen
    cases hredirection : t.redirection with
    | absent => simp [Fate.ofCalls]
    | file target =>
      rw [hredirection] at hcreated
      simp [Fate.ofCalls, hcreated, Redirection.files, hduplicated, hduplicated']
    | malformed => exact absurd hredirection hopening.ne_malformed
  | ran hopening hstarting =>
    obtain ⟨hcreated, hduplicated, -, hwritten⟩ := hopening.seen
    obtain ⟨-, hduplicated', -, hwritten'⟩ := hstarting.seen
    cases hredirection : t.redirection with
    | absent => simp [Fate.ofCalls, hwritten, hwritten']
    | file target =>
      rw [hredirection] at hcreated
      simp [Fate.ofCalls, hcreated, Redirection.files, hduplicated, hduplicated', hwritten,
        hwritten']
    | malformed => exact absurd hredirection hopening.ne_malformed

/-- **Reports.** A child that did not become a program has reported it once and ended well, and
one that did has written nothing before. -/
theorem ChildRun.reported {fate : Fate} {status : Status}
    (h : ChildRun search process t fate calls status) :
    if fate = .ran then Record.written calls = []
    else status = .exited 0 ∧
      ∃ child, Record.written calls = [(child, standardError, utf8 errorMessage)] := by
  cases h with
  | malformed _ => exact ⟨rfl, process, rfl⟩
  | unopened _ hopening =>
    obtain ⟨-, -, hwritten⟩ := hopening.seen
    exact ⟨rfl, process, by rw [Record.written_append, hwritten]; rfl⟩
  | @unpointed _ _ child _ hopening =>
    obtain ⟨-, -, -, hwritten⟩ := hopening.seen
    exact ⟨rfl, child, by rw [Record.written_append, hwritten]; rfl⟩
  | @unstarted _ _ child hopening hstarting =>
    obtain ⟨-, -, -, hwritten⟩ := hopening.seen
    obtain ⟨-, -, -, hwritten'⟩ := hstarting.seen
    exact ⟨rfl, child, by
      rw [Record.written_append, Record.written_append, hwritten, hwritten']; rfl⟩
  | ran hopening hstarting =>
    obtain ⟨-, -, -, hwritten⟩ := hopening.seen
    obtain ⟨-, -, -, hwritten'⟩ := hstarting.seen
    rw [if_pos rfl, Record.written_append, hwritten, hwritten']
    rfl

/-! ## Redirections are obeyed -/

/-- What a redirection lets a child open: the target if it has a proper name, and nothing else. -/
def Redirection.Opens : Redirection → Record Process → Prop
  | .file target, calls =>
    if hasNul (utf8 target) then Record.created calls = []
    else ∃ opened, Record.created calls = [(utf8 target, opened)]
  | .absent, calls | .malformed, calls => Record.created calls = []

/-- A child obeys a redirection. It opens what the redirection says, and what it executes is the
command, after both streams have been pointed where the redirection says. Where they lead then is
for the system to say (`Descriptors.leads`). -/
structure Obeys (process : Process) (redirection : Redirection) (command : List String)
    (calls : Record Process) : Prop where
  opens : redirection.Opens calls
  runs : ∀ run ∈ Record.executed calls, run.2.2 = command.map utf8 ∧
    ∃ opening rest, calls = opening ++ rest ∧ Pointed process redirection opening run.1

theorem Redirection.opens_file {target : String} {opened : Bool}
    (hnul : hasNul (utf8 target) = false) (h : Record.created calls = [(utf8 target, opened)]) :
    (Redirection.file target).Opens calls := by
  rw [Redirection.Opens, hnul, if_neg Bool.false_ne_true]
  exact ⟨opened, h⟩

theorem Pointed.opens {redirection : Redirection} (h : Pointed process redirection calls process')
    {more : Record Process} (hmore : Record.created more = []) :
    redirection.Opens (calls ++ more) := by
  cases h with
  | absent => exact hmore
  | file hnul => exact Redirection.opens_file hnul (by rw [Record.created_append, hmore]; rfl)

/-- **Obedience.** Every row of the table obeys the redirection of the command. -/
theorem ChildRun.obeys {fate : Fate} {status : Status}
    (h : ChildRun search process t fate calls status) :
    Obeys process t.redirection t.command calls := by
  cases h with
  | malformed hredirection =>
    rw [hredirection]
    exact ⟨rfl, fun run hrun => absurd hrun List.not_mem_nil⟩
  | unopened hredirection hopening =>
    rw [hredirection]
    cases hopening with
    | nul hnul =>
      refine ⟨?_, fun run hrun => absurd hrun List.not_mem_nil⟩
      rw [Redirection.Opens, if_pos hnul]
      rfl
    | refused hnul errno =>
      exact ⟨Redirection.opens_file hnul rfl, fun run hrun => absurd hrun List.not_mem_nil⟩
  | unpointed hredirection hopening =>
    rw [hredirection]
    cases hopening with
    | output hnul errno =>
      exact ⟨Redirection.opens_file hnul rfl, fun run hrun => absurd hrun List.not_mem_nil⟩
    | error hnul errno =>
      exact ⟨Redirection.opens_file hnul rfl, fun run hrun => absurd hrun List.not_mem_nil⟩
  | @unstarted opening starting child hopening hstarting =>
    obtain ⟨-, -, hexecuted, -⟩ := hopening.seen
    obtain ⟨hcreated, -, hruns, -⟩ := hstarting.seen
    refine ⟨hopening.opens (by rw [Record.created_append, hcreated]; rfl), fun run hrun => ?_⟩
    rw [Record.executed_append, Record.executed_append, hexecuted, Record.executed_report,
      List.nil_append, List.append_nil] at hrun
    obtain ⟨hchild, harguments⟩ := hruns run hrun
    exact ⟨harguments, opening, starting ++ [.report child], rfl, hchild ▸ hopening⟩
  | @ran opening starting child _ hopening hstarting =>
    obtain ⟨-, -, hexecuted, -⟩ := hopening.seen
    obtain ⟨hcreated, -, ⟨program, hrun⟩, -⟩ := hstarting.seen
    refine ⟨hopening.opens hcreated, fun run hmem => ?_⟩
    rw [Record.executed_append, hexecuted, hrun, List.nil_append, List.mem_singleton] at hmem
    subst hmem
    exact ⟨rfl, opening, starting, rfl, hopening⟩

/-- A child with a malformed redirection reports it and does nothing else. -/
theorem ChildRun.of_malformed {fate : Fate} {status : Status}
    (h : ChildRun search process t fate calls status) (hredirection : t.redirection = .malformed) :
    calls = [.report process] ∧ status = .exited 0 := by
  cases h with
  | malformed _ => exact ⟨rfl, rfl⟩
  | unopened hto _ | unpointed hto _ =>
    rw [hto] at hredirection
    cases hredirection
  | unstarted hopening _ | ran hopening _ => exact absurd hredirection hopening.ne_malformed

end MiniShell
