import MiniShell.Proofs.Session.OnRecord
import MiniShell.Proofs.System.Descriptors

/-!
# What a line has to report

A line can go wrong in three ways (`Fault`): a built-in fails, no program runs and the streams of
the child are still those of the shell, or no program runs and they have been pointed at a target.
Which way it is can be told from the line and from the answers of the system (`Shell.fault?`).
Nothing of what is written is looked at.

A line makes one report if it went wrong in one of the first two ways, and none otherwise. In the
third way the report is all that the target holds (`ChildRun.faulted`, `LineRun.faulted`).
-/

namespace MiniShell

variable {World Process Open File : Type}

/-! ## Faults -/

/-- How a line went wrong. -/
inductive Fault where
  /-- A built-in failed. -/
  | builtin
  /-- No program ran, and the streams were those of the shell. -/
  | early
  /-- No program ran, and the streams had been pointed at the target. -/
  | late (target : String)
  deriving DecidableEq, Repr

/-- The reports that a line makes on the standard error of the session. -/
def Fault.reportsDue : Option Fault → Nat
  | some .builtin | some .early => 1
  | some (.late _) | none => 0

theorem Fault.reportsDue_eq (fault : Option Fault) :
    reportsDue fault =
      (if fault = some .builtin then 1 else 0) + if fault = some .early then 1 else 0 := by
  rcases fault with _ | _ | _ | _ <;> rfl

/-- Whether a program has been started. -/
def Call.starts : Call Process → Bool
  | .execute _ _ _ answer => answer.isOk
  | _ => false

def Record.hasStarted (calls : Record Process) : Bool := calls.any Call.starts

/-- How an external command went wrong, if it did. -/
def Tokens.fault? (t : Tokens) (calls : Record Process) : Option Fault :=
  match t.redirection with
  | .malformed => some .early
  | .absent => if Record.hasStarted calls then none else some .early
  | .file target =>
    if (Record.created calls).contains (utf8 target, true) then
      if Record.hasStarted calls then none else some (.late target)
    else some .early

/-- How a line with this result and these calls went wrong, if it did. -/
def Shell.fault? (sh : Shell Process) (line : String) (result : Except Failure Outcome)
    (calls : Record Process) : Option Fault :=
  match (sh.tokens line).toList with
  | [] => none
  | name :: _ =>
    if sh.builtins.any (·.name == name) then if result.isOk then none else some .builtin
    else (sh.tokens line).fault? calls

namespace Record

theorem hasStarted_append (calls more : Record Process) :
    hasStarted (calls ++ more) = (hasStarted calls || hasStarted more) := List.any_append

theorem not_hasStarted {calls : Record Process} (h : ∀ call ∈ calls, call.isStill = true) :
    hasStarted calls = false := by
  refine List.any_eq_false.mpr fun call hcall hstarts => ?_
  have hstill := h call hcall
  cases call with
  | execute _ _ _ answer =>
    cases answer with
    | error errno => cases hstarts
    | ok status => cases hstill
  | _ => cases hstarts

end Record

/-- What happens around a child makes no difference to how it went wrong. -/
theorem Tokens.fault?_launched (t : Tokens) (calls : Record Process) (status : Status)
    (ended : Except Errno Status) :
    t.fault? (.fork (.ok ()) :: (calls ++ [.wait status ended])) = t.fault? calls := by
  have hcreated : Record.created (.fork (.ok ()) :: (calls ++ [.wait status ended])) =
      Record.created calls := (Record.created_append calls _).trans (List.append_nil _)
  have hstarted : Record.hasStarted (.fork (.ok ()) :: (calls ++ [.wait status ended])) =
      Record.hasStarted calls := (Record.hasStarted_append calls _).trans (Bool.or_false _)
  rw [fault?, fault?, hcreated, hstarted]

/-! ## Children -/

section Child

variable {search : SearchPath} {process process' : Process} {calls : Record Process}

theorem LookedUp.still {name : String} {found : Option String}
    (h : LookedUp search process name found calls) : ∀ call ∈ calls, call.isStill = true := by
  intro call hcall
  obtain ⟨path, answer, rfl⟩ := h.asks call hcall
  rfl

/-- A child that does not become a program leaves all files as they are. -/
theorem Unstarted.still {command : List String} (h : Unstarted search process command calls) :
    ∀ call ∈ calls, call.isStill = true := by
  cases h with
  | missing hlookup | nul hlookup _ => exact hlookup.still
  | refused hlookup _ errno =>
    intro call hcall
    rcases List.mem_append.mp hcall with hcall | hcall
    · exact hlookup.still call hcall
    · rw [List.mem_singleton.mp hcall]
      rfl

theorem Started.hasStarted {command : List String} {status : Status}
    (h : Started search process command calls status) : Record.hasStarted calls = true := by
  cases h with
  | found _ _ status =>
    rw [Record.hasStarted_append]
    exact Bool.or_true _

theorem Unpointed.not_hasStarted {target : Path}
    (h : Unpointed process target calls process') :
    Record.hasStarted (calls ++ [.report process']) = false := by
  cases h <;> rfl

theorem Pointed.not_hasStarted {redirection : Redirection}
    (h : Pointed process redirection calls process') : Record.hasStarted calls = false := by
  cases h <;> rfl

end Child

/-- How a child went wrong that has come to this end. -/
def Fate.fault? : Fate → Redirection → Option Fault
  | .ran, _ => none
  | .unstarted, .file target | .unpointed, .file target => some (.late target)
  | _, _ => some .early

/-- Once the streams are in place, it is left to the program to start. -/
theorem Pointed.fault?_eq {process process' : Process} {t : Tokens} {opening : Record Process}
    (h : Pointed process t.redirection opening process') (more : Record Process) :
    t.fault? (opening ++ more) =
      if Record.hasStarted (opening ++ more) then none
      else Fate.unstarted.fault? t.redirection := by
  obtain ⟨hcreated, -, -, -⟩ := h.seen
  cases hredirection : t.redirection with
  | malformed => exact absurd hredirection h.ne_malformed
  | absent =>
    rw [Tokens.fault?, hredirection]
    rfl
  | file target =>
    have hmem : (utf8 target, true) ∈ Record.created (opening ++ more) := by
      rw [Record.created_append, hcreated, hredirection]
      exact List.mem_cons_self
    rw [Tokens.fault?, hredirection]
    exact if_pos (List.contains_iff_mem.mpr hmem)

/-- How a child went wrong can be told from its row in the decision table. -/
theorem ChildRun.fault?_eq {search : SearchPath} {process : Process} {t : Tokens} {fate : Fate}
    {calls : Record Process} {status : Status} (h : ChildRun search process t fate calls status) :
    t.fault? calls = fate.fault? t.redirection := by
  cases h with
  | malformed hredirection =>
    rw [Tokens.fault?, hredirection]
    rfl
  | @unopened target opening hredirection hopening =>
    obtain ⟨hcreated, -, -⟩ := hopening.seen
    rw [Tokens.fault?, hredirection, Record.created_append, Record.created_report, List.append_nil]
    exact if_neg fun hmem => hcreated (List.contains_iff_mem.mp hmem)
  | @unpointed target opening child hredirection hopening =>
    obtain ⟨hcreated, -, -, -⟩ := hopening.seen
    rw [Tokens.fault?, hredirection, Record.created_append, hcreated, hopening.not_hasStarted]
    exact if_pos (List.contains_iff_mem.mpr List.mem_cons_self)
  | @unstarted opening starting child hopening hstarting =>
    have hstarted : Record.hasStarted (opening ++ (starting ++ [.report child])) = false := by
      rw [Record.hasStarted_append, Record.hasStarted_append, hopening.not_hasStarted,
        Record.not_hasStarted hstarting.still]
      rfl
    rw [hopening.fault?_eq, hstarted]
    rfl
  | @ran opening starting child status hopening hstarting =>
    have hstarted : Record.hasStarted (opening ++ starting) = true := by
      rw [Record.hasStarted_append, hstarting.hasStarted]
      exact Bool.or_true _
    rw [hopening.fault?_eq, hstarted]
    rfl

/-! ## Where the report of a fault is -/

namespace Descriptors

variable {sys : System World Process} (d : Descriptors sys Open File)

/-- What is taken for granted of a call: it has done what was asked, and it has not opened the
standard error of the session under another name. -/
def Allows (terminal : Open) (call : Call Process) : Prop :=
  call.isGranted = true ∧ (d.opened? call).map d.file ≠ some (d.file terminal)

instance [DecidableEq File] (terminal : Open) (call : Call Process) :
    Decidable (d.Allows terminal call) := inferInstanceAs (Decidable (_ ∧ _))

/-- The target has been opened by one of the calls, and holds one report and nothing else if it is
a regular file. -/
def HoldsReport (world : World) (target : String) (calls : Record Process) : Prop :=
  ∃ call ∈ calls, call.created? = some (utf8 target, true) ∧ ∃ opened,
    d.opened? call = some opened ∧
      ∀ held, d.content world (d.file opened) = some held → held = utf8 errorMessage

variable [DecidableEq File]

/-- The calls have made one report of the fault, if there is one. It has gone to the standard error
of the session, or to the target that the streams had been pointed at. -/
def Reported (terminal : Open) (world : World) (calls : Record Process) : Option Fault → Prop
  | none => d.reports (d.file terminal) calls = 0
  | some .builtin | some .early => d.reports (d.file terminal) calls = 1
  | some (.late target) =>
    d.reports (d.file terminal) calls = 0 ∧ d.HoldsReport world target calls

namespace Reported

variable {d} {terminal : Open} {world world' : World} {calls more : Record Process}
  {fault : Option Fault}

theorem reports_eq (h : d.Reported terminal world calls fault) :
    d.reports (d.file terminal) calls = Fault.reportsDue fault := by
  rcases fault with _ | _ | _ | target
  case none | builtin | early => exact h
  case late => exact h.1

/-- Calls that report nothing and leave files as they are make no difference. -/
theorem of_subset (h : d.Reported terminal world calls fault) (hcalls : calls ⊆ more)
    (hreports : d.reports (d.file terminal) more = d.reports (d.file terminal) calls)
    (hcontent : d.content world' = d.content world) : d.Reported terminal world' more fault := by
  rcases fault with _ | _ | _ | target
  case none | builtin | early => exact hreports.trans h
  case late =>
    obtain ⟨hnone, call, hcall, hcreated, opened, hopened, hheld⟩ := h
    exact ⟨hreports.trans hnone, call, hcalls hcall, hcreated, opened, hopened, hcontent ▸ hheld⟩

end Reported

end Descriptors

/-- A built-in leaves the descriptors of the shell as they are. -/
theorem PerformRun.openFile_eq {sys : System World Process} (d : Descriptors sys Open File)
    {env : Environment Process} {builtin : Builtin} {arguments : List String}
    {answer : Except Failure Control × Environment Process} {calls more : Record Process}
    {world world' : World} (h : PerformRun env builtin arguments calls answer)
    (haccount : Account sys world world' (calls ++ more)) :
    d.openFile answer.2.process = d.openFile env.process := by
  cases h with
  | ended _ | misused _ | unmoved _ => rfl
  | moved hmove =>
    cases hmove with
    | moved _ _ _ =>
      obtain ⟨between, hmoved, -⟩ := haccount
      exact d.changeDir hmoved

section Faulted

variable {sys : System World Process} (d : Descriptors sys Open File) [DecidableEq File]
  {terminal : Open} {calls : Record Process} {world world' : World}

/-- The report of a child whose streams have been pointed at a target goes there. -/
theorem Pointed.reported {target : String} {process child : Process}
    {opening starting : Record Process} (h : Pointed process (.file target) opening child)
    (hstill : ∀ call ∈ starting, call.isStill = true) (hsilent : Record.written starting = [])
    (haccount : Account sys world world' (opening ++ (starting ++ [.report child])))
    (hallowed : ∀ call ∈ opening ++ (starting ++ [.report child]), d.Allows terminal call)
    (hterminal : d.openFile process standardError = some terminal) :
    d.Reported terminal world' (opening ++ (starting ++ [.report child]))
      (some (.late target)) := by
  obtain ⟨between, hopened, hrest⟩ := haccount.of_append
  obtain ⟨failed, hfailed, reported, hreport, rfl⟩ := hrest.of_append
  obtain ⟨call, hcall, hcreated, opened, hfile, hstreams, hend, hempty⟩ := d.pointed h hopened
  have herror : d.openFile child standardError = some opened :=
    hstreams standardError (.inr rfl) (hterminal ▸ Option.some_ne_none terminal)
  obtain ⟨hcontent, hstays⟩ := d.still_account hfailed hstill
  have hmem := List.mem_append_left (starting ++ [.report child]) hcall
  constructor
  · have hother : d.file opened ≠ d.file terminal := by
      have hallows := (hallowed call hmem).2
      rw [hfile] at hallows
      exact fun heq => hallows (congrArg some heq)
    obtain ⟨-, -, -, hwritten⟩ := h.seen
    rw [d.reports_append, d.reports_append, d.reports_eq_zero _ hwritten,
      d.reports_eq_zero _ hsilent, d.reports_report _ herror, if_neg hother]
  · refine ⟨call, hmem, hcreated, opened, hfile, fun held hheld => ?_⟩
    rw [d.write hreport herror (hstays opened hend), hcontent, Option.map_eq_some_iff] at hheld
    obtain ⟨before, hbefore, rfl⟩ := hheld
    rw [hempty before hbefore]
    rfl

/-- **Children.** A child that fails makes one report. Behind a redirection it goes to the target,
which holds nothing else. -/
theorem ChildRun.faulted {search : SearchPath} {process : Process} {t : Tokens} {fate : Fate}
    {status : Status} (h : ChildRun search process t fate calls status)
    (haccount : Account sys world world' calls) (hallowed : ∀ call ∈ calls, d.Allows terminal call)
    (hterminal : d.openFile process standardError = some terminal) :
    d.Reported terminal world' calls (t.fault? calls) := by
  have hown : d.reports (d.file terminal) [.report process] = 1 :=
    (d.reports_report _ hterminal).trans (if_pos rfl)
  have hpointed : fate ≠ .unpointed := by
    intro hfate
    obtain ⟨child, old, new, errno, hcall⟩ := h.refused hfate
    exact absurd (hallowed _ hcall).1 Bool.false_ne_true
  rw [h.fault?_eq]
  cases h with
  | malformed hredirection => exact hown
  | unopened hredirection hopening =>
    obtain ⟨-, -, hwritten⟩ := hopening.seen
    show d.reports (d.file terminal) (_ ++ [.report process]) = 1
    rw [d.reports_append, d.reports_eq_zero _ hwritten, hown]
  | unpointed _ _ => exact absurd rfl hpointed
  | @unstarted opening starting child hopening hstarting =>
    obtain ⟨-, -, -, hwritten⟩ := hstarting.seen
    cases hredirection : t.redirection with
    | malformed => exact absurd hredirection hopening.ne_malformed
    | absent =>
      rw [hredirection] at hopening
      cases hopening with
      | absent =>
        show d.reports (d.file terminal) (starting ++ [.report process]) = 1
        rw [d.reports_append, d.reports_eq_zero _ hwritten, hown]
    | file target =>
      rw [hredirection] at hopening
      exact hopening.reported d hstarting.still hwritten haccount hallowed hterminal
  | @ran opening starting child status hopening hstarting =>
    obtain ⟨-, -, -, hwritten⟩ := hopening.seen
    obtain ⟨-, -, -, hwritten'⟩ := hstarting.seen
    show d.reports (d.file terminal) (opening ++ starting) = 0
    rw [d.reports_append, d.reports_eq_zero _ hwritten, d.reports_eq_zero _ hwritten']

/-- The shell learns how a command ended, when children can be made and awaited. -/
theorem LaunchRun.awaited {search : SearchPath} {process : Process} {t : Tokens}
    {result : Except Failure Status} (h : LaunchRun search process t calls result)
    (hgranted : ∀ call ∈ calls, call.isGranted = true) : ∃ status, result = .ok status := by
  cases h with
  | unforked errno => exact absurd (hgranted _ List.mem_cons_self) Bool.false_ne_true
  | @forked _ _ status _ ended =>
    cases ended with
    | error errno =>
      exact absurd (hgranted (.wait status (.error errno)) (by simp)) Bool.false_ne_true
    | ok ended => exact ⟨ended, rfl⟩

/-- A command that is launched is a child and nothing more. -/
theorem LaunchRun.faulted {search : SearchPath} {process : Process} {t : Tokens}
    {result : Except Failure Status} (h : LaunchRun search process t calls result)
    (haccount : Account sys world world' calls) (hallowed : ∀ call ∈ calls, d.Allows terminal call)
    (hterminal : d.openFile process standardError = some terminal) :
    d.Reported terminal world' calls (t.fault? calls) := by
  cases h with
  | unforked errno => exact absurd (hallowed _ List.mem_cons_self).1 Bool.false_ne_true
  | @forked _ calls status hchild ended =>
    have hwritten : Record.written (.fork (.ok ()) :: (calls ++ [.wait status ended])) =
        Record.written calls :=
      (Record.written_append calls _).trans (List.append_nil _)
    have hmem : calls ⊆ .fork (.ok ()) :: (calls ++ [.wait status ended]) :=
      fun call hcall => List.mem_cons_of_mem _ (List.mem_append_left _ hcall)
    obtain ⟨forked, -, hrest⟩ := haccount
    obtain ⟨between, hlife, hwait⟩ := hrest.of_append
    obtain ⟨hkept, -⟩ := d.still_account hwait (by simp [Call.isStill])
    have hchild := hchild.faulted d hlife (fun call hcall => hallowed call (hmem hcall)) hterminal
    rw [t.fault?_launched]
    refine hchild.of_subset hmem ?_ hkept
    rw [Descriptors.reports, Descriptors.reports, hwritten]

/-! ## Lines -/

/-- **Lines.** A line that went wrong makes one report. It goes to the standard error of the
session, unless the streams had been pointed at a target. -/
theorem LineRun.faulted {sh : Shell Process} {line : String}
    {answer : Except Failure Outcome × Shell Process} (h : LineRun sh line calls answer)
    (haccount : Account sys world world' (calls ++ Shell.reportOf answer))
    (hallowed : ∀ call ∈ calls, d.Allows terminal call)
    (hterminal : d.openFile sh.env.process standardError = some terminal) :
    d.openFile answer.2.env.process standardError = some terminal ∧
      d.Reported terminal world' (calls ++ Shell.reportOf answer)
        (sh.fault? line answer.1 (calls ++ Shell.reportOf answer)) := by
  cases h with
  | blank htokens =>
    have hfault : sh.fault? line (.ok .empty) [] = none := by rw [Shell.fault?, htokens]
    rw [Shell.reportOf, List.append_nil, hfault]
    exact ⟨hterminal, d.reports_eq_zero _ rfl⟩
  | @builtin builtin arguments _ result env hbuiltin htokens hperform =>
    have hname : sh.builtins.any (·.name == builtin.name) = true :=
      List.any_eq_true.mpr ⟨builtin, hbuiltin, beq_self_eq_true _⟩
    have hstays : d.openFile env.process standardError = some terminal := by
      rw [hperform.openFile_eq d haccount, hterminal]
    have hsilent : d.reports (d.file terminal) calls = 0 :=
      d.reports_eq_zero _ hperform.written_eq_nil
    refine ⟨hstays, ?_⟩
    rw [Shell.fault?, htokens]
    dsimp only
    rw [if_pos hname]
    cases result with
    | ok control =>
      show d.reports (d.file terminal) (calls ++ []) = 0
      rwa [List.append_nil]
    | error failure =>
      show d.reports (d.file terminal) (calls ++ [.report env.process]) = 1
      rw [d.reports_append, hsilent, d.reports_report _ hstays, if_pos rfl]
  | @launched name arguments _ result hname htokens hlaunch =>
    refine ⟨hterminal, ?_⟩
    have hother : ¬ sh.builtins.any (·.name == name) = true := by
      intro hany
      obtain ⟨builtin, hbuiltin, heq⟩ := List.any_eq_true.mp hany
      exact hname builtin hbuiltin (beq_iff_eq.mp heq)
    obtain ⟨status, rfl⟩ := hlaunch.awaited fun call hcall => (hallowed call hcall).1
    rw [Except.map, Shell.reportOf, List.append_nil] at haccount ⊢
    have hfault : sh.fault? line (.ok (.external status)) calls =
        (sh.tokens line).fault? calls := by
      rw [Shell.fault?, htokens]
      exact if_neg hother
    rw [hfault]
    exact hlaunch.faulted d haccount hallowed hterminal

end Faulted

end MiniShell
