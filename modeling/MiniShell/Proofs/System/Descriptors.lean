import Mathlib.Logic.Function.Basic
import MiniShell.Proofs.Child.Fate
import MiniShell.Proofs.System.Account

/-!
# What descriptors refer to

A system says little about descriptors and files. `Descriptors` adds what every Unix system keeps
to: a descriptor refers to an open file, which descriptors made from it share, and an open file is
some file. Calls that only look something up, or that only change descriptors, leave every file as
it is (`Descriptors.still`), and so does any number of them (`Descriptors.still_account`).

With this it can be told where the streams of a child lead (`Descriptors.pointed`), and where a
message goes. `Descriptors.reports` counts the reports that go to a given file.
-/

namespace MiniShell

variable {World Process Open File : Type}

/-- Whether the call leaves all files as they are. A program that does not start does nothing. -/
def Call.isStill : Call Process → Bool
  | .isExecutable .. | .duplicate .. | .close .. | .wait .. | .execute _ _ _ (.error _) => true
  | _ => false

/-- Descriptors, open files and files of a system. -/
structure Descriptors (sys : System World Process) (Open File : Type) where
  /-- The open file that a descriptor refers to. -/
  openFile : Process → Nat → Option Open
  /-- The file that was opened. It may have been opened before, under the same name or another. -/
  file : Open → File
  /-- What a regular file holds. -/
  content : World → File → Option Bytes
  /-- The next write goes to the end of the file. -/
  AtEnd : World → Open → Prop
  /-- A process that moves takes its descriptors along. -/
  changeDir {process path process' world world'} :
    (sys.changeDir process path).run world = (.ok process', world') →
      openFile process' = openFile process
  /-- A file that is opened for output has been emptied. It goes by a descriptor that was free. -/
  create {process path mode descriptor process' world world'} :
    (sys.create process path mode).run world = (.ok (descriptor, process'), world') →
      openFile process descriptor = none ∧
        ∃ target, openFile process' = Function.update (openFile process) descriptor (some target) ∧
          AtEnd world' target ∧ ∀ held, content world' (file target) = some held → held = []
  duplicate {process old new process' world world'} :
    (sys.duplicate process old new).run world = (.ok process', world') →
      openFile process' = Function.update (openFile process) new (openFile process old)
  close {process descriptor process' world world'} :
    (sys.close process descriptor).run world = (process', world') →
      openFile process' = Function.update (openFile process) descriptor none
  /-- There is room for what is written. -/
  write {process descriptor bytes target world world'} :
    (sys.write process descriptor bytes).run world = ((), world') →
      openFile process descriptor = some target → AtEnd world target →
        content world' (file target) = (content world (file target)).map (· ++ bytes)
  still {call world world'} : Call.Happens sys world world' call → call.isStill = true →
    content world' = content world ∧ ∀ target, AtEnd world target → AtEnd world' target

/-- The system has done what was asked, where the shell takes that for granted: children are made
and awaited, and descriptors are made to refer to open files. -/
def Call.isGranted : Call Process → Bool
  | .fork answer => answer.isOk
  | .wait _ answer => answer.isOk
  | .duplicate _ _ _ answer => answer.isOk
  | _ => true

/-- No child was refused. -/
theorem Record.not_mem_fork_error {calls : Record Process}
    (h : ∀ call ∈ calls, call.isGranted = true) (errno : Errno) :
    .fork (.error errno) ∉ calls := fun hcall => absurd (h _ hcall) Bool.false_ne_true

namespace Descriptors

variable {sys : System World Process} (d : Descriptors sys Open File)

theorem still_account {calls : Record Process} {world world' : World}
    (h : Account sys world world' calls) (hstill : ∀ call ∈ calls, call.isStill = true) :
    d.content world' = d.content world ∧
      ∀ target, d.AtEnd world target → d.AtEnd world' target := by
  let related (first second : World) : Prop := d.content second = d.content first ∧
    ∀ target, d.AtEnd first target → d.AtEnd second target
  refine h.kept related (fun _ => ⟨rfl, fun _ => id⟩) ?_ fun call hmem _ _ hcall =>
    d.still hcall (hstill call hmem)
  intro first second third hfirst hsecond
  exact ⟨hsecond.1.trans hfirst.1, fun target => hsecond.2 target ∘ hfirst.2 target⟩

/-- The file that a call has opened for output. -/
def opened? : Call Process → Option Open
  | .create _ _ _ (.ok (descriptor, process)) => d.openFile process descriptor
  | _ => none

/-- One of the calls has opened the target, and the output streams of `child` refer to the file that
was opened, unless they were closed in `process`. -/
def Leads (process : Process) (target : String) (calls : Record Process) (child : Process) : Prop :=
  ∃ call ∈ calls, call.created? = some (utf8 target, true) ∧ ∃ opened,
    d.opened? call = some opened ∧
      ∀ stream, stream = standardOutput ∨ stream = standardError →
        d.openFile process stream ≠ none → d.openFile child stream = some opened

/-- **Redirection.** When both streams have been pointed at a target, they refer to the file that
was opened, which is empty. A stream that was closed before may have lent its descriptor to the
target, and then it is closed with it. -/
theorem pointed {target : String} {calls : Record Process} {process process' : Process}
    {world world' : World} (h : Pointed process (.file target) calls process')
    (haccount : Account sys world world' calls) :
    ∃ call ∈ calls, call.created? = some (utf8 target, true) ∧ ∃ opened,
      d.opened? call = some opened ∧
      (∀ stream, stream = standardOutput ∨ stream = standardError →
        d.openFile process stream ≠ none → d.openFile process' stream = some opened) ∧
      d.AtEnd world' opened ∧
      ∀ held, d.content world' (d.file opened) = some held → held = [] := by
  cases h with
  | @file _ _ descriptor made halfway pointed closed =>
    obtain ⟨world₁, hcreate, hrest⟩ := haccount
    obtain ⟨hcontent, hend⟩ := d.still_account hrest (by simp [Call.isStill])
    obtain ⟨world₂, houtput, world₃, herror, world₄, hclose, -⟩ := hrest
    obtain ⟨hfree, opened, hmade, hstart, hempty⟩ := d.create hcreate
    have hhalfway := d.duplicate houtput
    have hpointed := d.duplicate herror
    have hclosed := d.close hclose
    have hdescriptor : d.openFile made descriptor = some opened := by
      rw [hmade, Function.update_self]
    -- The descriptor still refers to the file, be it that of the standard output itself.
    have hkept : d.openFile halfway descriptor = some opened := by
      rw [hhalfway, hdescriptor, Function.update_apply]
      split
      · rfl
      · exact hdescriptor
    refine ⟨_, List.mem_cons_self, rfl, opened, hdescriptor, fun stream hstream hopen => ?_,
      hend opened hstart, hcontent ▸ hempty⟩
    have hne : stream ≠ descriptor := fun heq => hopen (heq ▸ hfree)
    rw [hclosed, Function.update_of_ne hne, hpointed]
    obtain rfl | rfl := hstream
    · rw [Function.update_of_ne (by decide), hhalfway, Function.update_self, hdescriptor]
    · rw [Function.update_self, hkept]

theorem leads {target : String} {opening rest : Record Process} {process child : Process}
    {world world' : World} (haccount : Account sys world world' (opening ++ rest))
    (h : Pointed process (.file target) opening child) : d.Leads process target opening child := by
  obtain ⟨between, hopening, -⟩ := haccount.of_append
  obtain ⟨call, hcall, hcreated, opened, hopened, hstreams, -, -⟩ := d.pointed h hopening
  exact ⟨call, hcall, hcreated, opened, hopened, hstreams⟩

/-! ## Reports -/

variable [DecidableEq File]

/-- The reports that go to a file. -/
def reports (shown : File) (calls : Record Process) : Nat :=
  (Record.written calls).countP fun write =>
    write.2 = (standardError, utf8 errorMessage) ∧
      (d.openFile write.1 standardError).map d.file = some shown

theorem reports_append (shown : File) (calls more : Record Process) :
    d.reports shown (calls ++ more) = d.reports shown calls + d.reports shown more := by
  rw [reports, Record.written_append, List.countP_append]
  rfl

theorem reports_eq_zero (shown : File) {calls : Record Process}
    (h : Record.written calls = []) : d.reports shown calls = 0 := by
  rw [reports, h]
  rfl

/-- A report goes to the file that the standard error of its process refers to. -/
theorem reports_report (shown : File) {process : Process} {target : Open}
    (h : d.openFile process standardError = some target) :
    d.reports shown [.report process] = if d.file target = shown then 1 else 0 := by
  rw [reports, Record.written_report, List.countP_singleton]
  simp [h]

end Descriptors

end MiniShell
