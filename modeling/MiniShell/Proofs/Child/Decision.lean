import MiniShell.Host.Layout
import MiniShell.Proofs.Child.Launch
import MiniShell.Proofs.Host.Descriptors

/-!
# One row of the decision table

When the child that was asked for was made and awaited, and its streams were pointed at the open
file, exactly one of four rows applies to a command, and the shell learns the status of that row
(`launch_decided`). Nothing is asked of the system but that it has granted these calls.
-/

namespace MiniShell

variable {World Process : Type} {search : SearchPath} {process : Process} {t : Tokens}

/-- Whoever waits for a child is told how it ended. -/
def Call.isTold : Call Process → Bool
  | .wait ended answer => answer = .ok ended
  | _ => true

/-- A stream stays where it is only if the system says so. -/
theorem ChildRun.ne_unpointed {fate : Fate} {calls : Record Process} {status : Status}
    (h : ChildRun search process t fate calls status)
    (hgranted : ∀ call ∈ calls, call.isGranted = true) : fate ≠ .unpointed := by
  intro hfate
  obtain ⟨child, old, new, errno, hcall⟩ := h.refused hfate
  exact absurd (hgranted _ hcall) Bool.false_ne_true

/-- Once its streams have been pointed at a target, a child looks for its program, and then only. -/
theorem ChildRun.pointed {fate : Fate} {calls : Record Process} {status : Status}
    (h : ChildRun search process t fate calls status) (hfate : fate = .unstarted ∨ fate = .ran) :
    ∃ opening rest child, calls = opening ++ rest ∧ Pointed process t.redirection opening child ∧
      Record.created rest = [] ∧ Record.duplicated rest = [] := by
  cases h with
  | malformed _ | unopened _ _ | unpointed _ _ => simp at hfate
  | @unstarted opening starting child hopening hstarting =>
    obtain ⟨hcreated, hduplicated, -, -⟩ := hstarting.seen
    refine ⟨opening, _, child, rfl, hopening, ?_, ?_⟩
    · rw [Record.created_append, hcreated, Record.created_report, List.append_nil]
    · rw [Record.duplicated_append, hduplicated, Record.duplicated_report, List.append_nil]
  | @ran opening starting child status hopening hstarting =>
    obtain ⟨hcreated, hduplicated, -, -⟩ := hstarting.seen
    exact ⟨opening, starting, child, rfl, hopening, hcreated, hduplicated⟩

/-- **One of four.** When the child could be made and awaited and its streams could be pointed at
the open file, a command meets one of four fates, with the calls of its row in the table and no
others. Before a program is looked for, the streams of the child lead to the target. A command that
did not run has reported it once, and the shell sees a child that ended well. -/
theorem launch_decided {sys : System World Process} {world done : World}
    {record made : Record Process} {result : Except Failure Status}
    (hrun : (launch sys.recorded search process t).run (world, record) =
      (result, (done, record ++ made)))
    (hgranted : ∀ call ∈ made, call.isGranted = true)
    (htold : ∀ call ∈ made, call.isTold = true) :
    ∃ fate calls status,
      fate ≠ .unpointed ∧ ChildRun search process t fate calls status ∧
      (∀ fate' status', ChildRun search process t fate' calls status' → fate' = fate) ∧
      (fate ≠ .ran → status = .exited 0 ∧
        ∃ child, Record.written calls = [(child, standardError, utf8 errorMessage)]) ∧
      (∀ target, t.redirection = .file target → fate = .unstarted ∨ fate = .ran →
        ∃ opening rest child, calls = opening ++ rest ∧
          Pointed process (.file target) opening child ∧
          Record.created rest = [] ∧ Record.duplicated rest = [] ∧
          ∀ (Open File : Type) (d : Descriptors sys Open File),
            d.Leads process target opening child) ∧
      made = .fork (.ok ()) :: (calls ++ [.wait status (.ok status)]) ∧ result = .ok status ∧
      (launch sys search process t).run world = (.ok status, done) := by
  have hplain := ((similar_recorded sys).launch search process t).run_eq hrun
  have haccount := ((similar_follows sys (world, record)).launch search process t).account hrun
  obtain ⟨_, _, _, hrow, hmade⟩ := launch_makes sys search process t world record
  rw [hrun, Prod.mk.injEq, Prod.mk.injEq] at hrow
  obtain ⟨rfl, rfl, hcalls⟩ := hrow
  rw [← List.append_cancel_left hcalls] at hmade
  cases hmade with
  | unforked errno => exact absurd (hgranted _ List.mem_cons_self) Bool.false_ne_true
  | @forked fate calls status hchild ended =>
    have hended : ended = .ok status := of_decide_eq_true (htold (.wait status ended) (by simp))
    have hmem : calls ⊆ .fork (.ok ()) :: (calls ++ [.wait status ended]) :=
      fun call hcall => List.mem_cons_of_mem _ (List.mem_append_left _ hcall)
    have hreported := hchild.reported
    obtain ⟨forked, -, hrest⟩ := haccount
    obtain ⟨between, hlife, -⟩ := hrest.of_append
    subst hended
    refine ⟨fate, calls, status, hchild.ne_unpointed fun call hcall => hgranted call (hmem hcall),
      hchild, fun fate' status' hchild' => ?_, fun hfate => ?_, fun target htarget hfate => ?_, rfl,
      rfl, hplain⟩
    · rw [hchild'.fate_eq, hchild.fate_eq]
    · rwa [if_neg hfate] at hreported
    · obtain ⟨opening, rest, child, rfl, hopening, hcreated, hduplicated⟩ := hchild.pointed hfate
      rw [htarget] at hopening
      exact ⟨opening, rest, child, rfl, hopening, hcreated, hduplicated,
        fun _ _ d => d.leads hlife hopening⟩

/-- On a machine as it comes: the target is open, and then there is no program of that name. -/
theorem launch_decided_not_found :
    let start := Host.start [] []
    let t := Tokens.ofLine "nope > out" 10
    ∃ done made, (launch Host.system.recorded .standard start.process t).run (start.machine, []) =
        (.ok (.exited 0), (done, [] ++ made)) ∧
      (∀ call ∈ made, call.isGranted = true) ∧ (∀ call ∈ made, call.isTold = true) ∧
      ∃ calls, ChildRun .standard start.process t .unstarted calls (.exited 0) ∧
        (∃ child, Record.written calls = [(child, standardError, utf8 errorMessage)]) ∧
        (∃ opening rest child, calls = opening ++ rest ∧
          Host.descriptors.Leads start.process "out" opening child) ∧
        (launch Host.system .standard start.process t).run start.machine =
          (.ok (.exited 0), done) := by
  intro start t
  have hfacts :
      let ran := (launch Host.system.recorded .standard start.process t).run (start.machine, [])
      (∀ call ∈ ran.2.2, call.isGranted = true) ∧ (∀ call ∈ ran.2.2, call.isTold = true) ∧
        Fate.ofCalls t.redirection ran.2.2.tail.dropLast = .unstarted ∧
        t.redirection = .file "out" := by
    decide +kernel
  rcases hran : (launch Host.system.recorded .standard start.process t).run (start.machine, []) with
    ⟨result, done, made⟩
  rw [hran] at hfacts
  clear_value t start
  obtain ⟨hgranted, htold, hfate, htarget⟩ := hfacts
  have hrun : (launch Host.system.recorded .standard start.process t).run (start.machine, []) =
      (result, (done, [] ++ made)) := hran
  obtain ⟨fate, calls, status, -, hchild, -, hfailed, hleads, rfl, rfl, hplain⟩ :=
    launch_decided hrun hgranted htold
  have hunstarted : fate = .unstarted := by
    rw [hchild.fate_eq, ← hfate, List.tail_cons, List.dropLast_concat]
  subst hunstarted
  obtain ⟨rfl, hreport⟩ := hfailed (by decide)
  obtain ⟨opening, rest, child, hcalls, -, -, -, hlead⟩ := hleads "out" htarget (.inl rfl)
  exact ⟨done, _, rfl, hgranted, htold, calls, hchild, hreport,
    ⟨opening, rest, child, hcalls, hlead _ _ Host.descriptors⟩, hplain⟩

end MiniShell
