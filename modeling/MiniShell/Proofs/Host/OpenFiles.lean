import MiniShell.Host.Layout
import MiniShell.Proofs.Child.Output
import MiniShell.Proofs.Host.Descriptors

/-!
# The open files of a machine

A machine keeps to what `OpenFiles` says (`openFiles`). Open files go by their indices and files by
the numbers of their nodes. A node keeps bytes if it is a regular file or a stream, and all that is
said of a machine here is said of the bytes that its nodes keep.
-/

namespace MiniShell.Host

/-- Whether a node is a regular file, and the bytes it keeps. -/
def Node.stored : Node → Bool × Bytes
  | .file _ content => (true, content)
  | .pipe unread => (false, unread)
  | _ => (false, [])

namespace Machine

variable {m m' : Machine}

/-- What there is under a number. -/
def stored (m : Machine) (number : Nat) : Bool × Bytes :=
  ((m.node? number).map Node.stored).getD (false, [])

/-- The files of a machine. -/
def files (m : Machine) : Files Nat Nat where
  description index := m.openFiles[index]?.map fun file =>
    ⟨file.node, file.position, decide (file.access = .append)⟩
  isRegular number := (m.stored number).1
  content number := (m.stored number).2

theorem stored_of_node? {number : Nat} {node : Node} (h : m.node? number = some node) :
    m.stored number = node.stored := by
  rw [stored, h]
  rfl

theorem stored_setNode_of_ne {number other : Nat} (h : other ≠ number) (node : Node) :
    (m.setNode number node).stored other = m.stored other := by
  unfold stored node? setNode
  rw [List.getElem?_set_ne h.symm]

theorem stored_setNode_self {number : Nat} {old : Node} (h : m.node? number = some old)
    (node : Node) : (m.setNode number node).stored number = node.stored :=
  stored_of_node? (node?_setNode_self h node)

theorem stored_addNode_of_ne {other : Nat} (h : other ≠ m.nodes.length) (node : Node) :
    (m.addNode node).2.stored other = m.stored other := by
  unfold stored node? addNode
  rcases Nat.lt_or_gt_of_ne h with hlt | hgt
  · rw [List.getElem?_append_left hlt]
  · rw [List.getElem?_eq_none (by simp; omega), List.getElem?_eq_none (by omega)]

/-- Directories keep no bytes, whatever their entries. -/
theorem stored_addEntry (dir number other : Nat) (name : Bytes) :
    (m.addEntry dir name number).stored other = m.stored other :=
  node?_addEntry (fun node => (node.map Node.stored).getD (false, [])) (fun _ _ => rfl) dir number
    other name

theorem node?_of_isRegular {number : Nat} (h : (m.stored number).1 = true) :
    ∃ mode, m.node? number = some (.file mode (m.stored number).2) := by
  unfold stored at h ⊢
  cases hnode : m.node? number with
  | none =>
    rw [hnode] at h
    exact absurd h Bool.false_ne_true
  | some node =>
    rw [hnode] at h
    cases node with
    | file mode content => exact ⟨mode, rfl⟩
    | _ => exact absurd h Bool.false_ne_true

/-! ## Opening for output -/

theorem openExisting_elsewhere {number : Nat} (h : m.openExisting number true = .ok m') :
    m'.openFiles = m.openFiles ∧ ∀ other, other ≠ number → m'.stored other = m.stored other := by
  unfold openExisting at h
  split at h
  case h_1 | h_2 | h_3 => cases h
  case h_4 | h_5 =>
    cases h
    exact ⟨rfl, fun other hne => stored_setNode_of_ne hne _⟩
  all_goals
    cases h
    exact ⟨rfl, fun _ _ => rfl⟩

/-- What is opened for output is the only file that is touched. -/
theorem openOutput_elsewhere {workingDir mask mode number : Nat} {path : Path}
    (h : m.openOutput workingDir mask path mode true = (.ok number, m')) :
    m'.openFiles = m.openFiles ∧ ∀ other, other ≠ number → m'.stored other = m.stored other := by
  obtain hopen | ⟨place, name, rfl, rfl⟩ := openOutput_cases h
  · exact openExisting_elsewhere hopen
  · refine ⟨?_, fun other hne => ?_⟩
    · unfold addEntry
      split <;> rfl
    · rw [stored_addEntry, stored_addNode_of_ne hne]

/-- A file that cannot be opened has not been touched. -/
theorem openOutput_error {workingDir mask mode : Nat} {path : Path} {errno : Errno}
    (h : m.openOutput workingDir mask path mode true = (.error errno, m')) : m' = m := by
  unfold openOutput at h
  grind

theorem description_addOpenFile (m : Machine) (file : OpenFile) :
    (m.addOpenFile file).2.files.description = Function.update m.files.description
      m.openFiles.length (some ⟨file.node, file.position, decide (file.access = .append)⟩) := by
  funext index
  show ((m.openFiles ++ [file])[index]?).map _ = _
  rw [Function.update_apply, List.getElem?_append]
  split_ifs with hlt heq heq
  · omega
  · rfl
  · rw [heq, Nat.sub_self]
    rfl
  · rw [List.getElem?_eq_none (by simp; omega)]
    exact congrArg (Option.map _) (List.getElem?_eq_none (by omega)).symm

/-! ## Writing -/

section Write

variable {index : Nat} {file : OpenFile} (h : m.openFiles[index]? = some file) (bytes : Bytes)

include h

/-- A write reaches the node of the open file only. -/
theorem writeOpenFile_elsewhere {other : Nat} (hne : other ≠ file.node) :
    (m.writeOpenFile index bytes).2.stored other = m.stored other := by
  rw [writeOpenFile, h]
  dsimp only
  by_cases hwrites : (!file.access.writes) = true
  · rw [if_pos hwrites]
  · rw [if_neg hwrites]
    split
    · exact stored_setNode_of_ne hne _
    · exact stored_setNode_of_ne hne _
    · rfl
    · rfl

theorem writes_of_isOk (hcomplete : (m.writeOpenFile index bytes).1.isOk = true) :
    file.access.writes = true := by
  rw [writeOpenFile, h] at hcomplete
  by_contra hwrites
  dsimp only at hcomplete
  rw [if_pos (by simpa using hwrites)] at hcomplete
  cases hcomplete

theorem description_setOpenFile (file' : OpenFile) :
    (m.setOpenFile index file').files.description = Function.update m.files.description index
      (some ⟨file'.node, file'.position, decide (file'.access = .append)⟩) := by
  have hlt : index < m.openFiles.length := (List.getElem?_eq_some_iff.1 h).1
  funext other
  rw [Function.update_apply]
  unfold files setOpenFile
  dsimp only
  split_ifs with heq
  · rw [heq, List.getElem?_set_self hlt]
    rfl
  · rw [List.getElem?_set_ne (Ne.symm heq)]

theorem writeOpenFile_complete (hcomplete : (m.writeOpenFile index bytes).1.isOk = true)
    (hregular : (m.stored file.node).1 = true) :
    (m.writeOpenFile index bytes).2.files = m.files.write index
      ⟨file.node, file.position, decide (file.access = .append)⟩ bytes := by
  have hwrites := writes_of_isOk h bytes hcomplete
  obtain ⟨mode, hnode⟩ := node?_of_isRegular hregular
  rw [writeOpenFile, h]
  dsimp only
  rw [hwrites, if_neg (by decide), hnode]
  unfold Files.write
  simp only [decide_eq_true_eq]
  ext1
  · exact description_setOpenFile (m := m.setNode file.node _) h _
  · funext other
    by_cases heq : other = file.node
    · rw [heq]
      exact (congrArg Prod.fst (stored_setNode_self hnode _)).trans hregular.symm
    · exact congrArg Prod.fst (stored_setNode_of_ne heq _)
  · funext other
    dsimp only
    by_cases heq : other = file.node
    · rw [heq, Function.update_self]
      exact congrArg Prod.snd (stored_setNode_self hnode _)
    · rw [Function.update_of_ne heq]
      exact congrArg Prod.snd (stored_setNode_of_ne heq _)

end Write

end Machine

/-- The machine keeps to what is said of output. -/
def openFiles : OpenFiles system Nat Nat where
  openFile := Process.openFile?
  files := Machine.files
  Complete m p descriptor bytes := (m.write p descriptor bytes).1.isOk = true
  create {p path mode descriptor p' m m'} h := by
    have hrun : (match m.openOutput p.workingDir p.mask path mode true with
      | (.error errno, m) => (.error errno, m)
      | (.ok number, m) =>
        let (opened, m) := m.openNode p number .readWrite
        (.ok opened, m)) = (Except.ok (descriptor, p'), m') := h
    split at hrun
    · cases hrun
    · next number opened houtput =>
      cases hrun
      obtain ⟨hfiles, hothers⟩ := Machine.openOutput_elsewhere houtput
      have hnew : m.files.description m.openFiles.length = none :=
        congrArg (Option.map _) (List.getElem?_eq_none (Nat.le_refl _))
      have hdescription := opened.description_addOpenFile ⟨number, 0, .readWrite⟩
      have hkept : opened.files.description = m.files.description := by
        unfold Machine.files
        rw [hfiles]
      rw [hfiles, hkept] at hdescription
      refine ⟨p.openFile?_lowestFree, m.openFiles.length, number, hnew, ?_, hdescription, ?_⟩
      · rw [← hfiles]
        exact p.openFile?_assign _ _
      · intro hregular
        funext other
        rw [Function.update_apply]
        split_ifs with heq
        · rw [heq]
          obtain ⟨mode, hnode⟩ := Machine.node?_of_isRegular hregular
          exact Machine.openOutput_emptied houtput _ (congrArg (·.bind Node.held?) hnode)
        · exact congrArg Prod.snd (hothers other heq)
  create_error {p path mode errno m m'} h := by
    have hrun : (match m.openOutput p.workingDir p.mask path mode true with
      | (.error errno, m) => (.error errno, m)
      | (.ok number, m) =>
        let (opened, m) := m.openNode p number .readWrite
        (.ok opened, m)) = (Except.error errno, m') := h
    split at hrun
    · next houtput =>
      cases hrun
      rw [Machine.openOutput_error houtput]
    · cases hrun
  duplicate p old new m hold _ := by
    obtain ⟨index, hindex⟩ := Option.ne_none_iff_exists'.1 hold
    refine ⟨p.assign new index, m, ?_, ?_⟩
    · rw [duplicate_eq, hindex]
    · rw [hindex]
      exact p.openFile?_assign _ _
  close p descriptor _ := Process.openFile?_drop _ _
  write {p descriptor bytes index d m m'} h hopen hdescription := by
    cases h
    obtain ⟨file, hfile, rfl⟩ := Option.map_eq_some_iff.1 hdescription
    have hwrite : m.write p descriptor bytes = m.writeOpenFile index bytes := by
      rw [Machine.write, hopen]
    rw [hwrite]
    refine ⟨fun other hne => ?_, fun hcomplete hregular => ?_⟩
    · exact congrArg Prod.snd (Machine.writeOpenFile_elsewhere hfile bytes hne)
    · exact Machine.writeOpenFile_complete hfile bytes hcomplete hregular
  still h hstill := by rw [still_eq h hstill]

/-- A process that has both output streams, and no descriptor without an open file. -/
theorem ready_of_forall {m : Machine} {p : Process}
    (hopen : ∀ pair ∈ p.descriptors, pair.2 < m.openFiles.length)
    (houtput : (p.openFile? standardOutput).isSome = true)
    (herror : (p.openFile? standardError).isSome = true) : openFiles.Ready m p where
  isOpen descriptor index h := by
    obtain ⟨before, after, hdescriptors, -⟩ := List.lookup_eq_some_iff.1 h
    have hlt : index < m.openFiles.length :=
      hopen (descriptor, index) (hdescriptors ▸ List.mem_append_right _ List.mem_cons_self)
    show m.openFiles[index]?.map _ ≠ none
    rw [List.getElem?_eq_getElem hlt]
    exact Option.some_ne_none _
  output := Option.isSome_iff_ne_none.1 houtput
  error := Option.isSome_iff_ne_none.1 herror

/-! ## Commands on a machine

What becomes of a command is computed on a machine, so the conditions of `Command` are checked on
the states that come out. -/

theorem redirectOutput_eq {p : Process} {path : Path} {m : Machine}
    (h : ((redirectOutput system p path).run m).1.1.isOk = true) :
    (redirectOutput system p path).run m =
      ((.ok (), ((redirectOutput system p path).run m).1.2),
        ((redirectOutput system p path).run m).2) := by
  rcases hrun : (redirectOutput system p path).run m with ⟨⟨failure | _, child⟩, between⟩
  · rw [hrun] at h
    cases h
  · rfl

section Commands

variable {p child : Process} {t command : Tokens} {path : String} {m : Machine} {target : Nat}
  (search : SearchPath)

/-- The program makes one write and ends. -/
theorem prints_write {bytes : Bytes}
    (h : let ran := (becomeProgram system search child command).run m
      let written := m.write child standardOutput bytes
      ran.1.isOk = true ∧ ran.2 = written.2 ∧ written.1.isOk = true ∧
        (child.openFile? standardOutput).isSome = true) :
    openFiles.Prints target search child command m bytes := by
  rcases hstart : (becomeProgram system search child command).run m with ⟨failure | status, after⟩
  · rw [hstart] at h
    cases h.1
  · rw [hstart] at h
    obtain ⟨-, hafter, hcomplete, hopen⟩ := h
    obtain ⟨index, hindex⟩ := Option.isSome_iff_exists.1 hopen
    have hwrite : (system.write child standardOutput bytes).run m = ((), after) :=
      Prod.ext rfl hafter.symm
    have hemits : openFiles.Emits index target m (bytes ++ []) after :=
      .write hindex hcomplete hwrite .nothing
    rw [List.append_nil] at hemits
    exact .program hstart hindex hemits

/-- No program starts, and there is room for the report. -/
theorem prints_report
    (h : let ran := (becomeProgram system search child command).run m
      ran.1.isOk = false ∧
        (ran.2.write child standardError (utf8 errorMessage)).1.isOk = true) :
    openFiles.Prints target search child command m (utf8 errorMessage) := by
  rcases hstart : (becomeProgram system search child command).run m with ⟨failure | status, after⟩
  · rw [hstart] at h
    exact .report hstart h.2
  · rw [hstart] at h
    cases h.1

variable (ht : t.takeRedirection = (.ok (some path), command)) (hready : openFiles.Ready m p)

include ht hready

theorem command_of_opened {output : Bytes}
    (h : let pointed := (redirectOutput system p (utf8 path)).run m
      pointed.1.1.isOk = true ∧
        openFiles.fileOf pointed.2 pointed.1.2 standardOutput = some target ∧
        pointed.2.files.isRegular target = true)
    (hprints : let pointed := (redirectOutput system p (utf8 path)).run m
      openFiles.Prints target search pointed.1.2 command pointed.2 output) :
    openFiles.Command target m (some output) ((runChild system search p t).run m).2 :=
  .opened ht hready (redirectOutput_eq h.1) h.2.1 h.2.2 hprints rfl

theorem command_of_unopened
    (h : ((redirectOutput system p (utf8 path)).run m).1.1.isOk = false)
    (helsewhere : openFiles.fileOf m p standardError ≠ some target) :
    openFiles.Command target m none ((runChild system search p t).run m).2 := by
  rcases hredirect : (redirectOutput system p (utf8 path)).run m with
    ⟨⟨failure | _, child⟩, between⟩
  · exact .unopened ht hready helsewhere hredirect rfl
  · rw [hredirect] at h
    cases h

end Commands

/-- A file with something in it gets three writes, to one stream and the other in turn. Then a
command writes to it, one is not found, and one has another target, which cannot be opened. -/
theorem redirected_output_of_two_streams :
    let host := start [(utf8 "out", .file 0o644 (utf8 "former"))] []
    let pointed := (redirectOutput system host.process (utf8 "out")).run host.machine
    let once := (pointed.2.write pointed.1.2 standardOutput (utf8 "a")).2
    let twice := (once.write pointed.1.2 standardError (utf8 "b")).2
    let written := (twice.write pointed.1.2 standardOutput (utf8 "c")).2
    let run := fun words m => ((runChild system .standard host.process ⟨words, 10⟩).run m).2
    let first := run ["echo", "one", ">", "out"] written
    let second := run ["nope", ">", "out"] first
    let third := run ["echo", "two", ">", "missing/out"] second
    host.machine.files.content 32 = utf8 "former" ∧
      written.files.content 32 = utf8 "abc" ∧
      openFiles.Commands 32 written [some (utf8 "one\n"), some (utf8 errorMessage), none] third ∧
      third.files.content 32 = utf8 errorMessage ∧
      ((redirectOutput system host.process (utf8 "missing/out")).run second).1.2 =
        host.process := by
  intro host pointed once twice written run first second third
  have hready : ∀ m ∈ [host.machine, written, first, second], openFiles.Ready m host.process := by
    have hopen : ∀ m ∈ [host.machine, written, first, second],
        ∀ pair ∈ host.process.descriptors, pair.2 < m.openFiles.length := by
      decide +kernel
    exact fun m hm => ready_of_forall (hopen m hm) (by decide +kernel) (by decide +kernel)
  have hfirst : openFiles.Command 32 written (some (utf8 "one\n")) first :=
    command_of_opened .standard (t := ⟨["echo", "one", ">", "out"], 10⟩) rfl
      (hready written (by simp)) (by decide +kernel) (prints_write .standard (by decide +kernel))
  have hsecond : openFiles.Command 32 first (some (utf8 errorMessage)) second :=
    command_of_opened .standard (t := ⟨["nope", ">", "out"], 10⟩) rfl
      (hready first (by simp)) (by decide +kernel) (prints_report .standard (by decide +kernel))
  have hthird : openFiles.Command 32 second none third :=
    command_of_unopened .standard (t := ⟨["echo", "two", ">", "missing/out"], 10⟩) rfl
      (hready second (by simp)) (by decide +kernel) (by decide +kernel)
  have hfacts : host.machine.files.content 32 = utf8 "former" ∧ pointed.1.1.isOk = true ∧
      openFiles.fileOf pointed.2 pointed.1.2 standardOutput = some 32 ∧
      pointed.2.files.isRegular 32 = true ∧
      (pointed.2.write pointed.1.2 standardOutput (utf8 "a")).1.isOk = true ∧
      (once.write pointed.1.2 standardError (utf8 "b")).1.isOk = true ∧
      (twice.write pointed.1.2 standardOutput (utf8 "c")).1.isOk = true := by
    decide +kernel
  have hrefused :
      ((openTarget system host.process (utf8 "missing/out")).run second).1.isOk = false := by
    decide +kernel
  clear_value host
  obtain ⟨hformer, hok, hfile, hregular, ha, hb, hc⟩ := hfacts
  have hstart := hready host.machine (by simp)
  have hredirect : (redirectOutput system host.process (utf8 "out")).run host.machine =
    ((.ok (), pointed.1.2), pointed.2) := redirectOutput_eq hok
  have hwrites : openFiles.Writes pointed.1.2 pointed.2
      [(standardOutput, utf8 "a"), (standardError, utf8 "b"), (standardOutput, utf8 "c")] written :=
    .cons (.inl rfl) ha rfl (.cons (.inr rfl) hb rfl (.cons (.inl rfl) hc rfl .nil))
  have hcommands := OpenFiles.Commands.command hfirst (.command hsecond (.command hthird .nothing))
  clear_value third second first run written twice once pointed
  obtain ⟨hwritten, hunopened, -, hlast⟩ := OpenFiles.redirected_output openFiles
  refine ⟨hformer, ?_, hcommands, (hlast 32 written _ third hcommands).trans rfl, ?_⟩
  · obtain ⟨opened, target, -, -, hfiles, hheld⟩ :=
      hwritten host.process (utf8 "out") host.machine pointed.1.2 pointed.2 hstart hredirect
    have htarget := hfiles standardOutput
    rw [hfile, if_pos (.inl rfl)] at htarget
    cases htarget
    exact (hheld hregular _ written hwrites).1.trans (by decide +kernel)
  · rcases hopen : (openTarget system host.process (utf8 "missing/out")).run second with
      ⟨failure | made, between⟩
    · rw [(hunopened host.process (utf8 "missing/out") second failure between hopen).1]
    · rw [hopen] at hrefused
      cases hrefused

end MiniShell.Host
