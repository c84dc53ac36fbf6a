import Mathlib.Data.List.Perm.Subperm
import MiniShell.Host.System
import MiniShell.Proofs.System.Descriptors

/-!
# The descriptors of a machine

A machine keeps to what `Descriptors` says of descriptors and files (`descriptors`), so what follows
from it holds of a shell that runs on a machine. Open files are told apart by their index.

1. A descriptor that is free is found for every file that is opened
   (`Process.openFile?_lowestFree`).
2. What is opened for output holds nothing any more (`Machine.openOutput_emptied`).
3. A write at the end of a file adds to what it holds (`Machine.content?_write`).
-/

namespace MiniShell.Host

/-! ## Descriptors of a process -/

namespace Process

variable (p : Process) (descriptor : Nat)

theorem lookup_filter_ne (held : List (Nat × Nat)) (other : Nat) :
    (held.filter (·.1 != descriptor)).lookup other =
      if other = descriptor then none else held.lookup other := by
  induction held with
  | nil => exact (ite_self none).symm
  | cons pair held ih =>
    obtain ⟨key, index⟩ := pair
    rw [List.filter_cons, List.lookup_cons]
    by_cases hkey : key = descriptor
    · rw [if_neg (by simp [hkey]), ih]
      by_cases hother : other = descriptor
      · rw [if_pos hother, if_pos hother]
      · rw [if_neg hother, if_neg hother, beq_false_of_ne (hkey ▸ hother)]
    · rw [if_pos (bne_iff_ne.mpr hkey), List.lookup_cons, ih]
      by_cases hother : other = key
      · rw [hother, beq_self_eq_true]
        exact (if_neg hkey).symm
      · rw [beq_false_of_ne hother]

theorem openFile?_drop :
    (p.drop descriptor).openFile? = Function.update p.openFile? descriptor none := by
  funext other
  rw [Function.update_apply]
  exact lookup_filter_ne descriptor p.descriptors other

theorem openFile?_assign (index : Nat) :
    (p.assign descriptor index).openFile? =
      Function.update p.openFile? descriptor (some index) := by
  funext other
  rw [Function.update_apply, openFile?, assign, List.lookup_cons]
  by_cases hother : other = descriptor
  · rw [if_pos hother, hother, beq_self_eq_true]
  · rw [if_neg hother, beq_false_of_ne hother]
    exact (lookup_filter_ne descriptor p.descriptors other).trans (if_neg hother)

/-- A process with `n` descriptors has one below or at `n` to spare. -/
theorem openFile?_lowestFree : p.openFile? p.lowestFree = none := by
  unfold lowestFree
  cases hfound : (List.range p.descriptors.length).find? fun d => (p.openFile? d).isNone with
  | some descriptor =>
    have hnone := List.find?_some hfound
    exact Option.isNone_iff_eq_none.mp hnone
  | none =>
    -- Were the last one in use as well, there would be more of them than there are descriptors.
    by_contra hused
    have hall : ∀ d ∈ List.range (p.descriptors.length + 1), d ∈ p.descriptors.map (·.1) := by
      intro d hd
      have hsome : (p.openFile? d).isSome = true := by
        rcases Nat.lt_succ_iff_lt_or_eq.mp (List.mem_range.mp hd) with hlt | rfl
        · have hnone := List.find?_eq_none.mp hfound d (List.mem_range.mpr hlt)
          rwa [Bool.not_eq_true, Option.isNone_eq_false_iff] at hnone
        · exact Option.isSome_iff_ne_none.mpr hused
      obtain ⟨pair, hpair, hkey⟩ := List.lookup_isSome_iff.mp hsome
      exact List.mem_map.mpr ⟨pair, hpair, (beq_iff_eq.mp hkey).symm⟩
    have hle := (List.nodup_range.subperm hall).length_le
    rw [List.length_range, List.length_map] at hle
    exact Nat.not_succ_le_self _ hle

end Process

/-! ## Regular files -/

/-- What a regular file holds. -/
def Node.held? : Node → Option Bytes
  | .file _ content => some content
  | _ => none

namespace Machine

variable {m m' : Machine}

/-- What an open file holds, if it is a regular file. -/
def content? (m : Machine) (index : Nat) : Option Bytes :=
  (m.openFiles[index]?.bind fun file => m.node? file.node).bind Node.held?

/-- The next write to an open file adds to what it holds. -/
def AtEnd (m : Machine) (index : Nat) : Prop :=
  ∃ file, m.openFiles[index]? = some file ∧ file.access.writes = true ∧
    ∀ content, (m.node? file.node).bind Node.held? = some content →
      file.access = .append ∨ file.position = content.length

theorem node?_setNode_self {number : Nat} {old : Node} (h : m.node? number = some old)
    (node : Node) : (m.setNode number node).node? number = some node :=
  List.getElem?_set_self (List.getElem?_eq_some_iff.mp h).1

theorem node?_of_directory? {number : Nat} {d : Directory} (h : m.directory? number = some d) :
    m.node? number = some (.directory d) := by
  unfold directory? at h
  split at h
  · next dir hnode => rw [hnode, Option.some.inj h]
  · cases h

/-- When a directory gets a name more, all nodes look the same to whoever does not look into
directories. -/
theorem node?_addEntry {α : Type} (look : Option Node → α)
    (hlook : ∀ d d', look (some (.directory d)) = look (some (.directory d')))
    (dir number other : Nat) (name : Bytes) :
    look ((m.addEntry dir name number).node? other) = look (m.node? other) := by
  unfold addEntry
  split
  · rfl
  · next d hdir =>
    have hnode := node?_of_directory? hdir
    by_cases heq : dir = other
    · rw [← heq, node?_setNode_self hnode, hnode]
      exact hlook _ _
    · exact congrArg look (List.getElem?_set_ne heq)

/-- A node that is opened for output holds nothing any more. -/
theorem openExisting_emptied {number : Nat} (h : m.openExisting number true = .ok m') :
    ∀ held, (m'.node? number).bind Node.held? = some held → held = [] := by
  intro held hheld
  unfold openExisting at h
  split at h
  case h_1 | h_2 | h_3 => cases h
  case h_4 hnode =>
    cases h
    rw [if_pos rfl, node?_setNode_self hnode] at hheld
    cases hheld
    rfl
  case h_5 hnode =>
    cases h
    rw [node?_setNode_self hnode] at hheld
    cases hheld
    rfl
  all_goals
    next hnode =>
      cases h
      rw [hnode] at hheld
      cases hheld

/-- The node to which output goes has been there before, or it is a new file. -/
theorem openOutput_cases {workingDir mask mode number : Nat} {path : Path} {empty : Bool}
    (h : m.openOutput workingDir mask path mode empty = (.ok number, m')) :
    m.openExisting number empty = .ok m' ∨
      ∃ place : Place, ∃ name, number = m.nodes.length ∧
        m' = (m.addNode (.file (newMode mask mode) [])).2.addEntry place.dir name number := by
  unfold openOutput at h
  grind [addNode]

theorem openOutput_emptied {workingDir mask mode number : Nat} {path : Path}
    (h : m.openOutput workingDir mask path mode true = (.ok number, m')) :
    ∀ held, (m'.node? number).bind Node.held? = some held → held = [] := by
  obtain hopen | ⟨place, name, rfl, rfl⟩ := openOutput_cases h
  · exact openExisting_emptied hopen
  · intro held hheld
    have hnew : (m.addNode (.file (newMode mask mode) [])).2.node? m.nodes.length =
        some (.file (newMode mask mode) []) := List.getElem?_concat_length
    rw [node?_addEntry (·.bind Node.held?) fun _ _ => rfl, hnew] at hheld
    cases hheld
    rfl

theorem content?_eq {index : Nat} {file : OpenFile} (h : m.openFiles[index]? = some file) :
    m.content? index = (m.node? file.node).bind Node.held? :=
  congrArg (fun file => (file.bind fun file => m.node? file.node).bind Node.held?) h

/-- A write at the end of a file adds to what it holds. -/
theorem content?_write {p : Process} {descriptor index : Nat} (bytes : Bytes)
    (hopen : p.openFile? descriptor = some index) (hend : m.AtEnd index) :
    (m.write p descriptor bytes).2.content? index = (m.content? index).map (· ++ bytes) := by
  obtain ⟨file, hfile, hwrites, hposition⟩ := hend
  have hlt : index < m.openFiles.length := (List.getElem?_eq_some_iff.mp hfile).1
  have hwrite : (m.write p descriptor bytes).2 = (m.writeOpenFile index bytes).2 := by
    rw [write, hopen]
  rw [hwrite, content?_eq hfile, writeOpenFile, hfile]
  dsimp only
  rw [hwrites, if_neg (by decide)]
  cases hnode : m.node? file.node with
  | none => exact (content?_eq hfile).trans (congrArg (·.bind Node.held?) hnode)
  | some node =>
    cases node with
    | file mode content =>
      have hat : (if file.access = .append then content.length else file.position) =
          content.length := by
        split
        · rfl
        · next hother => exact (hposition content (by rw [hnode]; rfl)).resolve_left hother
      dsimp only
      rw [hat, overwrite_length]
      refine (content?_eq (List.getElem?_set_self hlt)).trans ?_
      exact congrArg (·.bind Node.held?) (node?_setNode_self hnode _)
    | pipe unread =>
      have hkept : (m.setNode file.node (.pipe (unread ++ bytes))).openFiles[index]? = some file :=
        hfile
      exact (content?_eq hkept).trans
        (congrArg (·.bind Node.held?) (node?_setNode_self hnode _))
    | directory _ | symlink _ | program _ | nullDevice | fullDevice | ownArguments =>
      exact (content?_eq hfile).trans (congrArg (·.bind Node.held?) hnode)

end Machine

/-- A program that does not start has done nothing. -/
theorem execute_error {depth : Nat} {p : Process} {path : Path} {arguments : List Bytes}
    {errno : Errno} {m m' : Machine}
    (h : (execute depth p path arguments).run m = (.error errno, m')) : m' = m := by
  cases depth with
  | zero =>
    cases h
    rfl
  | succ depth =>
    rw [execute] at h
    by_cases hfits : (!fits p arguments) = true
    · rw [if_pos hfits] at h
      cases h
      rfl
    · have hget : (get : StateM Machine Machine).run m = (m, m) := rfl
      rw [if_neg hfits, run_bind, hget] at h
      dsimp only at h
      split at h
      · cases h
        rfl
      · cases h
      · cases h

theorem duplicate_eq (p : Process) (old new : Nat) (m : Machine) :
    (system.duplicate p old new).run m =
      match p.openFile? old with
      | none => (.error .badDescriptor, m)
      | some index => (.ok (p.assign new index), m) := rfl

/-- Calls that leave files as they are leave the machine as it is. -/
theorem still_eq {call : Call Process} {m m' : Machine} (h : call.Happens system m m')
    (hstill : call.isStill = true) : m' = m := by
  cases call with
  | isExecutable _ _ _ | close _ _ _ | wait _ _ =>
    cases h
    rfl
  | duplicate p old new answer =>
    rw [Call.Happens, duplicate_eq] at h
    split at h <;> cases h <;> rfl
  | execute p path arguments answer =>
    cases answer with
    | error errno => exact execute_error h
    | ok status => cases hstill
  | _ => cases hstill

/-- The machine keeps to what is said of descriptors and files. -/
def descriptors : Descriptors system Nat Nat where
  openFile := Process.openFile?
  file := id
  content := Machine.content?
  AtEnd := Machine.AtEnd
  changeDir {p path p' m m'} h := by
    have hrun : (match m.find p.workingDir path with
      | .error errno => (.error errno, m)
      | .ok number =>
        if (m.directory? number).isNone then (.error .notDirectory, m)
        else (.ok { p with workingDir := number }, m)) = (Except.ok p', m') := h
    split at hrun
    · cases hrun
    · split at hrun <;> cases hrun
      rfl
  create {p path mode descriptor p' m m'} h := by
    have hrun : (match m.openOutput p.workingDir p.mask path mode true with
      | (.error errno, m) => (.error errno, m)
      | (.ok number, m) =>
        let (opened, m) := m.openNode p number .readWrite
        (.ok opened, m)) = (Except.ok (descriptor, p'), m') := h
    split at hrun
    · cases hrun
    · next number opened houtput =>
      cases hrun
      have hfile : (opened.addOpenFile ⟨number, 0, .readWrite⟩).2.openFiles[
        opened.openFiles.length]? = some ⟨number, 0, .readWrite⟩ := List.getElem?_concat_length
      have hempty := Machine.openOutput_emptied houtput
      refine ⟨p.openFile?_lowestFree, opened.openFiles.length, p.openFile?_assign _ _, ?_, ?_⟩
      · refine ⟨_, hfile, rfl, fun content hcontent => .inr ?_⟩
        rw [hempty content hcontent]
        rfl
      · intro held hheld
        exact hempty held ((Machine.content?_eq hfile).symm.trans hheld)
  duplicate {p old new p' m m'} h := by
    rw [duplicate_eq] at h
    split at h
    · cases h
    · next hold =>
      cases h
      rw [hold]
      exact p.openFile?_assign _ _
  close h := by
    cases h
    exact Process.openFile?_drop _ _
  write h hopen hend := by
    cases h
    exact Machine.content?_write _ hopen hend
  still h hstill := by
    rw [still_eq h hstill]
    exact ⟨rfl, fun _ => id⟩

end MiniShell.Host
