import MiniShell.Host.Layout
import MiniShell.Host.Utility.Directory
import MiniShell.Proofs.Host.Descriptors
import MiniShell.Proofs.Shell.WorkingDirectory

/-!
# The directories of a machine

A machine keeps to what `Directories` says (`directories`). A directory that is removed loses its
path, and so does everything below it, but nothing gets another path by that
(`unrenamed_removeDir`).
-/

namespace MiniShell.Host

namespace Machine

variable {m m' : Machine}

/-- A path from the root starts with a slash, unless it is the root. -/
theorem climb_absolute {depth dir : Nat} {path : Path} (h : m.climb depth dir = some path) :
    path = [] ∨ path.head? = some slash := by
  induction depth generalizing dir path with
  | zero => cases h
  | succ depth ih =>
    rw [climb] at h
    split_ifs at h with hroot
    · exact .inl (Option.some.inj h).symm
    · split at h
      · cases h
      · rename_i d hd
        split_ifs at h with hremoved
        obtain ⟨above, habove, rfl⟩ := Option.map_eq_some_iff.1 h
        obtain rfl | hslash := ih habove
        · exact .inr rfl
        · exact .inr (by rw [List.head?_append, hslash]; rfl)

theorem pathOf_absolute {dir : Nat} {path : Path} (h : m.pathOf dir = some path) :
    path.head? = some slash := by
  obtain ⟨below, hclimb, rfl⟩ := Option.map_eq_some_iff.1 h
  obtain rfl | hslash := climb_absolute hclimb
  · rfl
  · rcases below with _ | ⟨b, below⟩
    · cases hslash
    · exact hslash

/-- Directories have the names and parents that they had, and none is back that was removed. -/
def Prunes (m m' : Machine) : Prop :=
  ∀ number d', m'.directory? number = some d' → ∃ d, m.directory? number = some d ∧
    d'.parent = d.parent ∧ d'.name = d.name ∧ (d'.removed = false → d.removed = false)

theorem Prunes.climb (h : Prunes m m') {depth dir : Nat} {path : Path}
    (hclimb : m'.climb depth dir = some path) : m.climb depth dir = some path := by
  induction depth generalizing dir path with
  | zero => cases hclimb
  | succ depth ih =>
    rw [Machine.climb] at hclimb ⊢
    split_ifs at hclimb ⊢ with hroot
    · exact hclimb
    · split at hclimb
      · cases hclimb
      · rename_i d' hd'
        obtain ⟨d, hd, hparent, hname, hremoved⟩ := h dir d' hd'
        rw [hd]
        dsimp only
        split_ifs at hclimb with hgone
        obtain ⟨above, habove, rfl⟩ := Option.map_eq_some_iff.1 hclimb
        rw [hparent] at habove
        rw [hname, hremoved (by simpa using hgone), if_neg Bool.false_ne_true, ih habove]
        rfl

theorem Prunes.refl (m : Machine) : Prunes m m := fun _ d h => ⟨d, h, rfl, rfl, id⟩

theorem Prunes.trans {m'' : Machine} (h : Prunes m m') (h' : Prunes m' m'') : Prunes m m'' := by
  intro number d'' hd''
  obtain ⟨d', hd', hparent', hname', hremoved'⟩ := h' number d'' hd''
  obtain ⟨d, hd, hparent, hname, hremoved⟩ := h number d' hd'
  exact ⟨d, hd, hparent'.trans hparent, hname'.trans hname, hremoved ∘ hremoved'⟩

theorem directory?_setNode {number other : Nat} {old new : Directory}
    (h : m.directory? number = some old) :
    (m.setNode number (.directory new)).directory? other =
      if other = number then some new else m.directory? other := by
  have hlt : number < m.nodes.length :=
    (List.getElem?_eq_some_iff.1 (node?_of_directory? h)).1
  unfold directory? node? setNode
  split_ifs with heq
  · rw [heq, List.getElem?_set_self hlt]
  · rw [List.getElem?_set_ne (Ne.symm heq)]

/-- A directory may lose entries, and may be marked as removed. -/
theorem prunes_setNode {number : Nat} {old new : Directory} (h : m.directory? number = some old)
    (hparent : new.parent = old.parent) (hname : new.name = old.name)
    (hremoved : new.removed = false → old.removed = false) :
    Prunes m (m.setNode number (.directory new)) := by
  intro other d' hd'
  rw [directory?_setNode h] at hd'
  split_ifs at hd' with heq
  · obtain rfl := Option.some.inj hd'
    exact ⟨old, heq ▸ h, hparent, hname, hremoved⟩
  · exact ⟨d', hd', rfl, rfl, id⟩

theorem prunes_dropEntry (m : Machine) (dir : Nat) (name : Bytes) :
    Prunes m (m.dropEntry dir name) := by
  unfold dropEntry
  split
  · exact .refl m
  · rename_i d hd
    exact prunes_setNode hd rfl rfl id

/-- A directory that loses an entry is otherwise the same. -/
theorem directory?_dropEntry {number : Nat} {d : Directory} (h : m.directory? number = some d)
    (dir : Nat) (name : Bytes) :
    ∃ d', (m.dropEntry dir name).directory? number = some d' ∧
      d'.parent = d.parent ∧ d'.name = d.name := by
  unfold dropEntry
  split
  · exact ⟨d, h, rfl, rfl⟩
  · rename_i old hold
    rw [directory?_setNode hold]
    split_ifs with heq
    · obtain rfl : old = d := Option.some.inj (hold.symm.trans (heq ▸ h))
      exact ⟨_, rfl, rfl, rfl⟩
    · exact ⟨d, h, rfl, rfl⟩

theorem prunes_removeDir (m : Machine) (workingDir : Nat) (path : Path) :
    Prunes m (m.removeDir workingDir path).2 := by
  unfold removeDir
  split
  · exact .refl m
  · rename_i place hplace
    split
    · exact .refl m
    · exact .refl m
    · rename_i name number _ _
      split
      · exact .refl m
      · rename_i d hd
        split_ifs
        · exact .refl m
        · obtain ⟨old, hold, hparent, hname⟩ := directory?_dropEntry hd place.dir name
          refine (prunes_dropEntry m place.dir name).trans ?_
          exact prunes_setNode hold hparent.symm hname.symm Bool.noConfusion

theorem length_dropEntry (m : Machine) (dir : Nat) (name : Bytes) :
    (m.dropEntry dir name).nodes.length = m.nodes.length := by
  unfold dropEntry
  split
  · rfl
  · exact List.length_set

theorem length_removeDir (m : Machine) (workingDir : Nat) (path : Path) :
    (m.removeDir workingDir path).2.nodes.length = m.nodes.length := by
  unfold removeDir
  split
  · rfl
  · split
    · rfl
    · rfl
    · split
      · rfl
      · split_ifs
        · rfl
        · exact List.length_set.trans (length_dropEntry m _ _)

end Machine

/-! ## The machine as a system -/

theorem reported_eq (m : Machine) (p : Process) : reported system m p = m.pathOf p.workingDir := rfl

/-- Moving leaves the machine as it is. -/
theorem changeDir_snd (m : Machine) (p : Process) (path : Path) :
    ((system.changeDir p path).run m).2 = m := by
  show (system.changeDir p path m).2 = m
  unfold system
  dsimp only
  split
  · rfl
  · split_ifs <;> rfl

theorem directories : Directories system where
  changeDir p path m other := by rw [changeDir_snd]
  currentDir _ _ _ := rfl
  absolute h := Machine.pathOf_absolute h

/-- **Removal.** Whoever removes a directory renames none. -/
theorem unrenamed_removeDir (m : Machine) (p : Process) (workingDir : Nat) (path : Path) :
    Unrenamed system p m (m.removeDir workingDir path).2 := by
  intro dir hdir
  rw [reported_eq] at hdir ⊢
  obtain ⟨below, hclimb, hpath⟩ := Option.map_eq_some_iff.1 hdir
  rw [m.length_removeDir workingDir path] at hclimb
  rw [Machine.pathOf, (m.prunes_removeDir workingDir path).climb hclimb, Option.map_some, hpath]

/-- The environment and the machine after a move. -/
def moved (path : Path) (state : Environment Process × Machine) : Environment Process × Machine :=
  (((state.1.changeDir system path).run state.2).1.toOption.getD state.1,
    ((state.1.changeDir system path).run state.2).2)

theorem step_moved (path : Path) (state : Environment Process × Machine) :
    Step system state (moved path state) :=
  .moved (.changed path state.1 state.2)

theorem changeDir_eq_moved {path : Path} {state : Environment Process × Machine}
    (h : ((state.1.changeDir system path).run state.2).1.isOk = true) :
    (state.1.changeDir system path).run state.2 =
      (.ok (moved path state).1, (moved path state).2) := by
  unfold moved
  rcases hmove : (state.1.changeDir system path).run state.2 with ⟨cause | env, m⟩
  · rw [hmove] at h
    cases h
  · rfl

/-- A shell moves into a directory that is removed then. It turns round in there twice, and comes
out of it. -/
theorem currentDir_in_step_of_removed :
    let host := start [(utf8 "d", .directory)] []
    let captured := (Environment.capture system host.process .standard).run host.machine
    ∃ gone : Environment Process × Machine,
      Relation.ReflTransGen (Step system) captured gone ∧
      reported system gone.2 gone.1.process = none ∧
      gone.1.currentDir = utf8 "/tmp/scratch/work/d" ∧
      (moved dot (moved dot gone)).1.currentDir = utf8 "/tmp/scratch/work/d/./." ∧
      (moved dotDot (moved dot (moved dot gone))).1.currentDir = utf8 "/tmp/scratch/work" := by
  intro host captured
  let inside := (dispatch system Builtin.all ⟨["cd", "d"], 2⟩ captured.1).run captured.2
  let gone : Environment Process × Machine :=
    (inside.1.2, (inside.2.removeDir host.process.workingDir (utf8 "d")).2)
  let once := moved dot gone
  let twice := moved dot once
  let back := moved dotDot twice
  have hcaptured : captured =
    (Environment.capture system host.process .standard).run host.machine := rfl
  have hfacts : gone.1.currentDir = utf8 "/tmp/scratch/work/d" ∧
      reported system gone.2 gone.1.process = none ∧
      ((gone.1.changeDir system dot).run gone.2).1.isOk = true ∧
      reported system once.2 once.1.process = none ∧
      ((once.1.changeDir system dot).run once.2).1.isOk = true ∧
      reported system twice.2 twice.1.process = none ∧
      reported system back.2 back.1.process = some (utf8 "/tmp/scratch/work") := by
    decide +kernel
  obtain ⟨hinside, hgone, hfirst, honce, hsecond, htwice, hback⟩ := hfacts
  clear_value captured host
  have hall := Environment.currentDir_in_step directories
  have hremove : Unrenamed system inside.1.2.process inside.2 gone.2 :=
    unrenamed_removeDir inside.2 _ host.process.workingDir (utf8 "d")
  have hthere : Relation.ReflTransGen (Step system) captured gone :=
    .tail (.single (.moved (.dispatched Builtin.all ⟨["cd", "d"], 2⟩ captured.1 captured.2)))
      (.moved (.elsewhere inside.1.2 hremove))
  refine ⟨gone, hthere, hgone, hinside, ?_, ?_⟩
  · -- The dots add up.
    let envs : Nat → Environment Process
      | 0 => gone.1
      | 1 => once.1
      | _ => twice.1
    have hdots := hall.2.2.2.1 envs 2 (by
      rintro (_ | _ | i) hi
      · exact ⟨gone.2, once.2, changeDir_eq_moved hfirst, honce⟩
      · exact ⟨once.2, twice.2, changeDir_eq_moved hsecond, htwice⟩
      · omega)
    have hstart : (envs 0).currentDir = utf8 "/tmp/scratch/work/d" := hinside
    rw [hstart] at hdots
    exact (hdots.2 (by decide +kernel) (by decide +kernel)).trans (by decide +kernel)
  · -- The way out has a name again.
    have hreturn : Relation.ReflTransGen (Step system) captured back :=
      ((hthere.tail (step_moved dot gone)).tail (step_moved dot once)).tail
        (step_moved dotDot twice)
    rw [hcaptured] at hreturn
    exact hall.1 host.process .standard host.machine back hreturn _ hback

end MiniShell.Host
