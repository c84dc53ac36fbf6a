import Mathlib.Data.List.ReduceOption
import MiniShell.Proofs.Child.Launch
import MiniShell.Proofs.Session.Faults
import MiniShell.Proofs.System.OpenFiles

/-!
# The output of redirected commands

The two streams of a redirected child share one open file, so each write comes behind the one
before, whichever stream it was made to.

1. A redirection whose target can be opened succeeds, and the streams are alone with the open file
   (`OpenFiles.Ready.exists_redirected`, `OpenFiles.Redirected.openFile_eq_iff`). One whose target
   cannot be opened changes nothing (`redirectOutput_of_unopened`).
2. Writes to the streams add up in the target, and reach nothing else (`OpenFiles.Writes.holds`).
3. A command leaves its output in the target, and leaves the target alone if its own could not be
   opened (`OpenFiles.Command.content_eq`). So the output that stays is that of the last command
   (`OpenFiles.Commands.content_eq`).

`OpenFiles.redirected_output` puts these together.
-/

namespace MiniShell

variable {World Process Open File : Type} {sys : System World Process} {process : Process}
  {path : Path} {world world' : World}

/-! ## Opening the target -/

/-- A target with a proper name is opened by the system. -/
theorem openTarget_run (sys : System World Process) (process : Process) (path : Path)
    (world : World) :
    (openTarget sys process path).run world =
      if hasNul path then (.error (.redirectOpen path .nulInPath), world)
      else match (sys.create process path redirectMode).run world with
        | (.error errno, after) => (.error (.redirectOpen path (.system errno)), after)
        | (.ok made, after) => (.ok made, after) := by
  rw [openTarget, run_bind]
  unfold askAbout
  by_cases hnul : hasNul path = true
  · rw [if_pos hnul, if_pos hnul]
    rfl
  · rw [if_neg hnul, if_neg hnul, run_bind]
    rcases (sys.create process path redirectMode).run world with ⟨errno | made, after⟩ <;> rfl

theorem create_of_openTarget {made : Nat × Process}
    (h : (openTarget sys process path).run world = (.ok made, world')) :
    (sys.create process path redirectMode).run world = (.ok made, world') := by
  rw [openTarget_run] at h
  split at h
  · cases h
  · split at h
    · cases h
    · next hcreate =>
      cases h
      exact hcreate

/-- When the target cannot be opened, both streams stay where they are. -/
theorem redirectOutput_of_unopened {failure : Failure}
    (h : (openTarget sys process path).run world = (.error failure, world')) :
    (redirectOutput sys process path).run world = ((.error failure, process), world') := by
  rw [redirectOutput, run_bind, h]
  rfl

/-- When the target can be opened, and both streams can be pointed at it, its descriptor is closed
again. -/
theorem redirectOutput_of_opened {descriptor : Nat} {made halfway pointed : Process}
    {w₁ w₂ w₃ : World}
    (hopen : (openTarget sys process path).run world = (.ok (descriptor, made), w₁))
    (houtput : (sys.duplicate made descriptor standardOutput).run w₁ = (.ok halfway, w₂))
    (herror : (sys.duplicate halfway descriptor standardError).run w₂ = (.ok pointed, w₃)) :
    (redirectOutput sys process path).run world =
      ((.ok (), ((sys.close pointed descriptor).run w₃).1),
        ((sys.close pointed descriptor).run w₃).2) := by
  rw [redirectOutput, run_bind, hopen]
  dsimp only
  rw [run_bind, houtput]
  dsimp only
  rw [run_bind, herror]
  rfl

namespace OpenFiles

variable [DecidableEq Open] [DecidableEq File] (d : OpenFiles sys Open File)

/-- Files are as they were when the target could not be opened. -/
theorem files_of_unopened {failure : Failure}
    (h : (openTarget sys process path).run world = (.error failure, world')) :
    d.files world' = d.files world := by
  rw [openTarget_run] at h
  split at h
  · cases h
    rfl
  · split at h
    · next hcreate =>
      cases h
      exact d.create_error hcreate
    · cases h

/-- The streams of `child` have been taken from `process` and lead to the file `target`, which has
been opened for them. -/
structure Redirected (process : Process) (world : World) (opened : Open) (target : File)
    (child : Process) (between : World) : Prop where
  new : (d.files world).description opened = none
  description : (d.files between).description =
    Function.update (d.files world).description opened (some ⟨target, 0, false⟩)
  openFile : d.openFile child = Function.update
    (Function.update (d.openFile process) standardOutput (some opened)) standardError (some opened)
  emptied : (d.files between).isRegular target = true →
    (d.files between).content = Function.update (d.files world).content target []

variable {d}

/-- Both streams can be pointed at a file that has been opened by way of a free descriptor. When
this is closed nothing else is left of it. -/
theorem Ready.pointed (h : d.Ready world process) {descriptor : Nat} {opened : Open}
    {made : Process} (hfree : d.openFile process descriptor = none)
    (hmade : d.openFile made = Function.update (d.openFile process) descriptor (some opened))
    (between : World) :
    ∃ halfway pointed w w',
      (sys.duplicate made descriptor standardOutput).run between = (.ok halfway, w) ∧
      (sys.duplicate halfway descriptor standardError).run w = (.ok pointed, w') ∧
      d.openFile ((sys.close pointed descriptor).run w').1 =
        Function.update (Function.update (d.openFile process) standardOutput (some opened))
          standardError (some opened) ∧
      d.files ((sys.close pointed descriptor).run w').2 = d.files between := by
  have houtput : standardOutput ≠ descriptor := fun heq => h.output (heq ▸ hfree)
  have herror : standardError ≠ descriptor := fun heq => h.error (heq ▸ hfree)
  -- The descriptor is neither stream, so it refers to the file until it is closed.
  have hfirst : d.openFile made descriptor = some opened := by rw [hmade, Function.update_self]
  have houtput_open : d.openFile made standardOutput ≠ none := by
    rw [hmade, Function.update_of_ne houtput]
    exact h.output
  obtain ⟨halfway, w, hrun, hhalfway⟩ := d.duplicate made descriptor standardOutput between
    (hfirst ▸ Option.some_ne_none _) houtput_open
  rw [hfirst, hmade] at hhalfway
  have hsecond : d.openFile halfway descriptor = some opened := by
    rw [hhalfway, Function.update_of_ne houtput.symm, Function.update_self]
  have herror_open : d.openFile halfway standardError ≠ none := by
    rw [hhalfway, Function.update_of_ne (by decide), Function.update_of_ne herror]
    exact h.error
  obtain ⟨pointed, w', hrun', hpointed⟩ := d.duplicate halfway descriptor standardError w
    (hsecond ▸ Option.some_ne_none _) herror_open
  rw [hsecond, hhalfway] at hpointed
  refine ⟨halfway, pointed, w, w', hrun, hrun', ?_, ?_⟩
  · have hkept : Function.update (d.openFile process) descriptor none = d.openFile process :=
      Function.update_eq_self_iff.2 hfree.symm
    rw [d.close, hpointed, Function.update_comm herror, Function.update_comm houtput,
      Function.update_idem, hkept]
  · let calls : Record Process := [.duplicate made descriptor standardOutput (.ok halfway),
      .duplicate halfway descriptor standardError (.ok pointed),
      .close pointed descriptor ((sys.close pointed descriptor).run w').1]
    have haccount : Account sys between ((sys.close pointed descriptor).run w').2 calls :=
      ⟨w, hrun, w', hrun', _, rfl, rfl⟩
    exact d.still_account haccount (by simp [calls, Call.isStill])

/-- With both streams open, a redirection whose target can be opened succeeds. -/
theorem Ready.exists_redirected (h : d.Ready world process) {made : Nat × Process} {between : World}
    (hopen : (openTarget sys process path).run world = (.ok made, between)) :
    ∃ child world', (redirectOutput sys process path).run world = ((.ok (), child), world') ∧
      ∃ opened target, d.Redirected process world opened target child world' := by
  obtain ⟨descriptor, made⟩ := made
  obtain ⟨hfree, opened, target, hnew, hmade, hdescription, hemptied⟩ :=
    d.create (create_of_openTarget hopen)
  obtain ⟨halfway, pointed, w, w', hrun, hrun', hclosed, hstill⟩ := h.pointed hfree hmade between
  refine ⟨_, _, redirectOutput_of_opened hopen hrun hrun', opened, target, hnew, ?_, hclosed, ?_⟩
  · rw [hstill, hdescription]
  · rw [hstill]
    exact hemptied

/-- A redirection that succeeds has opened its target. -/
theorem Ready.redirected (h : d.Ready world process) {child : Process}
    (hrun : (redirectOutput sys process path).run world = ((.ok (), child), world')) :
    ∃ opened target, d.Redirected process world opened target child world' := by
  rcases hopen : (openTarget sys process path).run world with ⟨failure | made, between⟩
  · rw [redirectOutput_of_unopened hopen] at hrun
    cases hrun
  · obtain ⟨child', after, hrun', hredirected⟩ := h.exists_redirected hopen
    rw [hrun] at hrun'
    cases hrun'
    exact hredirected

/-- A redirection that fails has failed to open its target, and has changed nothing. -/
theorem Ready.unredirected (h : d.Ready world process) {failure : Failure} {child : Process}
    (hrun : (redirectOutput sys process path).run world =
      ((.error failure, child), world')) :
    child = process ∧ d.files world' = d.files world := by
  rcases hopen : (openTarget sys process path).run world with ⟨failure | made, between⟩
  · rw [redirectOutput_of_unopened hopen] at hrun
    cases hrun
    exact ⟨rfl, d.files_of_unopened hopen⟩
  · obtain ⟨child', after, hrun', -⟩ := h.exists_redirected hopen
    rw [hrun] at hrun'
    cases hrun'

namespace Redirected

variable {opened : Open} {target : File} {child : Process}
  (h : d.Redirected process world opened target child world')

include h

theorem openFile_stream {stream : Nat}
    (hstream : stream = standardOutput ∨ stream = standardError) :
    d.openFile child stream = some opened := by
  rw [h.openFile]
  obtain rfl | rfl := hstream
  · rw [Function.update_of_ne (by decide), Function.update_self]
  · rw [Function.update_self]

theorem openFile_of_not_stream {descriptor : Nat}
    (hother : ¬(descriptor = standardOutput ∨ descriptor = standardError)) :
    d.openFile child descriptor = d.openFile process descriptor := by
  rw [not_or] at hother
  rw [h.openFile, Function.update_of_ne hother.2, Function.update_of_ne hother.1]

/-- No other descriptor refers to the open file: it is new. -/
theorem openFile_eq_iff (hready : d.Ready world process) (descriptor : Nat) :
    d.openFile child descriptor = some opened ↔
      descriptor = standardOutput ∨ descriptor = standardError := by
  refine ⟨fun heq => ?_, h.openFile_stream⟩
  by_contra hother
  rw [h.openFile_of_not_stream hother] at heq
  exact hready.isOpen descriptor opened heq h.new

/-- Other descriptors lead where they led before. -/
theorem fileOf_eq (hready : d.Ready world process) (descriptor : Nat) :
    d.fileOf world' child descriptor =
      if descriptor = standardOutput ∨ descriptor = standardError then some target
      else d.fileOf world process descriptor := by
  unfold fileOf
  rw [h.description]
  split
  · next hstream =>
    rw [h.openFile_stream hstream, Option.bind_some, Function.update_self, Option.map_some]
  · next hother =>
    rw [h.openFile_of_not_stream hother]
    cases heq : d.openFile process descriptor with
    | none => rfl
    | some other =>
      have hne : other ≠ opened := by
        rintro rfl
        exact hready.isOpen descriptor other heq h.new
      rw [Option.bind_some, Option.bind_some, Function.update_of_ne hne]

/-- The target starts empty. -/
theorem holds (hregular : (d.files world').isRegular target = true) :
    (d.files world').Holds opened target [] where
  description := by rw [h.description, Function.update_self, List.length_nil]
  isRegular := hregular
  content := by rw [h.emptied hregular, Function.update_self]

end Redirected

/-! ## Writes to the streams -/

/-- Complete writes of a process to its output streams, from first to last. -/
inductive Writes (d : OpenFiles sys Open File) (process : Process) :
    World → List (Nat × Bytes) → World → Prop where
  | nil {world : World} : Writes d process world [] world
  | cons {world between world' : World} {stream : Nat} {bytes : Bytes}
    {writes : List (Nat × Bytes)} (hstream : stream = standardOutput ∨ stream = standardError)
    (hcomplete : d.Complete world process stream bytes)
    (hwrite : (sys.write process stream bytes).run world = ((), between))
    (hrest : Writes d process between writes world') :
    Writes d process world ((stream, bytes) :: writes) world'

/-- What is written by way of an open file, by whomever: complete writes, among other things that
leave the file and the open file alone. -/
inductive Emits (d : OpenFiles sys Open File) (opened : Open) (target : File) :
    World → Bytes → World → Prop where
  | nothing {world : World} : Emits d opened target world [] world
  | write {world between world' : World} {process : Process} {descriptor : Nat}
    {bytes output : Bytes} (hopen : d.openFile process descriptor = some opened)
    (hcomplete : d.Complete world process descriptor bytes)
    (hwrite : (sys.write process descriptor bytes).run world = ((), between))
    (hrest : Emits d opened target between output world') :
    Emits d opened target world (bytes ++ output) world'
  | other {world between world' : World} {output : Bytes}
    (hdescription : (d.files between).description opened = (d.files world).description opened)
    (hregular : (d.files between).isRegular target = (d.files world).isRegular target)
    (hcontent : (d.files between).content target = (d.files world).content target)
    (hrest : Emits d opened target between output world') :
    Emits d opened target world output world'

section Streams

variable {opened : Open} {target : File} {held : Bytes}

/-- A complete write by way of an open file that stands at the end. -/
theorem holds_write {descriptor : Nat} {bytes : Bytes}
    (h : (d.files world).Holds opened target held)
    (hopen : d.openFile process descriptor = some opened)
    (hcomplete : d.Complete world process descriptor bytes)
    (hwrite : (sys.write process descriptor bytes).run world = ((), world')) :
    (d.files world').Holds opened target (held ++ bytes) ∧
      ∀ other, other ≠ target → (d.files world').content other = (d.files world).content other := by
  obtain ⟨hothers, hwritten⟩ := d.write hwrite hopen h.description
  refine ⟨?_, hothers⟩
  rw [hwritten hcomplete h.isRegular]
  exact h.write bytes

theorem Emits.holds {output : Bytes} (h : d.Emits opened target world output world')
    (hheld : (d.files world).Holds opened target held) :
    (d.files world').Holds opened target (held ++ output) := by
  induction h generalizing held with
  | nothing => rwa [List.append_nil]
  | write hopen hcomplete hwrite hrest ih =>
    rw [← List.append_assoc]
    exact ih (holds_write hheld hopen hcomplete hwrite).1
  | other hdescription hregular hcontent hrest ih =>
    exact ih ⟨hdescription.trans hheld.description, hregular.trans hheld.isRegular,
      hcontent.trans hheld.content⟩

/-- **Interleaving.** Whatever the order of the writes to the two streams, they are in the target in
that order, and nothing but the target has been written. -/
theorem Writes.holds {writes : List (Nat × Bytes)} (h : d.Writes process world writes world')
    (hstreams : ∀ stream, stream = standardOutput ∨ stream = standardError →
      d.openFile process stream = some opened)
    (hheld : (d.files world).Holds opened target held) :
    (d.files world').Holds opened target (held ++ (writes.map Prod.snd).flatten) ∧
      ∀ other, other ≠ target → (d.files world').content other = (d.files world).content other := by
  induction h generalizing held with
  | nil => exact ⟨by rwa [List.map_nil, List.flatten_nil, List.append_nil], fun _ _ => rfl⟩
  | cons hstream hcomplete hwrite hrest ih =>
    obtain ⟨hfirst, hothers⟩ := holds_write hheld (hstreams _ hstream) hcomplete hwrite
    obtain ⟨hlast, hothers'⟩ := ih hfirst
    refine ⟨?_, fun other hne => (hothers' other hne).trans (hothers other hne)⟩
    rwa [List.map_cons, List.flatten_cons, ← List.append_assoc]

end Streams

/-! ## Commands -/

section Commands

variable {search : SearchPath} {t command : Tokens} {child : Process} {between : World}

theorem runChild_of_ok {status : Status}
    (h : (runCommand sys search process t).run world = ((.ok status, child), world')) :
    (runChild sys search process t).run world = (status, world') := by
  rw [runChild, run_bind, h]
  rfl

/-- A child that fails reports on its own standard error. -/
theorem runChild_of_error {failure : Failure}
    (h : (runCommand sys search process t).run world = ((.error failure, child), between)) :
    (runChild sys search process t).run world =
      (.exited 0, ((reportError sys child).run between).2) := by
  rw [runChild, run_bind, h]
  rfl

theorem runCommand_of_unredirected {target : String} {failure : Failure}
    (ht : t.takeRedirection = (.ok (some target), command))
    (h : (redirectOutput sys process (utf8 target)).run world =
      ((.error failure, child), between)) :
    (runCommand sys search process t).run world = ((.error failure, child), between) := by
  rw [runCommand, ht]
  dsimp only
  rw [run_bind, h]
  rfl

theorem runCommand_of_redirected (search : SearchPath) {target : String}
    (ht : t.takeRedirection = (.ok (some target), command))
    (h : (redirectOutput sys process (utf8 target)).run world =
      ((.ok (), child), between)) :
    (runCommand sys search process t).run world =
      ((((becomeProgram sys search child command).run between).1, child),
        ((becomeProgram sys search child command).run between).2) := by
  rw [runCommand, ht]
  dsimp only
  rw [run_bind, h]
  rfl

variable (d) in
/-- A child that does not become a program leaves files as they are. -/
theorem files_of_unstarted {failure : Failure}
    (h : (becomeProgram sys search process t).run world = (.error failure, world')) :
    d.files world' = d.files world := by
  obtain ⟨calls, answer, after, hrun, hmade⟩ := becomeProgram_makes sys search process t world []
  have hsame := ((similar_recorded sys).becomeProgram search process t).run_eq hrun
  rw [h] at hsame
  cases hsame
  have haccount := ((similar_follows sys (world, [])).becomeProgram search process t).account hrun
  exact d.still_account haccount hmade.still

/-- What comes out of a child with its streams in place: the report if no program starts, else
what the program writes. -/
inductive Prints (d : OpenFiles sys Open File) (target : File) (search : SearchPath)
    (child : Process) (command : Tokens) (between : World) : Bytes → Prop where
  | report {failure : Failure} {after : World}
    (hstart : (becomeProgram sys search child command).run between = (.error failure, after))
    (hcomplete : d.Complete after child standardError (utf8 errorMessage)) :
    Prints d target search child command between (utf8 errorMessage)
  | program {opened : Open} {output : Bytes} {status : Status} {after : World}
    (hstart : (becomeProgram sys search child command).run between = (.ok status, after))
    (hopened : d.openFile child standardOutput = some opened)
    (hemits : d.Emits opened target between output after) :
    Prints d target search child command between output

/-- A child with a redirection, and what it has left in the file `target`: nothing if its own
target could not be opened, and the file is not where its reports go either. -/
inductive Command (d : OpenFiles sys Open File) (target : File) (world : World) :
    Option Bytes → World → Prop where
  | unopened {search : SearchPath} {process child : Process} {t command : Tokens} {path : String}
    {failure : Failure} {status : Status} {between world' : World}
    (ht : t.takeRedirection = (.ok (some path), command)) (hready : d.Ready world process)
    (helsewhere : d.fileOf world process standardError ≠ some target)
    (hredirect : (redirectOutput sys process (utf8 path)).run world =
      ((.error failure, child), between))
    (hrun : (runChild sys search process t).run world = (status, world')) :
    Command d target world none world'
  | opened {search : SearchPath} {process child : Process} {t command : Tokens} {path : String}
    {output : Bytes} {status : Status} {between world' : World}
    (ht : t.takeRedirection = (.ok (some path), command)) (hready : d.Ready world process)
    (hredirect : (redirectOutput sys process (utf8 path)).run world =
      ((.ok (), child), between))
    (htarget : d.fileOf between child standardOutput = some target)
    (hregular : (d.files between).isRegular target = true)
    (hprints : d.Prints target search child command between output)
    (hrun : (runChild sys search process t).run world = (status, world')) :
    Command d target world (some output) world'

/-- What comes out of a child whose streams lead to `target` is there in the end. -/
theorem Prints.holds {opened : Open} {target : File} {output : Bytes} {path : String}
    {status : Status} (h : d.Prints target search child command between output)
    (ht : t.takeRedirection = (.ok (some path), command))
    (hredirect : (redirectOutput sys process (utf8 path)).run world =
      ((.ok (), child), between))
    (hstreams : ∀ stream, stream = standardOutput ∨ stream = standardError →
      d.openFile child stream = some opened)
    (hheld : (d.files between).Holds opened target [])
    (hrun : (runChild sys search process t).run world = (status, world')) :
    (d.files world').Holds opened target output := by
  have hcommand := runCommand_of_redirected search ht hredirect
  cases h with
  | @report failure after hstart hcomplete =>
    rw [hstart] at hcommand
    rw [runChild_of_error hcommand] at hrun
    cases hrun
    rw [← d.files_of_unstarted hstart] at hheld
    exact (holds_write hheld (hstreams _ (.inr rfl)) hcomplete rfl).1
  | @program opened' output status after hstart hopened hemits =>
    rw [hstreams _ (.inl rfl)] at hopened
    cases hopened
    rw [hstart] at hcommand
    rw [runChild_of_ok hcommand] at hrun
    cases hrun
    exact hemits.holds hheld

/-- A child that cannot open its target reports to where its process did. -/
theorem Ready.content_of_unopened (hready : d.Ready world process) {target : File} {path : String}
    {failure : Failure} {status : Status} (ht : t.takeRedirection = (.ok (some path), command))
    (helsewhere : d.fileOf world process standardError ≠ some target)
    (hredirect : (redirectOutput sys process (utf8 path)).run world =
      ((.error failure, child), between))
    (hrun : (runChild sys search process t).run world = (status, world')) :
    (d.files world').content target = (d.files world).content target := by
  obtain ⟨rfl, hfiles⟩ := hready.unredirected hredirect
  rw [runChild_of_error (runCommand_of_unredirected ht hredirect)] at hrun
  cases hrun
  obtain ⟨opened, hopened⟩ := Option.ne_none_iff_exists'.1 hready.error
  obtain ⟨found, hfound⟩ := Option.ne_none_iff_exists'.1 (hready.isOpen _ _ hopened)
  have hne : target ≠ found.file := by
    rintro rfl
    refine helsewhere ?_
    rw [fileOf, hopened, Option.bind_some, hfound, Option.map_some]
  rw [← hfiles] at hfound ⊢
  obtain ⟨hothers, -⟩ := d.write rfl hopened hfound
  exact hothers target hne

theorem Command.content_eq {target : File} {output : Option Bytes}
    (h : d.Command target world output world') :
    (d.files world').content target = output.getD ((d.files world).content target) := by
  cases h with
  | unopened ht hready helsewhere hredirect hrun =>
    exact hready.content_of_unopened ht helsewhere hredirect hrun
  | opened ht hready hredirect htarget hregular hprints hrun =>
    obtain ⟨opened, found, hredirected⟩ := hready.redirected hredirect
    have hfound := hredirected.fileOf_eq hready standardOutput
    rw [htarget, if_pos (.inl rfl)] at hfound
    cases hfound
    exact (hprints.holds ht hredirect (fun _ => hredirected.openFile_stream)
      (hredirected.holds hregular) hrun).content

/-- Commands whose redirections lead to `target`, one after the other. In between nobody writes to
it. -/
inductive Commands (d : OpenFiles sys Open File) (target : File) :
    World → List (Option Bytes) → World → Prop where
  | nothing {world : World} : Commands d target world [] world
  | idle {world between world' : World} {outputs : List (Option Bytes)}
    (hcontent : (d.files between).content target = (d.files world).content target)
    (hrest : Commands d target between outputs world') : Commands d target world outputs world'
  | command {world between world' : World} {output : Option Bytes}
    {outputs : List (Option Bytes)} (hcommand : d.Command target world output between)
    (hrest : Commands d target between outputs world') :
    Commands d target world (output :: outputs) world'

/-- **The last one.** The target holds the output of the last command that had it open. -/
theorem Commands.content_eq {target : File} {outputs : List (Option Bytes)}
    (h : d.Commands target world outputs world') :
    (d.files world').content target =
      outputs.reduceOption.getLast?.getD ((d.files world).content target) := by
  induction h with
  | nothing => rfl
  | idle hcontent hrest ih => rw [ih, hcontent]
  | @command _ _ _ output outputs hcommand hrest ih =>
    rw [ih, hcommand.content_eq]
    cases output with
    | none => rfl
    | some output =>
      rw [List.reduceOption_cons_of_some, List.getLast?_cons]
      rfl

end Commands

/-- **Output.** A redirection that succeeds has opened its target once, for both streams and no
other descriptor. Complete writes to the streams are in the target in the order in which they were
made, with nothing else, and all other files are as they were before. A redirection fails only if
its target cannot be opened, and then nothing has changed. Of commands that follow each other, the
target holds the output of the last one whose redirection took effect. -/
theorem redirected_output (d : OpenFiles sys Open File) :
    (∀ process path world child between, d.Ready world process →
      (redirectOutput sys process path).run world = ((.ok (), child), between) →
      ∃ opened target, d.Redirected process world opened target child between ∧
        (∀ descriptor, d.openFile child descriptor = some opened ↔
          descriptor = standardOutput ∨ descriptor = standardError) ∧
        (∀ descriptor, d.fileOf between child descriptor =
          if descriptor = standardOutput ∨ descriptor = standardError then some target
          else d.fileOf world process descriptor) ∧
        ((d.files between).isRegular target = true →
          ∀ writes world', d.Writes child between writes world' →
            (d.files world').content target = (writes.map Prod.snd).flatten ∧
            ∀ other, other ≠ target →
              (d.files world').content other = (d.files world).content other)) ∧
    (∀ process path world failure between,
      (openTarget sys process path).run world = (.error failure, between) →
      (redirectOutput sys process path).run world = ((.error failure, process), between) ∧
        d.files between = d.files world) ∧
    (∀ process path world made between, d.Ready world process →
      (openTarget sys process path).run world = (.ok made, between) →
      ∃ child world', (redirectOutput sys process path).run world = ((.ok (), child), world')) ∧
    ∀ target world outputs world', d.Commands target world outputs world' →
      (d.files world').content target =
        outputs.reduceOption.getLast?.getD ((d.files world).content target) := by
  refine ⟨?_, ?_, ?_, ?_⟩
  · intro process path world child between hready hrun
    obtain ⟨opened, target, hredirected⟩ := hready.redirected hrun
    refine ⟨opened, target, hredirected, hredirected.openFile_eq_iff hready,
      hredirected.fileOf_eq hready, ?_⟩
    intro hregular writes world' hwrites
    obtain ⟨hheld, hothers⟩ :=
      hwrites.holds (fun _ => hredirected.openFile_stream) (hredirected.holds hregular)
    refine ⟨hheld.content, fun other hne => ?_⟩
    rw [hothers other hne, hredirected.emptied hregular, Function.update_of_ne hne]
  · intro process path world failure between hopen
    exact ⟨redirectOutput_of_unopened hopen, d.files_of_unopened hopen⟩
  · intro process path world made between hready hopen
    obtain ⟨child, world', hrun, -⟩ := hready.exists_redirected hopen
    exact ⟨child, world', hrun⟩
  · intro target world outputs world' h
    exact h.content_eq

end OpenFiles

end MiniShell
