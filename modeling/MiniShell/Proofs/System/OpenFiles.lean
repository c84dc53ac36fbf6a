import MiniShell.Host.Files
import MiniShell.Proofs.System.Descriptors

/-!
# Open files and their positions

`OpenFiles` adds to a system what POSIX says of output. A descriptor refers to an open file. The
open file has a position, which is shared by all descriptors that were made from one another: a
write takes place there and moves it. Whoever opens a file once more gets a position of its own.

`Files.Holds` is what redirections live on: an open file stands at the end of what its file holds.
A complete write keeps it so and adds its bytes (`Files.Holds.write`).
-/

namespace MiniShell

variable {World Process Open File : Type}

/-- An open file: the file it belongs to, where the next write takes place, and whether writes go
to the end of the file instead. -/
structure Description (File : Type) where
  file : File
  position : Nat
  appends : Bool

/-- The open files of a world and its files. -/
@[ext]
structure Files (Open File : Type) where
  /-- What there is to know of an open file. It is not forgotten when the file is closed. -/
  description : Open → Option (Description File)
  isRegular : File → Bool
  content : File → Bytes

namespace Files

variable [DecidableEq Open] [DecidableEq File] (fs : Files Open File)

/-- All of `bytes` is written to an open file that belongs to a regular file. -/
def write (opened : Open) (d : Description File) (bytes : Bytes) : Files Open File :=
  let position := if d.appends then (fs.content d.file).length else d.position
  { fs with
    description := Function.update fs.description opened
      (some { d with position := position + bytes.length })
    content := Function.update fs.content d.file
      (Host.overwrite (fs.content d.file) position bytes) }

/-- The open file stands at the end of a regular file, which holds `held`. -/
structure Holds (opened : Open) (target : File) (held : Bytes) : Prop where
  description : fs.description opened = some ⟨target, held.length, false⟩
  isRegular : fs.isRegular target = true
  content : fs.content target = held

variable {fs} {opened : Open} {target : File} {held : Bytes}

/-- What is written at the end of a file comes behind what the file holds. -/
theorem Holds.write (h : fs.Holds opened target held) (bytes : Bytes) :
    (fs.write opened ⟨target, held.length, false⟩ bytes).Holds opened target (held ++ bytes) where
  description := by
    show Function.update fs.description opened (some ⟨target, held.length + bytes.length, false⟩)
      opened = _
    rw [Function.update_self, List.length_append]
  isRegular := h.isRegular
  content := by
    show Function.update fs.content target
      (Host.overwrite (fs.content target) held.length bytes) target = _
    rw [Function.update_self, h.content, Host.overwrite_length]

end Files

/-- Descriptors, open files and files of a system. -/
structure OpenFiles (sys : System World Process) (Open File : Type) [DecidableEq Open]
    [DecidableEq File] where
  /-- The open file that a descriptor refers to. -/
  openFile : Process → Nat → Option Open
  files : World → Files Open File
  /-- All of the bytes would be written. -/
  Complete : World → Process → Nat → Bytes → Prop
  /-- A file that is opened for output is a new open file, at the start of a file that has been
  emptied if it is a regular one. It goes by a descriptor that was free. -/
  create {process path mode descriptor process' world world'} :
    (sys.create process path mode).run world = (.ok (descriptor, process'), world') →
      openFile process descriptor = none ∧ ∃ opened target,
        (files world).description opened = none ∧
        openFile process' = Function.update (openFile process) descriptor (some opened) ∧
        (files world').description =
          Function.update (files world).description opened (some ⟨target, 0, false⟩) ∧
        ((files world').isRegular target = true →
          (files world').content = Function.update (files world).content target [])
  create_error {process path mode errno world world'} :
    (sys.create process path mode).run world = (.error errno, world') →
      files world' = files world
  /-- A descriptor that is in use can be made to refer to the open file of another. -/
  duplicate (process old new world) :
    openFile process old ≠ none → openFile process new ≠ none →
      ∃ process' world', (sys.duplicate process old new).run world = (.ok process', world') ∧
        openFile process' = Function.update (openFile process) new (openFile process old)
  close (process descriptor world) :
    openFile ((sys.close process descriptor).run world).1 =
      Function.update (openFile process) descriptor none
  /-- A write reaches one file. If it is complete, all bytes go to the position of the open file,
  which moves behind them. -/
  write {process descriptor bytes opened d world world'} :
    (sys.write process descriptor bytes).run world = ((), world') →
      openFile process descriptor = some opened → (files world).description opened = some d →
        (∀ other, other ≠ d.file → (files world').content other = (files world).content other) ∧
        (Complete world process descriptor bytes → (files world).isRegular d.file = true →
          files world' = (files world).write opened d bytes)
  still {call world world'} : Call.Happens sys world world' call → call.isStill = true →
    files world' = files world

namespace OpenFiles

variable [DecidableEq Open] [DecidableEq File] {sys : System World Process}
  (d : OpenFiles sys Open File)

theorem still_account {calls : Record Process} {world world' : World}
    (h : Account sys world world' calls) (hstill : ∀ call ∈ calls, call.isStill = true) :
    d.files world' = d.files world := by
  refine h.kept (fun first second => d.files second = d.files first) (fun _ => rfl) ?_
    fun call hmem _ _ hcall => d.still hcall (hstill call hmem)
  intro first second third hfirst hsecond
  exact hsecond.trans hfirst

/-- The file that a descriptor leads to. -/
def fileOf (world : World) (process : Process) (descriptor : Nat) : Option File :=
  ((d.openFile process descriptor).bind (d.files world).description).map Description.file

/-- A process with both output streams, whose descriptors all refer to open files. -/
structure Ready (world : World) (process : Process) : Prop where
  isOpen : ∀ descriptor opened, d.openFile process descriptor = some opened →
    (d.files world).description opened ≠ none
  output : d.openFile process standardOutput ≠ none
  error : d.openFile process standardError ≠ none

end OpenFiles

end MiniShell
