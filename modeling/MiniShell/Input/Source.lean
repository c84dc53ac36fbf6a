import MiniShell.Error.Errno

/-!
# Sources of input

A source is the list of everything that reading it will still meet: blocks of bytes, reads that a
signal interrupted, and reads that failed. A read that brings no bytes says that the source has
ended, so it is the end of the list and not an event in it. An `Input` is a source together with
the bytes that were read from it and not used yet. A read is made only when those are used up.
-/

namespace MiniShell

/-- What one read of a source meets. -/
inductive ReadEvent where
  /-- Bytes were read, at least one. A block without bytes is not met by any read: it would be
  passed over here, and a read that brings nothing is the end of the list. -/
  | block (bytes : Bytes)
  /-- The read was interrupted before it took anything, and may be tried again. -/
  | interrupted
  | failed (cause : IoError)
  deriving DecidableEq, Repr

/-- The bytes that a read brings. -/
def ReadEvent.bytes : ReadEvent → Except IoError Bytes
  | .block bytes => .ok bytes
  | .interrupted => .ok []
  | .failed cause => .error cause

abbrev Source := List ReadEvent

/-- The number of bytes that a read asks for. -/
def blockSize : Nat := 8192

/-- A byte string cut into pieces of `size + 1` bytes, the last of which may be shorter. -/
def pieces (size : Nat) (bytes : Bytes) : List Bytes :=
  if bytes.length ≤ size + 1 then [bytes]
  else bytes.take (size + 1) :: pieces size (bytes.drop (size + 1))
termination_by bytes.length
decreasing_by simp only [List.length_drop]; omega

namespace Source

/-- The source of the given bytes, which are read without trouble. -/
def ofBytes (bytes : Bytes) : Source := [.block bytes]

/-- The source as it is seen by reads that ask for no more than `size` bytes. -/
def buffered (size : Nat) (source : Source) : Source :=
  source.flatMap fun
    | .block bytes => (pieces (size - 1) bytes).map .block
    | event => [event]

/-- The number of bytes and events that are left. -/
def weight : Source → Nat
  | [] => 0
  | .block bytes :: source => bytes.length + 1 + weight source
  | _ :: source => 1 + weight source

end Source

/-- A source and the bytes that were read from it but not used yet. -/
structure Input where
  buffer : Bytes
  source : Source
  deriving DecidableEq, Repr

namespace Input

/-- A source that has not been read from. -/
def ofSource (source : Source) : Input := ⟨[], source⟩

/-- The number of bytes and events that are left. -/
def weight (input : Input) : Nat := input.buffer.length + input.source.weight

end Input

end MiniShell
