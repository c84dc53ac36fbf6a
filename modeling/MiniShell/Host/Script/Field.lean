import MiniShell.Host.Script.Syntax
import MiniShell.Host.Tree

/-!
# From pieces to fields

A word whose values have been put in is a list of atoms: bytes that remember where they came from,
and marks between them. The value of an unquoted parameter is cut where it has separators, and a
field with an unquoted wildcard becomes the names of the files that it fits, if there are any.
-/

namespace MiniShell.Host.Script

/-- A part of a word whose values have been put in. -/
inductive Atom where
  | literal (b : UInt8)
  /-- A byte that may be a wildcard. -/
  | active (b : UInt8)
  /-- A byte that may be a wildcard, or a separator between fields. -/
  | value (b : UInt8)
  /-- The end of a field. -/
  | boundary
  /-- Quotes, which make a field even of nothing. -/
  | quotes
  deriving DecidableEq, Repr

namespace Atom

def byte? : Atom → Option UInt8
  | literal b | active b | value b => some b
  | boundary | quotes => none

/-- Whether the atom is an unquoted byte of the given ASCII character. -/
def isActive (c : Char) : Atom → Bool
  | active b | value b => b == byte c
  | _ => false

/-- The separator that an atom is. -/
def separator? (separators : Bytes) : Atom → Option UInt8
  | value b => if separators.contains b then some b else none
  | _ => none

end Atom

/-- The text of atoms. -/
def textOf (atoms : List Atom) : Bytes := atoms.filterMap Atom.byte?

/-! ## Cutting -/

/-- Whether a separator is a blank. Blanks around fields and other separators go away. -/
def isBlankSeparator (b : UInt8) : Bool := [byte ' ', byte '\t', newline].contains b

/-- Cuts atoms into fields. `current` is the field in progress, last atom first; `open` says that
the last field was ended by a blank, so that a separator that follows ends no other field. -/
def cut (separators : Bytes) (current : Option (List Atom)) (afterBlank : Bool) :
    List Atom → List (List Atom)
  | [] => current.toList.map List.reverse
  | atom :: atoms =>
    match atom.separator? separators with
    | some b =>
      if isBlankSeparator b then
        current.toList.map List.reverse ++
          cut separators none (afterBlank || current.isSome) atoms
      else if afterBlank && current.isNone then cut separators none false atoms
      else (current.getD []).reverse :: cut separators none false atoms
    | none =>
      match atom with
      | .boundary =>
        current.toList.map List.reverse ++ cut separators none false atoms
      | atom => cut separators (some (atom :: current.getD [])) false atoms

/-! ## Patterns -/

/-- The members of the named classes of characters. -/
def classOf? (name : Bytes) : Option (UInt8 → Bool) :=
  let lower := fun b => byte 'a' ≤ b && b ≤ byte 'z'
  let upper := fun b => byte 'A' ≤ b && b ≤ byte 'Z'
  let letter := fun b => lower b || upper b
  let graph := fun b => byte '!' ≤ b && b ≤ byte '~'
  [("alpha", letter), ("digit", isDigit), ("alnum", fun b => letter b || isDigit b),
    ("lower", lower), ("upper", upper), ("graph", graph),
    ("print", fun b => graph b || b == byte ' '),
    ("punct", fun b => graph b && !(letter b || isDigit b)),
    ("space", fun b => b == byte ' ' || (9 ≤ b && b ≤ 13)),
    ("blank", fun b => b == byte ' ' || b == byte '\t'),
    ("cntrl", fun b => b < 32 || b == 127),
    ("xdigit", fun b => (digit? 16 b).isSome)].findSome? fun (known, test) =>
      if utf8 known = name then some test else none

/-- The class named at the start of a bracket's members, behind its first bracket, and the rest. -/
def namedClass? (atoms : List Atom) : Option ((UInt8 → Bool) × List Atom) :=
  match atoms with
  | colon :: rest =>
    let name := rest.takeWhile fun a => !a.isActive ':'
    match if colon.isActive ':' then classOf? (textOf name) else none,
        rest.drop name.length with
    | some test, _ :: close :: rest => if close.isActive ']' then some (test, rest) else none
    | _, _ => none
  | [] => none

/-- The members of a bracket up to the bracket that closes it, and the pattern behind that. A
bracket right at the start is a member. -/
def members? : (steps : Nat) → (atStart : Bool) → List Atom → Option ((UInt8 → Bool) × List Atom)
  | 0, _, _ | _, _, [] => none
  | steps + 1, atStart, atom :: atoms =>
    let more := fun (test : UInt8 → Bool) (rest : List Atom) =>
      (members? steps false rest).map fun (others, rest) => (fun b => test b || others b, rest)
    if atom.isActive ']' && !atStart then some (fun _ => false, atoms)
    else
      match if atom.isActive '[' then namedClass? atoms else none with
      | some (test, rest) => more test rest
      | none =>
        match atom.byte?, atoms with
        | some low, hyphen :: high :: rest =>
          match hyphen.byte? == some (byte '-') && !high.isActive ']', high.byte? with
          | true, some high => more (fun b => low ≤ b && b ≤ high) rest
          | _, _ => more (· == low) atoms
        | some low, _ => more (· == low) atoms
        | none, _ => more (fun _ => false) atoms

/-- The test behind an opening bracket, and the pattern behind the closing one, if there is one. -/
def bracket? (atoms : List Atom) : Option ((UInt8 → Bool) × List Atom) :=
  let negated := atoms.head?.any (·.isActive '!')
  let inside := if negated then atoms.drop 1 else atoms
  (members? inside.length true inside).map fun (test, rest) => (fun b => test b != negated, rest)

/-- Whether a pattern fits a text. The number of steps suffices if it is that of both together. -/
def fits : (steps : Nat) → List Atom → Bytes → Bool
  | 0, pattern, text => pattern.isEmpty && text.isEmpty
  | _ + 1, [], text => text.isEmpty
  | steps + 1, a :: pattern, text =>
    if a.isActive '*' then
      fits steps pattern text ||
        match text with
        | [] => false
        | _ :: text => fits steps (a :: pattern) text
    else
      match text with
      | [] => false
      | b :: text =>
        if a.isActive '?' then fits steps pattern text
        else if a.isActive '\\' then
          match pattern with
          | [] => b == byte '\\' && text.isEmpty
          | c :: pattern => c.byte? == some b && fits steps pattern text
        else
          match if a.isActive '[' then bracket? pattern else none with
          | some (test, rest) => test b && fits steps rest text
          | none => a.byte? == some b && fits steps pattern text

/-- Whether a pattern fits a text. -/
def matchesText (pattern : List Atom) (text : Bytes) : Bool :=
  let pattern := pattern.filter (·.byte?.isSome)
  fits (pattern.length + text.length) pattern text

/-- A value without the part at one end that a pattern fits, the shortest or the longest. -/
def trim (side : End) (longest : Bool) (pattern : List Atom) (value : Bytes) : Bytes :=
  let sizes := List.range (value.length + 1)
  let sizes := if longest then sizes.reverse else sizes
  let part := fun (size : Nat) =>
    match side with
    | .front => value.take size
    | .back => value.drop (value.length - size)
  match sizes.find? fun size => matchesText pattern (part size) with
  | none => value
  | some size =>
    match side with
    | .front => value.drop size
    | .back => value.take (value.length - size)

/-! ## Names of files -/

def hasWildcard (atoms : List Atom) : Bool :=
  atoms.any fun a => a.isActive '*' || a.isActive '?' || a.isActive '['

/-- The components of a pattern for paths, each with the slashes behind it. -/
def patternComponents : (steps : Nat) → List Atom → List (List Atom × Bytes)
  | 0, _ | _, [] => []
  | steps + 1, atoms =>
    let isSlash := fun (a : Atom) => a.byte? == some slash
    let name := atoms.takeWhile fun a => !isSlash a
    let slashes := (atoms.drop name.length).takeWhile isSlash
    (name, textOf slashes) ::
      patternComponents steps (atoms.drop (name.length + slashes.length))

/-- The files whose paths start with `start` and go on as the patterns say. -/
def filesLike (m : Machine) (workingDir : Nat) (start : Bytes) :
    List (List Atom × Bytes) → List Bytes
  | [] =>
    let found :=
      if endsInSlash start then (m.find workingDir start).isOk
      else (m.place false workingDir start).toOption.any (·.node.isSome)
    if found then [start] else []
  | (pattern, slashes) :: rest =>
    let goOn := fun (name : Bytes) => filesLike m workingDir (start ++ name ++ slashes) rest
    if hasWildcard pattern then
      match m.find workingDir (if start.isEmpty then dot else start) with
      | .error _ => []
      | .ok dir =>
        if (m.directory? dir).isNone then []
        else
          let hidden := (textOf pattern).head? = some (byte '.')
          let names := ((if hidden then [dot, dotDot] else []) ++ m.names dir).filter fun name =>
            (hidden || name.head? != some (byte '.')) && matchesText pattern name
          (names.mergeSort bytesLE).flatMap goOn
    else goOn (textOf pattern)

/-- The texts that a field stands for. -/
def expandField (m : Machine) (workingDir : Nat) (field : List Atom) : List Bytes :=
  let field := field.filter (·.byte?.isSome)
  let text := textOf field
  if !hasWildcard field then [text]
  else
    match filesLike m workingDir [] (patternComponents (field.length + 1) field) with
    | [] => [text]
    | names => names.mergeSort bytesLE

end MiniShell.Host.Script
