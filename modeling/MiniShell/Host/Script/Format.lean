import MiniShell.Host.Escape

/-!
# Formats

A format is text with directives in it. Each directive says how the next argument is shown. A
format with directives is used again until no argument is left.
-/

namespace MiniShell.Host.Script.Format

/-- A width or a precision: a number, or the next argument. -/
inductive Measure where
  | fixed (n : Nat)
  | argument
  deriving DecidableEq, Repr

/-- How an argument is shown. -/
structure Directive where
  flags : Bytes
  width : Measure
  precision : Option Measure
  kind : UInt8
  deriving DecidableEq, Repr

/-- A part of a format. -/
inductive Part where
  | literal (b : UInt8)
  | directive (d : Directive)
  /-- A mistake, at which the output ends. -/
  | broken (message : Bytes)
  deriving DecidableEq, Repr

/-- What the arguments give, and what was wrong with some. -/
structure State where
  arguments : List Bytes
  messages : List Bytes

/-! ## Reading formats -/

/-- The measure at the start of a text, and the rest. -/
def measure (text : Bytes) : Measure × Bytes :=
  match text with
  | 42 :: rest => (.argument, rest)
  | _ =>
    let (n, rest) := takeNumber 10 text.length text
    (.fixed n, rest)

/-- The directive behind a percent sign, and the rest. -/
def directive (text : Bytes) : Part × Bytes :=
  let flags := text.takeWhile (utf8 "#-+ 0").contains
  let (width, rest) := measure (text.drop flags.length)
  let (precision, rest) :=
    match rest with
    | 46 :: rest =>
      let (precision, rest) := measure rest
      (some precision, rest)
    | _ => (none, rest)
  match rest with
  | [] => (.broken (utf8 "missing format character"), [])
  | kind :: rest =>
    if (utf8 "bcsdiouxX").contains kind then (.directive ⟨flags, width, precision, kind⟩, rest)
    else
      let shown := text.take (text.length - rest.length)
      (.broken (byte '%' :: shown ++ utf8 ": invalid directive"), [])

/-- The byte that an escape stands for, the backslash having been read, and the rest. -/
def escape? (text : Bytes) : Option (UInt8 × Bytes) :=
  match text with
  | [] => none
  | c :: rest =>
    if (digit? 8 c).isSome then
      let (value, rest) := takeNumber 8 3 text
      some (value.toUInt8, rest)
    else if c = byte 'e' then none
    else (escapeLetter? c).map fun letter => (letter, rest)

/-- The parts of a format. -/
def parts : (steps : Nat) → Bytes → List Part
  | 0, _ | _, [] => []
  | steps + 1, b :: text =>
    if b = byte '\\' then
      match escape? text with
      | some (letter, rest) => .literal letter :: parts steps rest
      | none => .literal b :: parts steps text
    else if b = byte '%' then
      match text with
      | 37 :: rest => .literal b :: parts steps rest
      | _ =>
        let (part, rest) := directive text
        part :: parts steps rest
    else .literal b :: parts steps text

/-! ## Arguments -/

/-- The next argument, or an empty one if none is left. -/
def next (s : State) : Bytes × State :=
  (s.arguments.head?.getD [], { s with arguments := s.arguments.drop 1 })

/-- The number that a text writes, and what is wrong with it. Numbers keep 64 bits, and have a sign
of their own if `signed`. -/
def number (signed : Bool) (text : Bytes) : Int × List Bytes :=
  match text with
  | 34 :: rest | 39 :: rest => ((rest.head?.getD 0).toNat, [])
  | _ =>
    let body := text.dropWhile fun b => b == byte ' ' || (9 ≤ b && b ≤ 13)
    let negative := body.head? = some (byte '-')
    let digits := if negative ∨ body.head? = some (byte '+') then body.drop 1 else body
    let (base, digits) :=
      match digits with
      | 48 :: x :: d :: rest =>
        if (x = byte 'x' ∨ x = byte 'X') ∧ (digit? 16 d).isSome then (16, d :: rest)
        else (8, digits)
      | 48 :: _ => (8, digits)
      | _ => (10, digits)
    let (n, rest) := takeNumber base digits.length digits
    let found := (digits.head?.bind (digit? base)).isSome
    let value : Int := if negative then -(n : Int) else n
    let high : Int := if signed then 9223372036854775807 else 18446744073709551615
    let low : Int := if signed then -9223372036854775808 else -18446744073709551615
    if !found then
      (0, if text.isEmpty then [] else [text ++ utf8 ": expected numeric value"])
    else if !rest.isEmpty then
      (max low (min high value), [text ++ utf8 ": not completely converted"])
    else if value < low ∨ high < value then
      (if value < low ∧ ¬ signed then high else max low (min high value),
        [text ++ utf8 ": Numerical result out of range"])
    else (value, [])

/-- The next argument as a number. -/
def nextNumber (signed : Bool) (s : State) : Int × State :=
  let (text, s) := next s
  let (n, messages) := number signed text
  (n, { s with messages := s.messages ++ messages })

/-- The value of a measure. -/
def measured (m : Measure) (s : State) : Int × State :=
  match m with
  | .fixed n => (n, s)
  | .argument => nextNumber true s

/-! ## Showing -/

/-- A text brought to a width, on the left if `left`. -/
def pad (left : Bool) (width : Nat) (fill : UInt8) (text : Bytes) : Bytes :=
  let gap := List.replicate (width - text.length) fill
  if left then text ++ gap else gap ++ text

/-- The digits of a number in a base, of 16 at most. -/
def digitsOf (base : Nat) (upper : Bool) (n : Nat) : Bytes :=
  (Nat.toDigits base n).map fun c => byte (if upper then c.toUpper else c)

/-- A whole number as a directive shows it. -/
def shownNumber (d : Directive) (left : Bool) (width : Nat) (precision : Option Nat) (n : Int) :
    Bytes :=
  let signed := d.kind == byte 'd' || d.kind == byte 'i'
  let base := if d.kind = byte 'o' then 8 else if (utf8 "xX").contains d.kind then 16 else 10
  let magnitude := if signed then n.natAbs else (n % 18446744073709551616).toNat
  let digits := if magnitude = 0 ∧ precision = some 0 then [] else
    digitsOf base (d.kind = byte 'X') magnitude
  let digits := pad false (precision.getD 1) (byte '0') digits
  let alternate := d.flags.contains (byte '#')
  let digits :=
    if alternate ∧ base = 8 ∧ digits.head? ≠ some (byte '0') then byte '0' :: digits else digits
  let sign :=
    if alternate ∧ base = 16 ∧ magnitude ≠ 0 then [byte '0', d.kind]
    else if !signed then []
    else if n < 0 then [byte '-']
    else if d.flags.contains (byte '+') then [byte '+']
    else if d.flags.contains (byte ' ') then [byte ' ']
    else []
  let zeros := d.flags.contains (byte '0') && !left && precision.isNone
  if zeros then sign ++ pad false (width - sign.length) (byte '0') digits
  else pad left width (byte ' ') (sign ++ digits)

/-- Shows the next argument. The flag says whether all output ends behind it. -/
def Directive.render (d : Directive) (s : State) : Bytes × Bool × State :=
  let (width, s) := measured d.width s
  let left := d.flags.contains (byte '-') || width < 0
  let width := width.natAbs
  let (precision, s) :=
    match d.precision with
    | none => (none, s)
    | some m =>
      let (n, s) := measured m s
      (if n < 0 then none else some n.toNat, s)
  let place := fun (text : Bytes) => pad left width (byte ' ') text
  if d.kind = byte 's' then
    let (text, s) := next s
    (place (text.take (precision.getD text.length)), false, s)
  else if d.kind = byte 'b' then
    let (text, s) := next s
    let (text, ended) := unescape false text
    (place (text.take (precision.getD text.length)), ended, s)
  else if d.kind = byte 'c' then
    let (text, s) := next s
    (place [text.head?.getD 0], false, s)
  else
    let (n, s) := nextNumber (d.kind = byte 'd' ∨ d.kind = byte 'i') s
    (shownNumber d left width precision n, false, s)

/-- What a format makes of arguments. -/
structure Shown where
  output : Bytes
  messages : List Bytes
  /-- A mistake in the format. -/
  mistake : Option Bytes

/-- Goes through the parts of a format once. The flag says whether all output ends. -/
def once (s : State) : List Part → Bytes × Option Bytes × Bool × State
  | [] => ([], none, false, s)
  | .literal b :: parts =>
    let (output, mistake, ended, s) := once s parts
    (b :: output, mistake, ended, s)
  | .broken message :: _ => ([], some message, true, s)
  | .directive d :: parts =>
    let (text, ended, s) := d.render s
    if ended then (text, none, true, s)
    else
      let (output, mistake, ended, s) := once s parts
      (text ++ output, mistake, ended, s)

/-- Goes through the parts of a format until no argument is left. -/
def again (parts : List Part) : (rounds : Nat) → State → Shown
  | 0, s => ⟨[], s.messages, none⟩
  | rounds + 1, s =>
    let (output, mistake, ended, s') := once s parts
    if ended ∨ s'.arguments.isEmpty ∨ s'.arguments.length = s.arguments.length then
      ⟨output, s'.messages, mistake⟩
    else
      let rest := again parts rounds s'
      { rest with output := output ++ rest.output }

/-- What a format makes of arguments. -/
def render (format : Bytes) (arguments : List Bytes) : Shown :=
  again (parts format.length format) (arguments.length + 1) ⟨arguments, []⟩

end MiniShell.Host.Script.Format
