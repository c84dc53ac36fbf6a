import MiniShell.Bytes

/-!
# Escapes and quoted names

Two notations of the programs of the machine: the backslash escapes that `echo` reads, and the
quotes in which an unusual file name stands in a message.
-/

namespace MiniShell.Host

/-- The byte of an ASCII character. -/
def byte (c : Char) : UInt8 := c.toNat.toUInt8

/-- The value of a digit in the given base, of 16 at most. -/
def digit? (base : Nat) (b : UInt8) : Option Nat :=
  let value :=
    if byte '0' ≤ b ∧ b ≤ byte '9' then b.toNat - 48
    else if byte 'a' ≤ b ∧ b ≤ byte 'f' then b.toNat - 87
    else if byte 'A' ≤ b ∧ b ≤ byte 'F' then b.toNat - 55
    else base
  if value < base then some value else none

/-- The number at the start of the bytes, of at most `count` digits, and the rest. -/
def takeNumber (base count : Nat) (bytes : Bytes) : Nat × Bytes :=
  let digits := (bytes.take count).takeWhile fun b => (digit? base b).isSome
  (digits.foldl (fun value b => value * base + (digit? base b).getD 0) 0,
    bytes.drop digits.length)

/-- The byte that a letter stands for behind a backslash. -/
def escapeLetter? (b : UInt8) : Option UInt8 :=
  [(byte 'a', 7), (byte 'b', 8), (byte 'e', 27), (byte 'f', 12), (byte 'n', 10), (byte 'r', 13),
    (byte 't', 9), (byte 'v', 11), (byte '\\', byte '\\')].lookup b

/-- Reads the escapes of at most `steps` pieces of a byte string. The second part of the answer
says whether the escape that ends all output was met. Hexadecimal escapes count only on demand. -/
def unescapeSteps (hexadecimal : Bool) : (steps : Nat) → Bytes → Bytes × Bool
  | 0, _ | _, [] => ([], false)
  | steps + 1, b :: bytes =>
    let emit := fun (out : Bytes) (rest : Bytes) =>
      let (more, ended) := unescapeSteps hexadecimal steps rest
      (out ++ more, ended)
    if b != byte '\\' then emit [b] bytes
    else
      match bytes with
      | [] => ([b], false)
      | c :: rest =>
        if c = byte 'c' then ([], true)
        else if c = byte '0' then
          let (value, rest) := takeNumber 8 3 rest
          emit [value.toUInt8] rest
        else if (digit? 8 c).isSome then
          let (value, rest) := takeNumber 8 3 bytes
          emit [value.toUInt8] rest
        else if hexadecimal && c = byte 'x' && (rest.head?.bind (digit? 16)).isSome then
          let (value, rest) := takeNumber 16 2 rest
          emit [value.toUInt8] rest
        else
          match escapeLetter? c with
          | some letter => emit [letter] rest
          | none => emit [b, c] rest

/-- The bytes that a text with escapes stands for, and whether all output ends there. -/
def unescape (hexadecimal : Bool) (bytes : Bytes) : Bytes × Bool :=
  unescapeSteps hexadecimal bytes.length bytes

/-! ## Names in messages -/

def isPrintable (b : UInt8) : Bool := 32 ≤ b && b ≤ 126

/-- The characters of which a name may be made without a second thought. -/
def isPlain (b : UInt8) : Bool :=
  (utf8 "%+,-./0123456789:@ABCDEFGHIJKLMNOPQRSTUVWXYZ]_abcdefghijklmnopqrstuvwxyz").contains b

def isBrace (b : UInt8) : Bool := b == byte '\x7b' || b == byte '\x7d'

/-- The characters that mean something at the start of a name. -/
def isLeader (b : UInt8) : Bool := b == byte '#' || b == byte '~'

/-- Whether a name means something else, or nothing, when it stands without quotes. A lone brace
does, and so do a number sign and a tilde at the start. A colon could be taken for the end of the
name. -/
def needsQuotes : Bytes → Bool
  | [] => true
  | [b] => !isPlain b || b == byte ':'
  | first :: rest =>
    !(isPlain first || isBrace first) || first == byte ':' ||
      rest.any fun b => b == byte ':' || !(isPlain b || isBrace b || isLeader b)

/-- Whether a name reads the same in double quotes as it does in single ones. -/
def readsAlike : Bytes → Bool
  | [] => true
  | first :: rest =>
    let harmless := fun b => isPlain b || b == byte '\'' || b == byte ' '
    (harmless first || isLeader first) && rest.all harmless

/-- The escape of an unprintable byte. -/
def escapeByte (b : UInt8) : Bytes :=
  let letters := [(7, 'a'), (8, 'b'), (9, 't'), (10, 'n'), (11, 'v'), (12, 'f'), (13, 'r')]
  match letters.lookup b.toNat with
  | some letter => [byte '\\', byte letter]
  | none =>
    [byte '\\', 48 + b / 64, 48 + b / 8 % 8, 48 + b % 8]

/-- The inside of a name in single quotes. Unprintable bytes stand in a part of their own, which
`escaping` says is open. -/
def quoteInside (escaping : Bool) : Bytes → Bytes
  | [] => []
  | b :: name =>
    if b = byte '\'' then utf8 "'\\''" ++ quoteInside false name
    else if isPrintable b then (if escaping then utf8 "''" else []) ++ b :: quoteInside false name
    else (if escaping then [] else utf8 "'$'") ++ escapeByte b ++ quoteInside true name

/-- Whether a part with unprintable bytes is taken to be open at the start of a name already. A name
with a single quote in it is gone through twice, and what is open at its end stays open. -/
def startsEscaping (name : Bytes) : Bool :=
  name.contains (byte '\'') && name.getLast?.any fun b => !isPrintable b

/-- A name in quotes. -/
def quoted (name : Bytes) : Bytes :=
  if name.contains (byte '\'') && readsAlike name then byte '"' :: name ++ [byte '"']
  else byte '\'' :: quoteInside (startsEscaping name) name ++ [byte '\'']

/-- A name in quotes that is written as in a program: quotes and backslashes inside it are escaped
too. -/
def quotedAsText (name : Bytes) : Bytes :=
  let inside := name.flatMap fun b =>
    if b = byte '\'' ∨ b = byte '\\' then [byte '\\', b]
    else if isPrintable b then [b]
    else escapeByte b
  byte '\'' :: inside ++ [byte '\'']

/-- A name in front of a colon, in quotes only if it has to be. -/
def quotedIfOdd (name : Bytes) : Bytes := if needsQuotes name then quoted name else name

end MiniShell.Host
