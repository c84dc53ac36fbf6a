import MiniShell.Host.Script.Syntax

/-!
# Arithmetic expressions

Expressions over whole numbers of 64 bits, with the operators of C. A name stands for the number
that the value of a variable writes. What stands in front of a mistake in an expression still takes
effect, so an expression can always be read, and a mistake is a part of it.
-/

namespace MiniShell.Host.Script

/-- A number as it is kept in 64 bits. -/
def wrap (n : Int) : Int := n.bmod 18446744073709551616

/-- The greatest number. -/
def maxNumber : Int := 9223372036854775807

/-- A number that is too big or too small as the nearest number that is not. -/
def saturate (n : Int) : Int := max (-maxNumber - 1) (min maxNumber n)

/-- The number at the start of a text, the base being told by its first digits, and the rest. -/
def scanNumber (text : Bytes) : Int × Bytes :=
  let (base, digits) :=
    match text with
    | 48 :: x :: d :: rest =>
      if (x = byte 'x' ∨ x = byte 'X') ∧ (digit? 16 d).isSome then (16, d :: rest)
      else (8, text)
    | 48 :: _ => (8, text)
    | _ => (10, text)
  let (n, rest) := takeNumber base digits.length digits
  (saturate n, rest)

/-- The number that a text writes, with a sign and blanks around it. No text is zero. -/
def integer? (text : Bytes) : Option Int :=
  let isBlank := fun (b : UInt8) => b == byte ' ' || (9 ≤ b && b ≤ 13)
  let text := text.dropWhile isBlank
  let negative := text.head? = some (byte '-')
  let digits := if negative ∨ text.head? = some (byte '+') then text.drop 1 else text
  if text.isEmpty then some 0
  else if digits.head?.any isDigit then
    let (n, rest) := scanNumber digits
    if (rest.dropWhile isBlank).isEmpty then some (saturate (if negative then -n else n)) else none
  else none

inductive BinaryOperator where
  | mul | div | mod | add | sub | shiftLeft | shiftRight | less | lessEqual | greater | greaterEqual
  | equal | notEqual | bitAnd | bitXor | bitOr
  deriving DecidableEq, Repr

namespace BinaryOperator

/-- Operators bind the tighter the smaller this is. -/
def level : BinaryOperator → Nat
  | mul | div | mod => 0
  | add | sub => 1
  | shiftLeft | shiftRight => 2
  | less | lessEqual | greater | greaterEqual => 3
  | equal | notEqual => 4
  | bitAnd => 5
  | bitXor => 6
  | bitOr => 7

/-- The levels of all operators are smaller. -/
def levels : Nat := 8

def spellings : List (String × BinaryOperator) :=
  [("*", mul), ("/", div), ("%", mod), ("+", add), ("-", sub), ("<<", shiftLeft),
    (">>", shiftRight), ("<", less), ("<=", lessEqual), (">", greater), (">=", greaterEqual),
    ("==", equal), ("!=", notEqual), ("&", bitAnd), ("^", bitXor), ("|", bitOr)]

/-- The bits of a number. -/
def bits (n : Int) : BitVec 64 := BitVec.ofInt 64 n

def ofBool (b : Bool) : Int := if b then 1 else 0

/-- The value of an operator, unless it divides by zero. -/
def value? (operator : BinaryOperator) (a b : Int) : Option Int :=
  match operator with
  | mul => some (wrap (a * b))
  | div => if b = 0 then none else some (wrap (a.tdiv b))
  | mod => if b = 0 then none else some (wrap (a.tmod b))
  | add => some (wrap (a + b))
  | sub => some (wrap (a - b))
  | shiftLeft => some ((bits a).shiftLeft ((bits b).toNat % 64)).toInt
  | shiftRight => some ((bits a).sshiftRight ((bits b).toNat % 64)).toInt
  | less => some (ofBool (a < b))
  | lessEqual => some (ofBool (a ≤ b))
  | greater => some (ofBool (a > b))
  | greaterEqual => some (ofBool (a ≥ b))
  | equal => some (ofBool (a = b))
  | notEqual => some (ofBool (a ≠ b))
  | bitAnd => some ((bits a) &&& (bits b)).toInt
  | bitXor => some ((bits a) ^^^ (bits b)).toInt
  | bitOr => some ((bits a) ||| (bits b)).toInt

end BinaryOperator

/-- An arithmetic expression. -/
inductive Expression where
  | number (value : Int)
  | variable (name : Bytes)
  | negate (e : Expression)
  | isZero (e : Expression)
  | complement (e : Expression)
  | binary (operator : BinaryOperator) (a b : Expression)
  | both (a b : Expression)
  | either (a b : Expression)
  | choose (condition yes no : Expression)
  /-- An assignment of a value, or of what an operator makes of the old value and another. -/
  | assign (name : Bytes) (operator : Option BinaryOperator) (value : Expression)
  /-- A mistake behind an expression. -/
  | wrong (e : Expression) (problem : String)
  deriving DecidableEq, Repr

/-! ## Reading expressions -/

inductive Symbol where
  | number (value : Int)
  | name (name : Bytes)
  | sign (text : Bytes)
  deriving DecidableEq, Repr

/-- Signs of more than one byte, longer ones first. -/
def longSigns : List Bytes :=
  ["<<=", ">>=", "<<", ">>", "<=", ">=", "==", "!=", "&&", "||", "*=", "/=", "%=", "+=", "-=", "&=",
    "^=", "|="].map utf8

/-- The symbols of an expression. -/
def symbols : (steps : Nat) → Bytes → List Symbol
  | 0, _ | _, [] => []
  | steps + 1, b :: rest =>
    if b = byte ' ' ∨ b = byte '\t' ∨ b = newline then symbols steps rest
    else if isDigit b then
      let (n, rest) := scanNumber (b :: rest)
      .number n :: symbols steps rest
    else if isNameStart b then
      let name := (b :: rest).takeWhile isNameByte
      .name name :: symbols steps ((b :: rest).drop name.length)
    else
      match longSigns.find? (·.isPrefixOf (b :: rest)) with
      | some sign => .sign sign :: symbols steps ((b :: rest).drop sign.length)
      | none => .sign [b] :: symbols steps rest

namespace Expression

/-- Reads some of the symbols that are left. -/
abbrev Parse := StateM (List Symbol)

/-- The next symbol, if it is a sign. -/
def sign? : Parse (Option Bytes) := do
  match ← get with
  | .sign text :: _ => pure (some text)
  | _ => pure none

def advance : Parse Unit := modify (·.drop 1)

/-- Goes on behind a sign, if it comes next, and says whether it did. -/
def accept (text : String) : Parse Bool := do
  if (← sign?) = some (utf8 text) then
    advance
    pure true
  else pure false

/-- A mistake, behind which nothing is read. -/
def fail (e : Expression) (problem : String) : Parse Expression := do
  set ([] : List Symbol)
  pure (.wrong e problem)

/-- The operator of a sign, with an equality sign behind it for an assignment. -/
def operator? (sign : Bytes) : Option BinaryOperator :=
  BinaryOperator.spellings.findSome? fun (text, operator) =>
    if utf8 text = sign then some operator else none

/-- The assignment at the start of symbols. -/
def assignment? : List Symbol → Option (Bytes × Option BinaryOperator × List Symbol)
  | .name name :: .sign text :: rest =>
    if text = [byte '='] then some (name, none, rest)
    else if text.getLast? = some (byte '=') then
      match operator? text.dropLast with
      | none | some .less | some .greater | some .equal | some .notEqual => none
      | some operator => some (name, some operator, rest)
    else none
  | _ => none

mutual

/-- An expression. -/
def expression : (steps : Nat) → Parse Expression
  | 0 => fail (.number 0) "too deep"
  | steps + 1 => do
    match assignment? (← get) with
    | some (name, operator, rest) =>
      set rest
      pure (.assign name operator (← expression steps))
    | none => choice steps
termination_by structural steps => steps

/-- An expression that is no assignment. -/
def choice : (steps : Nat) → Parse Expression
  | 0 => fail (.number 0) "too deep"
  | steps + 1 => do
    let condition ← disjunction steps
    if ← accept "?" then
      let yes ← expression steps
      if ← accept ":" then pure (.choose condition yes (← choice steps))
      else pure (.choose condition (← fail yes "expecting ':'") (.number 0))
    else pure condition
termination_by structural steps => steps

def disjunction : (steps : Nat) → Parse Expression
  | 0 => fail (.number 0) "too deep"
  | steps + 1 => do
    let a ← conjunction steps
    if ← accept "||" then pure (.either a (← disjunction steps)) else pure a
termination_by structural steps => steps

def conjunction : (steps : Nat) → Parse Expression
  | 0 => fail (.number 0) "too deep"
  | steps + 1 => do
    let a ← operations BinaryOperator.levels steps
    if ← accept "&&" then pure (.both a (← conjunction steps)) else pure a
termination_by structural steps => steps

/-- Operators of lower levels than the given one, and their operands. -/
def operations (level : Nat) : (steps : Nat) → Parse Expression
  | 0 => fail (.number 0) "too deep"
  | steps + 1 => do moreOperations level (← operand steps) steps
termination_by structural steps => steps

def moreOperations (level : Nat) (a : Expression) : (steps : Nat) → Parse Expression
  | 0 => fail a "too deep"
  | steps + 1 => do
    match (← sign?).bind operator? with
    | none => pure a
    | some operator =>
      if operator.level < level then
        advance
        let b ← operations operator.level steps
        moreOperations level (.binary operator a b) steps
      else pure a
termination_by structural steps => steps

def operand : (steps : Nat) → Parse Expression
  | 0 => fail (.number 0) "too deep"
  | steps + 1 => do
    match ← get with
    | .number n :: rest =>
      set rest
      pure (.number n)
    | .name name :: rest =>
      set rest
      pure (.variable name)
    | _ =>
      if ← accept "(" then
        let e ← expression steps
        if ← accept ")" then pure e else fail e "expecting ')'"
      else if ← accept "+" then operand steps
      else if ← accept "-" then pure (.negate (← operand steps))
      else if ← accept "!" then pure (.isZero (← operand steps))
      else if ← accept "~" then pure (.complement (← operand steps))
      else fail (.number 0) "expecting primary"
termination_by structural steps => steps

end

/-- Reads an expression. -/
def ofText (text : Bytes) : Expression :=
  let symbols := symbols text.length text
  let (e, rest) := (expression (16 * symbols.length + 16)).run symbols
  if rest.isEmpty then e else .wrong e "expecting EOF"

/-- How the value of an expression is found: how variables are read and set, and what a mistake
leads to. -/
structure Evaluator (m : Type → Type) where
  get : Bytes → m Int
  assign : Bytes → Int → m Unit
  fail : String → m Int

/-- The value of an expression. A part that does not matter takes no effect, but mistakes in it
count. -/
def evaluate {m : Type → Type} [Monad m] (v : Evaluator m) (live : Bool) : Expression → m Int
  | .number n => pure n
  | .variable name => if live then v.get name else pure 0
  | .negate e => do pure (wrap (-(← e.evaluate v live)))
  | .isZero e => do pure (BinaryOperator.ofBool ((← e.evaluate v live) = 0))
  | .complement e => do pure (-(← e.evaluate v live) - 1)
  | .binary operator a b => do
    let a ← a.evaluate v live
    let b ← b.evaluate v live
    if live then (operator.value? a b).elim (v.fail "division by zero") pure else pure 0
  | .both a b => do
    let a ← a.evaluate v live
    let b ← b.evaluate v (live && a ≠ 0)
    pure (BinaryOperator.ofBool (a ≠ 0 && b ≠ 0))
  | .either a b => do
    let a ← a.evaluate v live
    let b ← b.evaluate v (live && a = 0)
    pure (BinaryOperator.ofBool (a ≠ 0 || b ≠ 0))
  | .choose condition yes no => do
    let condition ← condition.evaluate v live
    let yes ← yes.evaluate v (live && condition ≠ 0)
    let no ← no.evaluate v (live && condition = 0)
    pure (if condition ≠ 0 then yes else no)
  | .assign name operator value => do
    let value ← value.evaluate v live
    if !live then pure value
    else
      let value ←
        match operator with
        | none => pure value
        | some operator => do
          (operator.value? (← v.get name) value).elim (v.fail "division by zero") pure
      v.assign name value
      pure value
  | .wrong e problem => do
    let _ ← e.evaluate v live
    v.fail problem

end Expression

end MiniShell.Host.Script
