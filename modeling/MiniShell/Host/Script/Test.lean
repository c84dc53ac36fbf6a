import MiniShell.Host.Script.Interpreter

/-!
# Tests

The conditions of the command `test`: properties of files, comparisons of texts and numbers, and
their combinations.
-/

namespace MiniShell.Host.Script

namespace Test

/-- What an argument of a test is. -/
inductive Role where
  | nothing
  | operand
  | unary
  | binary
  | negation
  | conjunction
  | disjunction
  | opening
  | closing
  deriving DecidableEq, Repr

def unaryOperators : List Bytes :=
  ["-r", "-w", "-x", "-e", "-f", "-d", "-c", "-b", "-p", "-u", "-g", "-k", "-s", "-t", "-z", "-n",
    "-h", "-L", "-O", "-G", "-S"].map utf8

def binaryOperators : List Bytes :=
  ["=", "!=", "<", ">", "-eq", "-ne", "-ge", "-gt", "-le", "-lt", "-nt", "-ot", "-ef"].map utf8

/-- What an argument is when nothing around it is looked at. -/
def roleOf (argument : Bytes) : Role :=
  if unaryOperators.contains argument then .unary
  else if binaryOperators.contains argument then .binary
  else
    ([(utf8 "!", Role.negation), (utf8 "-a", .conjunction), (utf8 "-o", .disjunction),
      (utf8 "(", .opening), (utf8 ")", .closing)].lookup argument).getD .operand

/-- What the first of the arguments is. -/
def role : List Bytes → Role
  | [] => .nothing
  | argument :: rest =>
    let isOperand : Bool :=
      match roleOf argument, rest with
      | .unary, [] => true
      | .unary, [_] => false
      | .unary, next :: _ :: _ => roleOf next == .binary
      | .opening, rest => rest.isEmpty
      | _, _ => false
    if isOperand then .operand else roleOf argument

/-- The answers of the machine to a test. -/
structure Facts where
  file : (property : Bytes) → Path → Bool
  sameFile : Path → Path → Bool

/-- A test reads arguments. `rest` starts with the argument that it is at. -/
abbrev Reading := StateT (List Bytes) (Except Bytes)

/-- The number that an argument writes. -/
def number (text : Bytes) : Reading Int := do
  let digits := text.dropWhile fun b => b == byte ' ' || (9 ≤ b && b ≤ 13)
  let negative := digits.head? = some (byte '-')
  let digits :=
    if negative ∨ digits.head? = some (byte '+') then digits.drop 1 else digits
  let digits := (digits.reverse.dropWhile fun b => b == byte ' ' || (9 ≤ b && b ≤ 13)).reverse
  match decimal? digits with
  | some n => pure (if negative then -n else n)
  | none => throw (utf8 "Illegal number: " ++ text)

/-- What is wrong with an argument. One that cannot be seen is not named. -/
def aboutArgument (argument : Bytes) (message : String) : Bytes :=
  if argument.isEmpty then utf8 message else argument ++ utf8 ": " ++ utf8 message

/-- Ends a test because of an argument. -/
def wrong {α : Type} (argument : Bytes) (message : String) : Reading α :=
  throw (aboutArgument argument message)

/-- The value of a comparison. -/
def compare (facts : Facts) (a operator b : Bytes) : Reading Bool := do
  if operator = utf8 "=" then pure (a = b)
  else if operator = utf8 "!=" then pure (a ≠ b)
  else if operator = utf8 "<" then pure (a < b)
  else if operator = utf8 ">" then pure (b < a)
  else if operator = utf8 "-ef" then pure (facts.sameFile a b)
  else if operator = utf8 "-nt" ∨ operator = utf8 "-ot" then pure false
  else
    let m ← number a
    let n ← number b
    if operator = utf8 "-eq" then pure (m = n)
    else if operator = utf8 "-ne" then pure (m ≠ n)
    else if operator = utf8 "-ge" then pure (m ≥ n)
    else if operator = utf8 "-gt" then pure (m > n)
    else if operator = utf8 "-le" then pure (m ≤ n)
    else pure (m < n)

mutual

def disjunction (facts : Facts) (role : Role) : (steps : Nat) → Reading Bool
  | 0 => pure false
  | steps + 1 => do
    let first ← conjunction facts role steps
    let rest := (← get).drop 1
    if Test.role rest = .disjunction then
      set (rest.drop 1)
      let second ← disjunction facts (Test.role (rest.drop 1)) steps
      pure (first || second)
    else pure first
termination_by structural steps => steps

def conjunction (facts : Facts) (role : Role) : (steps : Nat) → Reading Bool
  | 0 => pure false
  | steps + 1 => do
    let first ← negation facts role steps
    let rest := (← get).drop 1
    if Test.role rest = .conjunction then
      set (rest.drop 1)
      let second ← conjunction facts (Test.role (rest.drop 1)) steps
      pure (first && second)
    else pure first
termination_by structural steps => steps

def negation (facts : Facts) (role : Role) : (steps : Nat) → Reading Bool
  | 0 => pure false
  | steps + 1 => do
    if role ≠ .negation then primary facts role steps
    else
      let rest := (← get).drop 1
      if !rest.isEmpty then set rest
      pure !(← negation facts (Test.role rest) steps)
termination_by structural steps => steps

def primary (facts : Facts) (role : Role) : (steps : Nat) → Reading Bool
  | 0 => pure false
  | steps + 1 => do
    let arguments ← get
    let here := arguments.head?.getD []
    let rest := arguments.drop 1
    match role with
    | .nothing => pure false
    | .opening =>
      set rest
      if Test.role rest = .closing then pure false
      else
        let result ← disjunction facts (Test.role rest) steps
        let rest := (← get).drop 1
        set rest
        if Test.role rest = .closing then pure result else throw (utf8 "closing paren expected")
    | .unary =>
      set rest
      match rest with
      | [] => wrong here "argument expected"
      | operand :: _ =>
        if here = utf8 "-z" then pure operand.isEmpty
        else if here = utf8 "-n" then pure !operand.isEmpty
        else if here = utf8 "-t" then
          let _ ← number operand
          pure false
        else pure (facts.file here operand)
    | _ =>
      if Test.role rest = .binary then
        let operator := rest.head?.getD []
        set (rest.drop 1)
        match rest.drop 1 with
        | [] => wrong operator "argument expected"
        | operand :: _ => compare facts here operator operand
      else pure !here.isEmpty
termination_by structural steps => steps

end

/-- The value of the arguments of a test, or what is wrong with them. -/
def evaluate (facts : Facts) (arguments : List Bytes) : Except Bytes Bool := do
  let inner : Option (List Bytes) :=
    match arguments.length with
    | 3 | 4 =>
      if arguments.length = 3 ∧ arguments[1]?.map roleOf = some Role.binary then none
      else if arguments.head? = some (utf8 "(") ∧ arguments.getLast? = some (utf8 ")") then
        some (arguments.drop 1).dropLast
      else none
    | _ => none
  let start : Role :=
    match arguments with
    | [_, operator, _] =>
      if roleOf operator = Role.binary then Role.operand else role (inner.getD arguments)
    | _ => role (inner.getD arguments)
  let arguments := inner.getD arguments
  if arguments.isEmpty then pure false
  else
    let (result, rest) ← (disjunction facts start (4 * arguments.length + 8)).run arguments
    match rest with
    | first :: _ :: _ => throw (aboutArgument first "unexpected operator")
    | _ => pure result

/-- What the machine says about files that a process can reach. -/
def factsOf (m : Machine) (p : Process) : Facts where
  file property path :=
    let follows := !(property == utf8 "-h" || property == utf8 "-L")
    let number? :=
      if follows then (m.find p.workingDir path).toOption
      else ((m.place false p.workingDir path).toOption).bind (·.node)
    number?.any fun number =>
      let node? := m.node? number
      let isFile := node? matches some (.file ..) || node? matches some (.program _)
      if property = utf8 "-x" then m.mayExecute number
      else if property = utf8 "-f" then isFile
      else if property = utf8 "-d" then (m.directory? number).isSome
      else if property = utf8 "-c" then
        node? matches some .nullDevice || node? matches some .fullDevice
      else if property = utf8 "-s" then
        match node? with
        | some (.file _ content) => !content.isEmpty
        | some (.program _) | some (.directory _) => true
        | _ => false
      else if property = utf8 "-h" ∨ property = utf8 "-L" then node? matches some (.symlink _)
      else [utf8 "-r", utf8 "-w", utf8 "-e", utf8 "-O", utf8 "-G"].contains property
  sameFile a b :=
    match m.find p.workingDir a, m.find p.workingDir b with
    | .ok x, .ok y => x == y
    | _, _ => false

end Test

end MiniShell.Host.Script
