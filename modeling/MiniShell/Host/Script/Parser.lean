import MiniShell.Host.Script.Reader

/-!
# Reading commands

A recursive descent that reads one command after the other, up to the end of a line. Every step of
it takes one unit of a bound, and the descent never goes deeper than a few steps for each byte.
-/

namespace MiniShell.Host.Script

/-- Where the pieces of a word are read, which decides where they end and what quotes mean. -/
inductive Context where
  /-- Outside of quotes. -/
  | plain
  /-- Between the braces of a parameter; `quoted` if those are between double quotes. -/
  | braces (quoted : Bool)
  /-- Between double quotes that are between the braces of a quoted parameter. -/
  | innerQuotes
  | doubleQuotes
  /-- In a text in the script. -/
  | document
  /-- In an arithmetic expression, between so many parentheses of its own. -/
  | arithmetic (depth : Nat)
  deriving DecidableEq, Repr

namespace Context

/-- Whether text in this place is quoted. -/
def quoted : Context → Bool
  | .plain | .braces false => false
  | _ => true

/-- Whether a backslash in front of the byte `b` takes its meaning away. -/
def escapes (c : Context) (b : UInt8) : Bool :=
  !c.quoted || (utf8 "\\\x60$").contains b ||
    (b == byte '"' && c != .document) ||
    (b == byte '\x7d' && (c == .braces true || c == .innerQuotes))

/-- What is missing when a script ends in this place. -/
def complaint : Context → Bytes
  | .braces false => utf8 "Missing '\x7d'"
  | .arithmetic _ => utf8 "Missing '))'"
  | _ => utf8 "Unterminated quoted string"

end Context

namespace Parse

/-- Runs a parser on a text of its own, the first line of which has the given number. -/
def within {α : Type} (text : Bytes) (line : Nat) (parse : Parse α) : Parse α := do
  let outer ← get
  set { outer with rest := text, atEnd := true, line, pushed := none, pending := [] }
  let result ← parse
  modify fun r =>
    { outer with documents := r.documents, nextDocument := r.nextDocument, last := r.last }
  pure result

/-- The text of a command between backquotes, in which some backslashes go away. -/
def backquoted (quoted : Bool) : (count : Nat) → Parse Bytes
  | 0 => pure []
  | count + 1 => do
    match ← peekJoined? with
    | none => fail (utf8 "EOF in backquote substitution")
    | some b =>
      advance
      if b = 0x60 then pure []
      else if b = byte '\\' then
        match ← peek? with
        | none => pure (b :: (← backquoted quoted count))
        | some c =>
          advance
          let text ← backquoted quoted count
          if c = byte '\\' ∨ c = 0x60 ∨ c = byte '$' ∨ (quoted ∧ c = byte '"') then pure (c :: text)
          else pure (b :: c :: text)
      else pure (b :: (← backquoted quoted count))

/-- The name of the parameter behind a dollar sign, if there is one. -/
def bareParameter? : Parse (Option Parameter) := do
  match ← peekJoined? with
  | none => pure none
  | some b =>
    if isNameStart b then pure (some (.variable (← takeJoined isNameByte (← bound))))
    else
      match special? b with
      | none => pure none
      | some parameter =>
        advance
        pure (some parameter)

/-- The parameter at the start of what stands between braces, with whether its length is asked
for. -/
def bracedParameter? : Parse (Option (Parameter × Bool)) := do
  let named : Parse (Option Parameter) := do
    match ← peekJoined? with
    | none => pure none
    | some b =>
      if isNameStart b then pure (some (.variable (← takeJoined isNameByte (← bound))))
      else if isDigit b then
        pure ((decimal? (← takeJoined isDigit (← bound))).map .position)
      else pure none
  match ← named with
  | some parameter => pure (some (parameter, false))
  | none =>
    match ← peekJoined? with
    | none => pure none
    | some b =>
      match special? b with
      | none => pure none
      | some parameter =>
        advance
        if b ≠ byte '#' then pure (some (parameter, false))
        else
          match ← named with
          | some parameter => pure (some (parameter, true))
          | none =>
            let r ← get
            match r.rest with
            | b :: 125 :: _ =>
              match special? b with
              | some measured =>
                advance
                pure (some (measured, true))
              | none => pure (some (parameter, false))
            | [b] =>
              if (special? b).isSome ∧ ¬ r.atEnd then throw .incomplete
              else pure (some (parameter, false))
            | _ => pure (some (parameter, false))

/-- The texts that are to come behind the line are read. -/
def finishDocuments (pieces : Parse Word) : Parse Unit := do
  let pending := (← get).pending
  modify fun r => { r with pending := [] }
  for p in pending do
    let line := (← get).line
    let text ← documentLines p (← bound) false
    let body ←
      if p.quoted then pure (text.map (Piece.byte true)) else within text line pieces
    modify fun r => { r with documents := (p.number, body) :: r.documents }

mutual

/-- Reads pieces up to the end of the context, which is read too unless it is the plain one. -/
def pieces (c : Context) : (steps : Nat) → Parse Word
  | 0 => fail (utf8 "Too deep")
  | steps + 1 => do
    match ← peek? with
    | none => if c = .plain ∨ c = .document then pure [] else fail c.complaint
    | some b =>
      if c = .plain ∧ endsWord b then pure []
      else
        advance
        let here := fun (word : Word) (c : Context) => do pure (word ++ (← pieces c steps))
        if b = byte '\\' then
          match ← peek? with
          | none => here [.byte true b] c
          | some e =>
            advance
            if e = newline then here [] c
            else here ((if c.escapes e then [] else [.byte true b]) ++ [.byte true e]) c
        else if b = byte '\'' ∧ ¬ c.quoted then
          let text ← takeUntil '\'' (utf8 "Unterminated quoted string")
          here (if text.isEmpty then [.emptyQuotes] else text.map (.byte true)) c
        else if b = byte '"' then
          match c with
          | .plain | .braces false =>
            let text ← pieces .doubleQuotes steps
            here (if text.isEmpty then [.emptyQuotes] else text) c
          | .doubleQuotes => pure []
          | .braces true => here [] .innerQuotes
          | .innerQuotes => here [] (.braces true)
          | .document | .arithmetic _ => here [.byte true b] c
        else if b = byte '$' then here [← dollar c.quoted steps] c
        else if b = 0x60 then
          let text ← backquoted c.quoted (← bound)
          here [.output c.quoted (← within text 1 (list true steps))] c
        else
          match c with
          | .braces _ => if b = byte '\x7d' then pure [] else here [.byte c.quoted b] c
          | .arithmetic depth =>
            if b = byte '(' then here [.byte true b] (.arithmetic (depth + 1))
            else if b = byte ')' then
              match depth with
              | depth + 1 => here [.byte true b] (.arithmetic depth)
              | 0 => if ← accept ')' then pure [] else here [.byte true b] c
            else here [.byte true b] c
          | _ => here [.byte c.quoted b] c
termination_by structural steps => steps

/-- What stands behind a dollar sign. -/
def dollar (quoted : Bool) : (steps : Nat) → Parse Piece
  | 0 => fail (utf8 "Too deep")
  | steps + 1 => do
    if ← accept '(' then
      if ← accept '(' then pure (.number quoted (← pieces (.arithmetic 0) steps))
      else
        let pending := (← get).pending
        modify fun r => { r with pending := [] }
        let command ← list true steps
        if !(← readToken false false steps).isOperator ")" then expected (inQuotes (utf8 ")"))
        modify fun r => { r with pending }
        pure (.output quoted command)
    else if ← accept '\x7b' then
      match ← bracedParameter? with
      | none =>
        let _ ← pieces (.braces quoted) steps
        pure (.parameter quoted (.variable []) .invalid)
      | some (parameter, true) =>
        if ← accept '\x7d' then pure (.parameter quoted parameter .length)
        else
          let _ ← pieces (.braces quoted) steps
          pure (.parameter quoted parameter .invalid)
      | some (parameter, false) => pure (.parameter quoted parameter (← modifier quoted steps))
    else
      match ← bareParameter? with
      | some parameter => pure (.parameter quoted parameter .none)
      | none => pure (.byte quoted (byte '$'))
termination_by structural steps => steps

/-- What stands behind the name of a parameter between braces. -/
def modifier (quoted : Bool) : (steps : Nat) → Parse Modifier
  | 0 => fail (utf8 "Too deep")
  | steps + 1 => do
    if ← accept '\x7d' then pure .none
    else if ← accept '#' then
      let longest ← accept '#'
      pure (.trim .front longest (← pieces (.braces false) steps))
    else if ← accept '%' then
      let longest ← accept '%'
      pure (.trim .back longest (← pieces (.braces false) steps))
    else
      let orEmpty ← accept ':'
      if ← accept '-' then pure (.orElse orEmpty (← pieces (.braces quoted) steps))
      else if ← accept '=' then pure (.orAssign orEmpty (← pieces (.braces quoted) steps))
      else if ← accept '?' then pure (.orFail orEmpty (← pieces (.braces quoted) steps))
      else if ← accept '+' then pure (.andThen orEmpty (← pieces (.braces quoted) steps))
      else
        let _ ← pieces (.braces quoted) steps
        pure .invalid
termination_by structural steps => steps

/-- Reads the next token behind blanks. A digit right in front of an angle is the descriptor that is
redirected. -/
def scan : (steps : Nat) → Parse Token
  | 0 => fail (utf8 "Too deep")
  | steps + 1 => do
    skipBlanks (← bound)
    match ← peekJoined? with
    | none => pure .endOfFile
    | some b =>
      if b = newline then
        advance
        pure .newline
      else if b = byte '<' ∨ b = byte '>' then
        advance
        redirection b none
      else if endsWord b then
        advance
        operator b
      else
        let word ← pieces .plain steps
        match word, ← peek? with
        | [.byte false digit], some b =>
          if isDigit digit ∧ (b = byte '<' ∨ b = byte '>') then
            advance
            redirection b (some (digit.toNat - 48))
          else pure (.word word)
        | _, _ => pure (.word word)
termination_by structural steps => steps

/-- Reads the next token. Newlines in front of it are skipped if `newlines`, and a word may be a
keyword if `keywords`. -/
def readToken (newlines mayBeKeyword : Bool) : (steps : Nat) → Parse Token
  | 0 => fail (utf8 "Too deep")
  | steps + 1 => do
    let token ←
      match (← get).pushed with
      | some token =>
        modify fun r => { r with pushed := none }
        pure token
      | none => scan steps
    match newlines, token with
    | true, .newline =>
      finishDocuments (pieces .document steps)
      readToken true mayBeKeyword steps
    | _, _ =>
      let token :=
        match token with
        | .word word =>
          match if mayBeKeyword then (plainText? word).filter keywords.contains else none with
          | some text => .keyword text
          | none => token
        | _ => token
      modify fun r => { r with last := token }
      pure token
termination_by structural steps => steps

/-- A list of commands, up to a token that it cannot contain. It may be empty if `mayBeEmpty`. -/
def list (mayBeEmpty : Bool) : (steps : Nat) → Parse Command
  | 0 => fail (utf8 "Too deep")
  | steps + 1 => do
    let token ← readToken true true steps
    pushBack
    if mayBeEmpty ∧ token.endsList then pure .skip
    else if token matches .endOfFile then pure .skip
    else
      let first ← conditional steps
      match ← readToken false false steps with
      | .newline =>
        pushBack
        moreList first steps
      | .operator text =>
        if text = utf8 "&" then moreList (.background first) steps
        else if text = utf8 ";" then moreList first steps
        else
          pushBack
          pure first
      | _ =>
        pushBack
        pure first
termination_by structural steps => steps

/-- The commands of a list behind its first. -/
def moreList (first : Command) : (steps : Nat) → Parse Command
  | 0 => fail (utf8 "Too deep")
  | steps + 1 => do
    match ← list true steps with
    | .skip => pure first
    | rest => pure (.sequence first rest)
termination_by structural steps => steps

/-- A pipeline and those behind it that depend on how it ends. -/
def conditional : (steps : Nat) → Parse Command
  | 0 => fail (utf8 "Too deep")
  | steps + 1 => do moreConditional (← pipeline false steps) steps
termination_by structural steps => steps

def moreConditional (first : Command) : (steps : Nat) → Parse Command
  | 0 => fail (utf8 "Too deep")
  | steps + 1 => do
    let token ← readToken false false steps
    if token.isOperator "&&" then
      moreConditional (.andThen first (← pipeline true steps)) steps
    else if token.isOperator "||" then
      moreConditional (.orElse first (← pipeline true steps)) steps
    else
      pushBack
      pure first
termination_by structural steps => steps

/-- Commands with pipes between them. -/
def pipeline (behindOperator : Bool) : (steps : Nat) → Parse Command
  | 0 => fail (utf8 "Too deep")
  | steps + 1 => do
    let negated := (← readToken behindOperator behindOperator steps).isKeyword "!"
    if ¬ negated then pushBack
    let first ← command (false, negated) steps
    let rest ← morePipeline steps
    let joined := if rest.isEmpty then first else .pipeline (first :: rest)
    pure (if negated then .negation joined else joined)
termination_by structural steps => steps

def morePipeline : (steps : Nat) → Parse (List Command)
  | 0 => fail (utf8 "Too deep")
  | steps + 1 => do
    if (← readToken false false steps).isOperator "|" then
      let next ← command (true, true) steps
      pure (next :: (← morePipeline steps))
    else
      pushBack
      pure []
termination_by structural steps => steps

/-- A command. The flags say whether newlines in front of it are skipped and whether its first word
may be a keyword. The line of a simple command is the one on which its first token ends.
Redirections behind braces around a single subshell replace those of the subshell. -/
def command (flags : Bool × Bool) : (steps : Nat) → Parse Command
  | 0 => fail (utf8 "Too deep")
  | steps + 1 => do
    let line := (← get).line
    match ← readToken flags.1 flags.2 steps with
    | .word _ | .redirect .. =>
      pushBack
      simple (← get).line [] [] [] steps
    | .operator text =>
      if text ≠ utf8 "(" then unexpected
      else
        let body ← list false steps
        close (.operator (utf8 ")")) steps
        let redirects ← redirects steps
        pure (.subshell line body redirects)
    | .keyword text =>
      let finish := fun (c : Command) => do
        match ← redirects steps, c with
        | [], c => pure c
        | redirects, .subshell line body _ => pure (.subshell line body redirects)
        | redirects, c => pure (.redirected line c redirects)
      if text = utf8 "if" then finish (← branch steps)
      else if text = utf8 "while" ∨ text = utf8 "until" then
        let condition ← list false steps
        close (.keyword (utf8 "do")) steps
        let body ← list false steps
        close (.keyword (utf8 "done")) steps
        finish (.loop (text = utf8 "until") condition body)
      else if text = utf8 "for" then finish (← forEach line steps)
      else if text = utf8 "case" then finish (← select line steps)
      else if text = utf8 "\x7b" then
        let body ← list false steps
        close (.keyword (utf8 "\x7d")) steps
        finish body
      else unexpected
    | _ => unexpected
termination_by structural steps => steps

/-- Reads the token that has to come next. -/
def close (token : Token) : (steps : Nat) → Parse Unit
  | 0 => fail (utf8 "Too deep")
  | steps + 1 => do
    let next ← readToken false false steps
    if next.name ≠ token.name ∨ next matches .word _ then expected token.name
termination_by structural steps => steps

/-- The redirections behind a command. -/
def redirects : (steps : Nat) → Parse (List Redirect)
  | 0 => fail (utf8 "Too deep")
  | steps + 1 => do
    match ← readToken false true steps with
    | .redirect descriptor operator =>
      let first ← redirectTarget descriptor operator steps
      pure (first :: (← redirects steps))
    | _ =>
      pushBack
      pure []
termination_by structural steps => steps

/-- The target of a redirection. -/
def redirectTarget (descriptor : Nat) (operator : RedirectOperator) : (steps : Nat) → Parse Redirect
  | 0 => fail (utf8 "Too deep")
  | steps + 1 => do
    match ← readToken false false steps, operator with
    | .word word, .document stripTabs =>
      let number := (← get).nextDocument
      let marker := word.filterMap fun
        | .byte _ b => some b
        | _ => none
      modify fun r => { r with
        nextDocument := number + 1
        pending := r.pending ++ [⟨number, marker, (plainText? word).isNone, stripTabs⟩] }
      pure (.mk descriptor .input (.document number))
    | .word word, .file kind => pure (.mk descriptor kind (.word word))
    | _, _ => unexpected
termination_by structural steps => steps

/-- A command with its arguments, or the definition of a function. -/
def simple (line : Nat) (assignments : List (Bytes × Word)) (words : List Word)
    (redirects : List Redirect) : (steps : Nat) → Parse Command
  | 0 => fail (utf8 "Too deep")
  | steps + 1 => do
    let finish : Parse Command := do
      pushBack
      pure (.simple line assignments words redirects)
    match ← readToken false false steps with
    | .word word =>
      match if words.isEmpty then assignment? word else none with
      | some assignment => simple line (assignments ++ [assignment]) words redirects steps
      | none => simple line assignments (words ++ [word]) redirects steps
    | .redirect descriptor operator =>
      let redirect ← redirectTarget descriptor operator steps
      simple line assignments words (redirects ++ [redirect]) steps
    | .operator text =>
      match assignments, words, redirects with
      | [], [name], [] =>
        if text ≠ utf8 "(" then finish
        else
          close (.operator (utf8 ")")) steps
          match (plainText? name).filter isName with
          | none => fail (utf8 "Bad function name")
          | some name => pure (.define name (← command (true, true) steps))
      | _, _, _ => finish
    | _ => finish
termination_by structural steps => steps

/-- A choice by conditions, behind its first keyword. -/
def branch : (steps : Nat) → Parse Command
  | 0 => fail (utf8 "Too deep")
  | steps + 1 => do
    let condition ← list false steps
    close (.keyword (utf8 "then")) steps
    let yes ← list false steps
    let token ← readToken false false steps
    if token.isKeyword "elif" then pure (.branch condition yes (← branch steps))
    else if token.isKeyword "else" then
      let no ← list false steps
      close (.keyword (utf8 "fi")) steps
      pure (.branch condition yes no)
    else
      pushBack
      close (.keyword (utf8 "fi")) steps
      pure (.branch condition yes .skip)
termination_by structural steps => steps

/-- A loop over words, behind its keyword. -/
def forEach (line : Nat) : (steps : Nat) → Parse Command
  | 0 => fail (utf8 "Too deep")
  | steps + 1 => do
    let name ←
      match ← readToken false false steps with
      | .word word =>
        match (plainText? word).filter isName with
        | some name => pure name
        | none => fail (utf8 "Bad for loop variable")
      | _ => fail (utf8 "Bad for loop variable")
    let token ← readToken true true steps
    let values ←
      if token.isKeyword "in" then
        let values ← wordList steps
        let last := (← get).last
        if last matches .newline ∨ last.isOperator ";" then pure values else unexpected
      else
        if ¬ token.isOperator ";" then pushBack
        pure [[.parameter true .each .none]]
    if !(← readToken true true steps).isKeyword "do" then expected (inQuotes (utf8 "do"))
    let body ← list false steps
    close (.keyword (utf8 "done")) steps
    pure (.forEach line name values body)
termination_by structural steps => steps

/-- Words up to another token, which is read too. -/
def wordList : (steps : Nat) → Parse (List Word)
  | 0 => fail (utf8 "Too deep")
  | steps + 1 => do
    match ← readToken false false steps with
    | .word word => pure (word :: (← wordList steps))
    | _ => pure []
termination_by structural steps => steps

/-- A choice by patterns, behind its keyword. -/
def select (line : Nat) : (steps : Nat) → Parse Command
  | 0 => fail (utf8 "Too deep")
  | steps + 1 => do
    match ← readToken false false steps with
    | .word subject =>
      if !(← readToken true true steps).isKeyword "in" then expected (inQuotes (utf8 "in"))
      pure (.select line subject (← selectCases steps))
    | _ => expected (utf8 "word")
termination_by structural steps => steps

/-- The cases of a choice, up to its last keyword. -/
def selectCases : (steps : Nat) → Parse (List (List Word × Command))
  | 0 => fail (utf8 "Too deep")
  | steps + 1 => do
    let token ← readToken true true steps
    if token.isKeyword "esac" then pure []
    else
      if token.isOperator "(" then
        let _ ← readToken false false steps
      let patterns ← selectPatterns steps
      let body ← list true steps
      let token ← readToken true true steps
      if token.isKeyword "esac" then pure [(patterns, body)]
      else if token.isOperator ";;" then pure ((patterns, body) :: (← selectCases steps))
      else expected (inQuotes (utf8 ";;"))
termination_by structural steps => steps

/-- The patterns of a case, the first of which has been read, up to the parenthesis behind them. -/
def selectPatterns : (steps : Nat) → Parse (List Word)
  | 0 => fail (utf8 "Too deep")
  | steps + 1 => do
    let pattern : Word :=
      match (← get).last with
      | .word word => word
      | .keyword text => text.map (.byte false)
      | _ => []
    let token ← readToken false false steps
    if token.isOperator "|" then
      let _ ← readToken false false steps
      pure (pattern :: (← selectPatterns steps))
    else if token.isOperator ")" then pure [pattern]
    else expected (inQuotes (utf8 ")"))
termination_by structural steps => steps

end

/-- Reads commands up to the end of a line. Answers with none at the end of the script. -/
def line : (steps : Nat) → Parse (Option Command)
  | 0 => fail (utf8 "Too deep")
  | steps + 1 => do
    modify fun r => { r with pushed := none, pending := [] }
    match ← readToken false true steps with
    | .newline => pure (some .skip)
    | .endOfFile => pure none
    | _ =>
      pushBack
      pure (some (← rest steps))
where
  /-- The commands up to the end of the line. -/
  rest : (steps : Nat) → Parse Command
  | 0 => fail (utf8 "Too deep")
  | steps + 1 => do
    let first ← conditional steps
    let token ← readToken false false steps
    let first := if token.isOperator "&" then .background first else first
    match token with
    | .newline =>
      finishDocuments (pieces .document steps)
      pure first
    | .endOfFile =>
      finishDocuments (pieces .document steps)
      pushBack
      pure first
    | .operator text =>
      if text ≠ utf8 "&" ∧ text ≠ utf8 ";" then unexpected
      else
        match ← readToken false true steps with
        | .newline =>
          finishDocuments (pieces .document steps)
          pure first
        | .endOfFile =>
          finishDocuments (pieces .document steps)
          pushBack
          pure first
        | _ =>
          pushBack
          pure (.sequence first (← rest steps))
    | _ => unexpected

end Parse

end MiniShell.Host.Script
