import MiniShell.Host.Escape

/-!
# Options among arguments

Utilities take options of one letter behind a hyphen, several of which may share it, and options
with a name behind two hyphens, which may be cut short. Other arguments are operands, and so is
everything behind `--`.

Options count from the first one on. What stands behind a wrong one is not looked at.
-/

namespace MiniShell.Host

/-- A name for an option that also goes by a letter. -/
structure OptionName where
  name : Bytes
  letter : UInt8
  /-- Whether there may be an argument, which then stands behind an equals sign. -/
  mayHaveArgument : Bool
  deriving DecidableEq, Repr

/-- The options that a utility knows. Every one goes by its letter. -/
structure OptionTable where
  letters : Bytes
  /-- The letters of options with an argument. -/
  withArgument : Bytes
  names : List OptionName

/-- A name for an option that cannot have an argument, or must have one. -/
def named (name : String) (letter : Char) : OptionName := ⟨utf8 name, byte letter, false⟩

/-- A name for an option that may have an argument. -/
def namedOpen (name : String) (letter : Char) : OptionName := ⟨utf8 name, byte letter, true⟩

/-- The letter of the request for help, which cannot be typed. -/
def helpLetter : Char := '\x00'

/-- The letter of the question for the version, which is no letter of any other option. -/
def versionLetter : Char := '\x01'

/-- The options with the given letters and names. Every utility can be asked what it is. -/
def OptionTable.ofNames (letters withArgument : String) (names : List OptionName) : OptionTable :=
  ⟨utf8 letters, utf8 withArgument,
    names ++ [named "help" helpLetter, named "version" versionLetter]⟩

/-- An option as it was given. -/
structure GivenOption where
  letter : UInt8
  argument : Option Bytes
  /-- Whether nothing of its name was left out. -/
  inFull : Bool
  deriving DecidableEq, Repr

/-- Options and operands. A `fault` is what is wrong behind the last of the options. -/
structure Arguments where
  options : List GivenOption
  operands : List Bytes
  fault : Option Bytes
  deriving DecidableEq, Repr

namespace Arguments

/-- Whether an option is among the arguments. -/
def has (a : Arguments) (letter : Char) : Bool := a.options.any (·.letter == byte letter)

/-- The argument of the last option with a letter, if there is one. -/
def argumentOf? (a : Arguments) (letter : Char) : Option Bytes :=
  (a.options.reverse.find? (·.letter == byte letter)).bind (·.argument)

/-- Arguments of which the first is wrong. -/
def wrong (message : Bytes) : Arguments := ⟨[], [], some message⟩

def addOptions (options : List GivenOption) (a : Arguments) : Arguments :=
  { a with options := options ++ a.options }

def addOperand (operand : Bytes) (a : Arguments) : Arguments :=
  { a with operands := operand :: a.operands }

end Arguments

/-- What comes behind the options of one letter each that share a hyphen. -/
inductive LettersEnd where
  | finished
  /-- The last option has its argument elsewhere. -/
  | wantsArgument (letter : UInt8)
  | invalid (letter : UInt8)

/-- Reads letters behind one hyphen. -/
def readLetters (table : OptionTable) : Bytes → List GivenOption × LettersEnd
  | [] => ([], .finished)
  | letter :: rest =>
    if table.withArgument.contains letter then
      if rest.isEmpty then ([], .wantsArgument letter) else ([⟨letter, some rest, true⟩], .finished)
    else if table.letters.contains letter then
      let (options, ending) := readLetters table rest
      (⟨letter, none, true⟩ :: options, ending)
    else ([], .invalid letter)

/-- The option that the text behind two hyphens stands for: one with that name, or the only one
whose name starts like that. An argument behind an equals sign is no part of the name. -/
def OptionTable.named? (table : OptionTable) (text : Bytes) : Except Bytes OptionName :=
  let name := text.takeWhile (· != byte '=')
  let candidates := table.names.filter fun known => name.isPrefixOf known.name
  let given := utf8 "option '--" ++ text ++ utf8 "'"
  match candidates.find? (·.name == name), candidates with
  | some found, _ => .ok found
  | none, [] => .error (utf8 "unrecognized " ++ given)
  | none, first :: others =>
    if others.all (·.letter == first.letter) then .ok first
    else
      .error (given ++ utf8 " is ambiguous; possibilities:" ++
        candidates.flatMap fun known => utf8 " '--" ++ known.name ++ utf8 "'")

/-- Tells options and operands apart, up to an option that is wrong. -/
def Arguments.read (table : OptionTable) : List Bytes → Arguments
  | [] => ⟨[], [], none⟩
  | argument :: rest =>
    match argument with
    | 45 :: 45 :: [] => ⟨[], rest, none⟩
    | 45 :: 45 :: text =>
      match table.named? text with
      | .error message => .wrong message
      | .ok known =>
        let option := utf8 "option '--" ++ known.name ++ utf8 "'"
        let name := text.takeWhile (· != byte '=')
        let given := fun (value : Option Bytes) =>
          [GivenOption.mk known.letter value (name == known.name)]
        match table.withArgument.contains known.letter, text.drop name.length with
        | true, _ :: value => (Arguments.read table rest).addOptions (given (some value))
        | true, [] =>
          match rest with
          | [] => .wrong (option ++ utf8 " requires an argument")
          | value :: rest => (Arguments.read table rest).addOptions (given (some value))
        | false, [] => (Arguments.read table rest).addOptions (given none)
        | false, _ :: value =>
          if known.mayHaveArgument then (Arguments.read table rest).addOptions (given (some value))
          else .wrong (option ++ utf8 " doesn't allow an argument")
    | 45 :: letter :: letters =>
      match readLetters table (letter :: letters) with
      | (options, .finished) => (Arguments.read table rest).addOptions options
      | (options, .wantsArgument last) =>
        match rest with
        | [] =>
          (wrong (utf8 "option requires an argument -- '" ++ [last] ++ utf8 "'")).addOptions options
        | value :: rest =>
          (Arguments.read table rest).addOptions (options ++ [⟨last, some value, true⟩])
      | (options, .invalid letter) =>
        (wrong (utf8 "invalid option -- '" ++ [letter] ++ utf8 "'")).addOptions options
    | _ => (Arguments.read table rest).addOperand argument

end MiniShell.Host
