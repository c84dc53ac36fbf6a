import MiniShell.Text.Runs

/-!
# Bounded token sequences

A command line is cut at blanks, tabs and newlines into words, and the first words of it, up to a
bound, are its tokens. Token 0 is the name of the command and the others are its arguments.

`toList_ofLine` says that cutting a line keeps exactly its first words.
-/

namespace MiniShell

/-- The characters between words: blank, tab and newline. -/
def separators : List Char := [' ', '\t', '\n']

def isSeparator (c : Char) : Bool := separators.contains c

/-- All words of a line, however many. -/
def words (line : String) : List String := (runs isSeparator line.toList).map String.ofList

/-- A sequence of tokens that holds no more than `capacity` of them. Room for them, 24 bytes each,
is asked for in advance. It is taken for granted that there is memory for it, which is never more
than 9223372036854775807 bytes. -/
structure Tokens where
  toList : List String
  capacity : Nat
  deriving DecidableEq, Repr

namespace Tokens

/-- A sequence with room for `capacity` tokens, for which there is memory. -/
def empty (capacity : Nat) : Tokens := ⟨[], capacity⟩

def length (t : Tokens) : Nat := t.toList.length

def isEmpty (t : Tokens) : Bool := t.toList.isEmpty

/-- Whether further tokens are refused. -/
def isFull (t : Tokens) : Bool := t.capacity ≤ t.length

def get? (t : Tokens) (index : Nat) : Option String := t.toList[index]?

/-- The name of the command. -/
def name? (t : Tokens) : Option String := t.get? 0

/-- The tokens after the name. -/
def arguments (t : Tokens) : List String := t.toList.drop 1

/-- Appends a token, or refuses it when the sequence is full; says which. -/
def push (t : Tokens) (token : String) : Bool × Tokens :=
  if t.isFull then (false, t) else (true, { t with toList := t.toList ++ [token] })

/-- Appends tokens in order up to the first that is refused. -/
def fill (t : Tokens) : List String → Tokens
  | [] => t
  | token :: tokens =>
    match t.push token with
    | (true, t') => t'.fill tokens
    | (false, _) => t

/-- Offers every token in order; those that find the sequence full are lost. -/
def offer (t : Tokens) (tokens : List String) : Tokens :=
  tokens.foldl (fun t token => (t.push token).2) t

/-- The index of the first token equal to `token`, not looking before index `start`. -/
def position (t : Tokens) (start : Nat) (token : String) : Option Nat :=
  ((t.toList.drop start).findIdx? (· == token)).map (· + start)

/-- Drops the token at `index` and all after it. -/
def truncate (t : Tokens) (index : Nat) : Tokens := { t with toList := t.toList.take index }

/-- The tokens with one blank between neighbours. -/
def display (t : Tokens) : String := " ".intercalate t.toList

/-- The tokens of a line: its first words, as many as the capacity allows. It is no failure if there
are more, and that there is memory for `capacity` tokens is taken for granted. -/
def ofLine (line : String) (capacity : Nat) : Tokens := (empty capacity).fill (words line)

/-! ## The parts of a command -/

section Command

variable {t : Tokens} {name : String} {arguments : List String}

theorem name?_of_cons (h : t.toList = name :: arguments) : t.name? = some name := by
  rw [name?, get?, h]
  rfl

theorem arguments_of_cons (h : t.toList = name :: arguments) : t.arguments = arguments := by
  rw [Tokens.arguments, h]
  rfl

theorem isEmpty_of_cons (h : t.toList = name :: arguments) : t.isEmpty = false := by
  rw [isEmpty, h]
  rfl

end Command

/-! ## What pushing keeps -/

theorem push_of_full {t : Tokens} (h : t.isFull = true) (token : String) :
    t.push token = (false, t) := by simp [push, h]

theorem push_of_room {t : Tokens} (h : t.isFull = false) (token : String) :
    t.push token = (true, ⟨t.toList ++ [token], t.capacity⟩) := by simp [push, h]

theorem fill_eq (t : Tokens) (tokens : List String) :
    t.fill tokens = ⟨t.toList ++ tokens.take (t.capacity - t.length), t.capacity⟩ := by
  induction tokens generalizing t with
  | nil => simp [fill]
  | cons token tokens ih =>
    by_cases h : t.isFull = true
    · have : t.capacity - t.length = 0 := by simp [isFull] at h; omega
      simp [fill, push_of_full h, this]
    · rw [Bool.not_eq_true] at h
      have hlt : t.length < t.capacity := by simpa [isFull] using h
      obtain ⟨k, hk⟩ : ∃ k, t.capacity - t.length = k + 1 := ⟨t.capacity - t.length - 1, by omega⟩
      have : t.capacity - (t.length + 1) = k := by omega
      simp only [length] at this hk
      simp [fill, push_of_room h, ih, length, this, hk]

@[simp] theorem toList_ofLine (line : String) (capacity : Nat) :
    (ofLine line capacity).toList = (words line).take capacity := by
  simp [ofLine, fill_eq, empty, length]

@[simp] theorem capacity_ofLine (line : String) (capacity : Nat) :
    (ofLine line capacity).capacity = capacity := by
  simp [ofLine, fill_eq, empty]

end Tokens

end MiniShell
