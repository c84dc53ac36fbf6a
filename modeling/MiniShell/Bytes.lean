/-!
# Bytes and paths

File names, lines and program arguments are byte strings. A path is used exactly as it was given:
it need not be UTF-8, and a path that holds a NUL byte names nothing.
-/

namespace MiniShell

/-- A byte string. -/
abbrev Bytes := List UInt8

/-- A path as the system is asked about it. -/
abbrev Path := Bytes

/-- The byte that ends a line. -/
def newline : UInt8 := 10

/-- The byte between the components of a path. -/
def slash : UInt8 := 47

/-- The UTF-8 bytes of a text. -/
def utf8 (text : String) : Bytes := text.toList.flatMap String.utf8EncodeChar

/-- No system call takes an argument with a NUL byte inside. -/
def hasNul (bytes : Bytes) : Bool := bytes.contains 0

/-- The path reached by following `path` from `base`: an absolute path replaces the base. -/
def Path.join (base path : Path) : Path :=
  if path.head? = some slash then path
  else if base = [] ∨ base.getLast? = some slash then base ++ path
  else base ++ slash :: path

end MiniShell
