import MiniShell.Proofs.System.Similar
import MiniShell.Session

/-!
# What becomes of a line

A line without tokens is nothing. A line whose first token names a built-in is that built-in,
performed on the other tokens, and every other line is launched (`executeLine_empty`,
`executeLine_builtin`, `executeLine_external`).
-/

namespace MiniShell

variable {World Process : Type}

/-! ## The table of built-ins -/

theorem run_eq_perform (sys : System World Process) (env : Environment Process)
    (builtin : Builtin) (arguments : List String) :
    builtin.run sys env arguments = builtin.perform sys env arguments := by
  rw [Builtin.run, operands?_asOperands]

section Dispatch

variable {sys : System World Process} {env : Environment Process} {table : List Builtin}
  {tokens : Tokens} {name : String} {arguments : List String}

theorem dispatch_of_find {builtin : Builtin} (h : tokens.toList = name :: arguments)
    (hfind : table.find? (·.name == name) = some builtin) :
    dispatch sys table tokens env = (do
      let (result, env') ← builtin.perform sys env arguments
      pure (some result, env')) := by
  unfold dispatch
  simp only [Tokens.name?_of_cons h, Tokens.arguments_of_cons h, Option.bind_some, hfind,
    run_eq_perform]

theorem dispatch_of_not_find (h : tokens.toList = name :: arguments)
    (hfind : table.find? (·.name == name) = none) :
    dispatch sys table tokens env = pure (none, env) := by
  unfold dispatch
  simp only [Tokens.name?_of_cons h, Option.bind_some, hfind]

end Dispatch

namespace Shell

variable {sys : System World Process} {sh : Shell Process} {line : String}

/-! ## The three kinds of lines -/

theorem executeLine_empty (h : (sh.tokens line).toList = []) (world : World) :
    (sh.executeLine sys line).run world = ((.ok .empty, sh), world) := by
  have hempty : (sh.tokens line).isEmpty = true := by rw [Tokens.isEmpty, h]; rfl
  unfold executeLine
  simp only [hempty, if_true]
  rfl

/-- The shell after a line that counts. -/
def counted (sh : Shell Process) : Shell Process :=
  { sh with commandsExecuted := sh.commandsExecuted + 1 }

theorem executeLine_builtin {name : String} {arguments : List String} {builtin : Builtin}
    (h : (sh.tokens line).toList = name :: arguments)
    (hfind : sh.builtins.find? (·.name == name) = some builtin) (world : World) :
    (sh.executeLine sys line).run world =
      ((((builtin.perform sys sh.env arguments).run world).1.1.map .builtin,
          { sh.counted with env := ((builtin.perform sys sh.env arguments).run world).1.2 }),
        ((builtin.perform sys sh.env arguments).run world).2) := by
  unfold executeLine
  simp only [Tokens.isEmpty_of_cons h, Bool.false_eq_true, if_false, dispatch_of_find h hfind]
  rfl

theorem executeLine_external {name : String} {arguments : List String}
    (h : (sh.tokens line).toList = name :: arguments)
    (hfind : sh.builtins.find? (·.name == name) = none) (world : World) :
    (sh.executeLine sys line).run world =
      ((((launch sys sh.env.searchPath sh.env.process (sh.tokens line)).run world).1.map .external,
          sh.counted),
        ((launch sys sh.env.searchPath sh.env.process (sh.tokens line)).run world).2) := by
  unfold executeLine
  simp only [Tokens.isEmpty_of_cons h, Bool.false_eq_true, if_false, dispatch_of_not_find h hfind]
  rfl

/-! ## Lines that end a session -/

/-- Whether the tokens of the line are `exit` or `quit` and nothing else. -/
def endsSession (maxTokens : Nat) (line : String) : Bool :=
  (Tokens.ofLine line maxTokens).toList ∈ [["exit"], ["quit"]]

end Shell

end MiniShell
