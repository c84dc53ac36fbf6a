import MiniShell.Proofs.System.Account

/-!
# Input that only the shell reads

While the commands of a session leave its input alone, what is unread is what was unread before,
less what the shell itself has read. `Undisturbed` asks this of the calls on a record, each in the
world in which it was made. What a command has put there then leaves everything unread that was
unread before (`Undisturbed.of_account`).
-/

namespace MiniShell

variable {World Process : Type} {sys : System World Process} {left : World → Source}

namespace Call

/-- What is unread when the call is made, if it is a read. -/
def unread? (sys : System World Process) (world : World) : Call Process → Option Source
  | .advance process stream _ => some ((sys.unread process stream).run world).1
  | _ => none

/-- What the call itself takes from an input. -/
def takes : Call Process → Nat
  | .advance _ _ reads => reads
  | _ => 0

/-- The call finds `left` unread, if it is a read, and leaves all of it but what it takes. -/
def Spares (sys : System World Process) (left : World → Source) (world : World)
    (call : Call Process) : Prop :=
  (∀ source ∈ call.unread? sys world, source = left world) ∧
    left (call.again sys world).2 = (left world).drop call.takes

end Call

/-- What is unread is `left`. The reads on record take from the front of it, and no other call on
record touches it. -/
def Undisturbed (sys : System World Process) (left : World → Source) :
    World → Record Process → Prop
  | _, [] => True
  | world, call :: calls =>
    call.Spares sys left world ∧ Undisturbed sys left (call.again sys world).2 calls

namespace Undisturbed

instance decidable (sys : System World Process) (left : World → Source) :
    (world : World) → (calls : Record Process) → Decidable (Undisturbed sys left world calls)
  | _, [] => inferInstanceAs (Decidable True)
  | world, call :: calls =>
    have := decidable sys left (call.again sys world).2 calls
    inferInstanceAs (Decidable ((_ ∧ _) ∧ _))

/-- Calls that read nothing leave the input alone. -/
theorem of_account {calls more : Record Process} {world world' : World}
    (h : Undisturbed sys left world (calls ++ more)) (haccount : Account sys world world' calls)
    (hreads : ∀ call ∈ calls, call.isRead = false) :
    left world' = left world ∧ Undisturbed sys left world' more := by
  induction calls generalizing world with
  | nil =>
    cases haccount
    exact ⟨rfl, h⟩
  | cons call calls ih =>
    obtain ⟨⟨-, hleft⟩, hrest⟩ := h
    obtain ⟨between, hcall, haccount⟩ := haccount
    have hread := hreads call List.mem_cons_self
    have htakes : call.takes = 0 := by
      cases call with
      | advance _ _ _ => cases hread
      | _ => rfl
    rw [hcall.again_eq hread] at hleft hrest
    rw [htakes, List.drop_zero] at hleft
    obtain ⟨hkept, hmore⟩ :=
      ih hrest haccount fun later hlater => hreads later (List.mem_cons_of_mem _ hlater)
    exact ⟨hkept.trans hleft, hmore⟩

end Undisturbed

/-- A system with an input and little else. Every file can be made and none can be executed, and
what is written is lost. -/
def quiet : System Source Unit where
  changeDir _ _ := pure (.error .noEntry)
  currentDir _ := pure none
  isExecutable _ _ := pure false
  create process _ _ := pure (.ok (3, process))
  duplicate process _ _ := pure (.ok process)
  close process _ := pure process
  write _ _ _ := pure ()
  openFile _ _ := pure (.error .noEntry)
  unread _ _ := get
  advance _ _ reads := modify (·.drop reads)
  execute _ _ _ := pure (.error .noEntry)
  fork := pure (.ok ())
  wait ended := pure (.ok ended)

/-- Nothing but the reads of the shell touches that input. -/
theorem undisturbed_quiet (source : Source) (calls : Record Unit) :
    Undisturbed quiet id source calls := by
  induction calls generalizing source with
  | nil => trivial
  | cons call calls ih =>
    refine ⟨⟨?_, ?_⟩, ih _⟩
    · intro unread hunread
      cases call with
      | advance _ _ _ => exact (Option.some.inj hunread).symm
      | _ => cases hunread
    · cases call <;> rfl

end MiniShell
