import MiniShell.Proofs.System.Recorded

/-!
# Calls from world to world

A record lists calls with their answers. An `Account` says in which worlds they were given: the
first call was made in the world at the start, every other in the world that the call before it
left behind, and the last one left the world at the end. What a command puts on record is an account
of the command (`AgreeUnless.account`).

What was asked of one system can be asked of another, or of the same in another world. `Call.again`
does so, whatever the answer was the first time.
-/

namespace MiniShell

variable {World Process α : Type} {sys : System World Process}

/-- The system answers the call in the world `before`, and leaves the world `after` behind. -/
def Call.Happens (sys : System World Process) (before after : World) : Call Process → Prop
  | .changeDir process path answer => (sys.changeDir process path).run before = (answer, after)
  | .currentDir process answer => (sys.currentDir process).run before = (answer, after)
  | .isExecutable process path answer =>
    (sys.isExecutable process path).run before = (answer, after)
  | .create process path mode answer => (sys.create process path mode).run before = (answer, after)
  | .duplicate process old new answer =>
    (sys.duplicate process old new).run before = (answer, after)
  | .close process descriptor answer => (sys.close process descriptor).run before = (answer, after)
  | .write process descriptor bytes =>
    (sys.write process descriptor bytes).run before = ((), after)
  | .openFile process path answer => (sys.openFile process path).run before = (answer, after)
  | .advance process stream reads => (sys.advance process stream reads).run before = ((), after)
  | .execute process path arguments answer =>
    (sys.execute process path arguments).run before = (answer, after)
  | .fork answer => sys.fork.run before = (answer, after)
  | .wait ended answer => (sys.wait ended).run before = (answer, after)

/-- The call with the answer that the system gives in the world `world`, and the world after it. A
look at what is unread goes with a read, as when the shell makes it. -/
def Call.again (sys : System World Process) (world : World) : Call Process → Call Process × World
  | .changeDir process path _ =>
    Prod.map (.changeDir process path) id ((sys.changeDir process path).run world)
  | .currentDir process _ => Prod.map (.currentDir process) id ((sys.currentDir process).run world)
  | .isExecutable process path _ =>
    Prod.map (.isExecutable process path) id ((sys.isExecutable process path).run world)
  | .create process path mode _ =>
    Prod.map (.create process path mode) id ((sys.create process path mode).run world)
  | .duplicate process old new _ =>
    Prod.map (.duplicate process old new) id ((sys.duplicate process old new).run world)
  | .close process descriptor _ =>
    Prod.map (.close process descriptor) id ((sys.close process descriptor).run world)
  | .write process descriptor bytes =>
    Prod.map (fun _ => .write process descriptor bytes) id
      ((sys.write process descriptor bytes).run world)
  | .openFile process path _ =>
    Prod.map (.openFile process path) id ((sys.openFile process path).run world)
  | .advance process stream reads =>
    (.advance process stream reads,
      ((sys.advance process stream reads).run ((sys.unread process stream).run world).2).2)
  | .execute process path arguments _ =>
    Prod.map (.execute process path arguments) id ((sys.execute process path arguments).run world)
  | .fork _ => Prod.map .fork id (sys.fork.run world)
  | .wait ended _ => Prod.map (.wait ended) id ((sys.wait ended).run world)

/-- What has happened happens again in the same world. -/
theorem Call.Happens.again_eq {call : Call Process} {before after : World}
    (h : call.Happens sys before after) (hread : call.isRead = false) :
    call.again sys before = (call, after) := by
  cases call with
  | advance _ _ _ => cases hread
  | write process descriptor bytes =>
    exact congrArg (Prod.map (fun _ => Call.write process descriptor bytes) id) h
  | _ => exact congrArg (Prod.map _ id) h

/-- The calls take place one after the other, between the worlds `before` and `after`. -/
def Account (sys : System World Process) (before after : World) : Record Process → Prop
  | [] => before = after
  | call :: calls => ∃ between, call.Happens sys before between ∧ Account sys between after calls

namespace Account

theorem append {first second : Record Process} {before between after : World}
    (h : Account sys before between first) (h' : Account sys between after second) :
    Account sys before after (first ++ second) := by
  induction first generalizing before with
  | nil =>
    cases h
    exact h'
  | cons call first ih =>
    obtain ⟨next, hcall, hrest⟩ := h
    exact ⟨next, hcall, ih hrest⟩

theorem of_append {first second : Record Process} {before after : World}
    (h : Account sys before after (first ++ second)) :
    ∃ between, Account sys before between first ∧ Account sys between after second := by
  induction first generalizing before with
  | nil => exact ⟨before, rfl, h⟩
  | cons call first ih =>
    obtain ⟨next, hcall, hrest⟩ := h
    obtain ⟨between, hfirst, hsecond⟩ := ih hrest
    exact ⟨between, ⟨next, hcall, hfirst⟩, hsecond⟩

/-- What every call keeps of the world before it is kept from the first world to the last. -/
theorem kept {calls : Record Process} {before after : World}
    (h : Account sys before after calls) (related : World → World → Prop)
    (hrefl : ∀ world, related world world)
    (htrans : ∀ first second third, related first second → related second third →
      related first third)
    (hcalls : ∀ call ∈ calls, ∀ world world', call.Happens sys world world' →
      related world world') : related before after := by
  induction calls generalizing before with
  | nil =>
    cases h
    exact hrefl _
  | cons call calls ih =>
    obtain ⟨between, hcall, hrest⟩ := h
    have hfirst := hcalls call List.mem_cons_self _ _ hcall
    exact htrans _ _ _ hfirst
      (ih hrest fun later hlater => hcalls later (List.mem_cons_of_mem _ hlater))

end Account

/-! ## Records are accounts -/

/-- The states agree, and what came to the record since is an account of what happened since. -/
def Follows (sys : System World Process) (start : World × Record Process)
    (state state' : World × Record Process) : Prop :=
  state = state' ∧ ∃ calls, state.2 = start.2 ++ calls ∧ Account sys start.1 state.1 calls

theorem agree_of_happens {start : World × Record Process} {action : StateM World α}
    (call : α → Call Process)
    (h : ∀ world, (call (action.run world).1).Happens sys world (action.run world).2) :
    Agree (Follows sys start) (noted call action) (noted call action) := by
  refine .of_forall ?_
  rintro ⟨world, now⟩ _ ⟨rfl, calls, hcalls, haccount⟩
  refine ⟨rfl, rfl, calls ++ [call (action.run world).1], ?_, ?_⟩
  · rw [← List.append_assoc, ← hcalls]
    rfl
  · exact haccount.append ⟨_, h world, rfl⟩

theorem similar_follows (sys : System World Process) (start : World × Record Process) :
    Similar (Follows sys start) sys.recorded sys.recorded where
  changeDir _ _ := agree_of_happens _ fun _ => rfl
  currentDir _ := agree_of_happens _ fun _ => rfl
  isExecutable _ _ := agree_of_happens _ fun _ => rfl
  create _ _ _ := agree_of_happens _ fun _ => rfl
  duplicate _ _ _ := agree_of_happens _ fun _ => rfl
  close _ _ := agree_of_happens _ fun _ => rfl
  write process descriptor bytes :=
    agree_of_happens (fun _ => .write process descriptor bytes) fun _ => rfl
  execute _ _ _ := agree_of_happens _ fun _ => rfl
  fork := agree_of_happens _ fun _ => rfl
  wait _ := agree_of_happens _ fun _ => rfl

/-- **Accounts.** What a command puts on record is an account of the command. -/
theorem AgreeUnless.account {action : StateM (World × Record Process) α} {world world' : World}
    {record calls : Record Process} {a : α}
    (h : Agree (Follows sys (world, record)) action action)
    (hrun : action.run (world, record) = (a, (world', record ++ calls))) :
    Account sys world world' calls := by
  have hstart : Follows sys (world, record) (world, record) (world, record) :=
    ⟨rfl, [], (List.append_nil record).symm, rfl⟩
  obtain ⟨-, -, calls', hcalls, haccount⟩ := h.apply hstart
  rw [hrun] at hcalls haccount
  rwa [List.append_cancel_left hcalls]

end MiniShell
