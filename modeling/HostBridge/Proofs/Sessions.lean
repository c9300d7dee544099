import HostBridge.Bridge.Hosts
import HostBridge.Proofs.LastingWorld

/-!
# Sessions with the in-memory host

In a session any threads take any number of turns at the bridge, with operations of all kinds, and in
between variables of the in-memory host are interned and bound from outside. Variables that are bound stay
bound all the time, and an opaque value owns the object it was made for until it is released.
-/

namespace HostBridge

/-- A change of the in-memory world from outside. -/
inductive Memory.Edit where
  /-- Intern a variable. -/
  | intern (ns name : String)
  /-- Bind a variable, or bind it again. -/
  | define (ns name : String) (body : Memory.Body)

/-- Make a change of the in-memory world. -/
def Memory.Edit.apply (w : Memory.World) : Memory.Edit → Memory.World
  | .intern ns name => w.intern ns name
  | .define ns name body => w.define ns name body

/-- Change the in-memory world from outside. -/
def State.editing (s : State Worlds) (edit : Memory.Edit) : State Worlds :=
  { s with world := { s.world with memory := edit.apply s.world.memory } }

/-- The states of a session, where calls may nest so deep. -/
inductive Session (level : Nat) (start : State Worlds) : State Worlds → Prop
  | start : Session level start start
  | turns {s s' : State Worlds} (before : Session level start s)
      (turns : (hosts.host level).Reaches Operation.Any s s') : Session level start s'
  | edit {s : State Worlds} (before : Session level start s) (edit : Memory.Edit) :
      Session level start (s.editing edit)

section Evolving

variable {W : Memory.World → Memory.World → Prop} [Memory.World.Evolving W]

/-- The in-memory world changes within a relation. -/
def Worlds.Within (W : Memory.World → Memory.World → Prop) (w w' : Worlds) : Prop := W w.memory w'.memory

instance : Lasting (Worlds.Within W) where
  refl w := Lasting.refl w.memory
  trans first second := Lasting.trans (W := W) first second

/-- Whatever both hosts do, the in-memory world changes within every relation that all its changes keep
to. -/
theorem hosts_follows : hosts.Follows (Worlds.Within W) := by
  intro view t b call
  refine Hosted.Follows.bind (Hosted.Follows.modify fun w => ?_) fun _ => ?_
  · exact Memory.World.Evolving.same rfl rfl rfl id
  split
  · -- The machine is a world of its own, so whatever work it does leaves the memory alone.
    refine Hosted.Follows.zoom (W := fun _ _ => True) (fun whole machine _ => ?_) (.of_all ?_ _)
    · exact Lasting.refl (W := W) whole.memory
    · exact fun _ _ => trivial
  · refine Hosted.Follows.zoom (W := W) ?_ (Memory.evolves_perform b call)
    exact fun _ _ within => within

/-- The in-memory world has changed within a relation. -/
def State.Within (W : Memory.World → Memory.World → Prop) (s s' : State Worlds) : Prop :=
  W s.world.memory s'.world.memory

instance {allowed : Operation → Prop} : Releases allowed (State.Within W) where
  releasing s _ _ := Lasting.refl s.world.memory

instance : Upkeep (Worlds.Within W) (State.Within W) where
  same {s s'} _ world := by
    rw [State.Within, world]
    exact Lasting.refl _
  owning s _ := Lasting.refl s.world.memory
  working _ _ within := within
  trans first second := Lasting.trans (W := W) first second

/-- Throughout a session the in-memory world changes within every relation that all its changes keep to. -/
theorem Session.within {level : Nat} {start s : State Worlds} (session : Session level start s) :
    W start.world.memory s.world.memory := by
  induction session with
  | start => exact Lasting.refl _
  | turns before turns ih =>
    have uses : hosts.Uses Operation.Any := fun _ _ _ _ _ => Reply.uses_any _
    have kept := (Upkeep.host_keepsTo (R := State.Within W) hosts_follows uses level).reaches turns
    exact Lasting.trans ih kept
  | edit before edit ih =>
    refine Lasting.trans ih ?_
    cases edit with
    | intern ns name => exact Memory.World.Evolving.intern _ ns name
    | define ns name body => exact Memory.World.Evolving.define _ ns name body

end Evolving

/-- What is there in the in-memory world lasts. -/
def Worlds.Lasts (w w' : Worlds) : Prop := w.memory.Lasts w'.memory

instance : Lasting Worlds.Lasts where
  refl w := Lasting.refl w.memory
  trans first second := Lasting.trans (W := Memory.World.Lasts) first second

/-- What is there in the in-memory world lasts, and values own what they owned or have been released. -/
structure State.Lasts (s s' : State Worlds) : Prop where
  memory : s.world.memory.Lasts s'.world.memory
  length : s.owned.length ≤ s'.owned.length
  view : ∀ id : OpaqueId, id.index < s.owned.length → s'.view id = s.view id ∨ s'.view id = none

namespace State.Lasts

variable {s s' : State Worlds}

private theorem of_eq (owned : s'.owned = s.owned) (memory : s.world.memory.Lasts s'.world.memory) :
    s.Lasts s' := by
  refine ⟨memory, Nat.le_of_eq (by rw [owned]), fun id _ => .inl ?_⟩
  rw [State.view, State.view, owned]

instance {allowed : Operation → Prop} : Releases allowed State.Lasts where
  releasing s id _ := by
    refine ⟨Lasting.refl _, ?_, fun other there => ?_⟩
    · simp [State.releasing]
    · by_cases same : id.index = other.index
      · exact .inr (by simp [State.releasing, State.view, same, there])
      · exact .inl (by simp [State.releasing, State.view, same])

instance : Upkeep Worlds.Lasts State.Lasts where
  same owned world := of_eq owned (by rw [world]; exact Lasting.refl _)
  owning s v := by
    refine ⟨Lasting.refl _, ?_, fun id there => .inl (s.view_owning_of_lt v there)⟩
    simp [State.owning]
  working s w lasts := of_eq rfl lasts
  trans first second := by
    refine ⟨Lasting.trans first.memory second.memory, Nat.le_trans first.length second.length, ?_⟩
    intro id there
    rcases second.view id (Nat.lt_of_lt_of_le there first.length) with same | gone
    · rw [same]
      exact first.view id there
    · exact .inr gone

/-- What an opaque value owns at the end of a session it has owned since it was made. -/
theorem view_eq (lasts : s.Lasts s') {id : OpaqueId} (there : id.index < s.owned.length)
    (kept : s'.view id ≠ none) : s'.view id = s.view id :=
  (lasts.view id there).resolve_right kept

end State.Lasts

/-- Throughout a session everything lasts. -/
theorem Session.lasts {level : Nat} {start s : State Worlds} (session : Session level start s) :
    start.Lasts s := by
  induction session with
  | start => exact Path.refl start
  | turns before turns ih =>
    have follows : hosts.Follows Worlds.Lasts := hosts_follows (W := Memory.World.Lasts)
    have uses : hosts.Uses Operation.Any := fun _ _ _ _ _ => Reply.uses_any _
    exact Upkeep.trans ih ((Upkeep.host_keepsTo follows uses level).reaches turns)
  | edit before edit ih =>
    refine Upkeep.trans ih (.of_eq rfl ?_)
    cases edit with
    | intern ns name => exact .intern _ ns name
    | define ns name body => exact .define _ ns name body

end HostBridge
