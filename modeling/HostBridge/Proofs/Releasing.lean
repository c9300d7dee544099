import HostBridge.Proofs.UsingValues

/-!
# Releasing opaque values

An opaque value is released once and for all, by whichever thread comes first, as an operation or by leaving
its block. Until then every use gets at the object that the value was made for; from then on every use finds
that it has been released. Releasing says once that the value was still there, and leaves the other values
alone.
-/

namespace HostBridge

variable {ω : Type}

/-- What a thread does at one go: an operation, or leaving the block that an opaque value was opened for, with
what the block came to. -/
inductive Deed where
  | perform (op : Operation)
  | leave (id : OpaqueId) (outcome : Except Fault Value)

namespace Deed

/-- Do it. -/
def run (host : Host ω) : Deed → Action ω Value
  | .perform op => op.run host
  | .leave id outcome => Action.releasing id (MonadExcept.ofExcept outcome)

/-- Does it release the value? -/
def Releases (id : OpaqueId) : Deed → Prop
  | .perform op => op = .release id
  | .leave other _ => other = id

end Deed

/-- The state after these deeds, each of some thread, in this order. -/
def Host.afterDeeds (host : Host ω) : List (ThreadId × Deed) → State ω → State ω
  | [], s => s
  | (t, deed) :: rest, s => host.afterDeeds rest ((deed.run host).runOn t s).2

/-- The value is released among these deeds. -/
def ReleasedIn (id : OpaqueId) (deeds : List (ThreadId × Deed)) : Prop := ∃ deed ∈ deeds, deed.2.Releases id

/-- However a block ends, the value that it was opened for is released then. -/
theorem Action.runOn_releasing {α : Type} (id : OpaqueId) (body : Action ω α) (t : ThreadId) (s : State ω) :
    (releasing id body).runOn t s = ((body.runOn t s).1, (body.runOn t s).2.releasing id) := by
  simp [releasing, runOn_release, Except.map]

section Runs

variable {program : HostProgram ω} {level : Nat} {id : OpaqueId} {deeds : List (ThreadId × Deed)}
  {start : State ω}

private theorem outlasts_deed (program : HostProgram ω) (level : Nat) (deed : Deed) (t : ThreadId) (s : State ω) :
    s.Outlasts ((deed.run (program.host level)).runOn t s).2 := by
  cases deed with
  | perform op => exact (program.outlasts level).run op trivial t s
  | leave id outcome =>
    rw [Deed.run, Action.runOn_releasing, Action.runOn_ofExcept]
    have any : Operation.Any (.release id) := trivial
    exact Releases.releasing s id any

private theorem outlasts_deeds (program : HostProgram ω) (level : Nat) (deeds : List (ThreadId × Deed))
    (start : State ω) : start.Outlasts ((program.host level).afterDeeds deeds start) := by
  induction deeds generalizing start with
  | nil => exact Path.refl start
  | cons deed rest ih => exact Upkeep.trans (outlasts_deed program level deed.2 deed.1 start) (ih _)

private theorem spares_deed (uses : program.Uses (· ≠ .release id)) {deed : Deed} (other : ¬ deed.Releases id)
    (t : ThreadId) (s : State ω) : s.Spares id ((deed.run (program.host level)).runOn t s).2 := by
  cases deed with
  | perform op => exact (HostProgram.spares uses level).run op other t s
  | leave id' outcome =>
    rw [Deed.run, Action.runOn_releasing, Action.runOn_ofExcept]
    exact s.spares_releasing other

/-- A run in which a value is not released spares it. -/
theorem spares_deeds (uses : program.Uses (· ≠ .release id)) (kept : ¬ ReleasedIn id deeds)
    (start : State ω) : start.Spares id ((program.host level).afterDeeds deeds start) := by
  induction deeds generalizing start with
  | nil => exact Path.refl start
  | cons deed rest ih =>
    have first : ¬ deed.2.Releases id := fun now => kept ⟨deed, List.mem_cons_self, now⟩
    have later : ¬ ReleasedIn id rest := fun ⟨other, there, releases⟩ =>
      kept ⟨other, List.mem_cons_of_mem _ there, releases⟩
    exact Upkeep.trans (spares_deed uses first deed.1 start) (ih later _)

private theorem view_of_releases {deed : Deed} (now : deed.Releases id) (host : Host ω) (t : ThreadId) (s : State ω) :
    ((deed.run host).runOn t s).2.view id = none := by
  cases deed with
  | perform op =>
    cases now
    rw [Deed.run, Operation.run, Action.runOn_bind_pure, runOn_release]
    exact s.view_releasing_self id
  | leave other outcome =>
    cases now
    rw [Deed.run, Action.runOn_releasing, Action.runOn_ofExcept]
    exact s.view_releasing_self id

/-- After a run in which it is released, a value owns nothing. -/
theorem view_of_releasedIn (made : id.index < start.owned.length) (released : ReleasedIn id deeds) :
    ((program.host level).afterDeeds deeds start).view id = none := by
  induction deeds generalizing start with
  | nil =>
    obtain ⟨deed, there, -⟩ := released
    cases there
  | cons deed rest ih =>
    have lasts := outlasts_deed program level deed.2 deed.1 start
    have made' := Nat.lt_of_lt_of_le made lasts.length
    by_cases now : deed.2.Releases id
    · exact (outlasts_deeds program level rest _).gone made' (view_of_releases now _ deed.1 start)
    · refine ih made' ?_
      obtain ⟨other, there, releases⟩ := released
      rcases List.mem_cons.mp there with rfl | later
      · exact (now releases).elim
      · exact ⟨other, later, releases⟩

end Runs

/-- A value is released once and for all. After any run of deeds of any threads in which it was released, as an
operation or by leaving its block, every use of it is refused; as long as it was not, every use gets at the
object that it was made for. Each time it is released, all other values stay as they are. -/
theorem released_exactly_once (program : HostProgram ω) (level : Nat) {start : State ω} {id : OpaqueId}
    {v : Value} (owned : start.view id = some v) (deeds : List (ThreadId × Deed)) :
    let s := (program.host level).afterDeeds deeds start
    (ReleasedIn id deeds → s.Refuses program level id) ∧
    (program.Uses (· ≠ .release id) → ¬ ReleasedIn id deeds → s.Gets program level id v) ∧
    (s.Gets program level id v ∨ s.Refuses program level id) ∧
    (s.releasing id).Refuses program level id ∧
    (∀ t (body : Action ω Value), (Action.releasing id body).runOn t s =
      ((body.runOn t s).1, (body.runOn t s).2.releasing id)) ∧
    ∀ other w, other ≠ id → s.view other = some w → (s.releasing id).Gets program level other w := by
  have lasts := outlasts_deeds program level deeds start
  have made := State.lt_length_of_view owned
  have made' := Nat.lt_of_lt_of_le made lasts.length
  refine ⟨fun released => ?_, fun uses kept => ?_, ?_, ?_, fun t body => ?_, fun other w different there => ?_⟩
  · exact State.refuses program level made' (view_of_releasedIn made released)
  · exact State.gets program level (spares_deeds uses kept start v owned)
  · rcases lasts.view id made with same | gone
    · exact .inl (State.gets program level (same.trans owned))
    · exact .inr (State.refuses program level made' gone)
  · refine State.refuses program level ?_ (State.view_releasing_self _ id)
    simpa [State.releasing] using made'
  · exact Action.runOn_releasing id body t _
  · exact State.gets program level ((State.view_releasing_other _ different).trans there)

/-- Two values over one object. -/
def twinStart : State Unit :=
  { State.initial (.ofSettings .nil []) () with owned := [some (.symbol "a"), some (.symbol "a")] }

/-- The first one is read, its block is left by a fault, and another thread releases it again. -/
def twinDeeds : List (ThreadId × Deed) :=
  [(.main, .perform (.reference ⟨0⟩)), (.main, .leave ⟨0⟩ (.error (.standard .value "Out of here"))),
    (⟨"worker"⟩, .perform (.release ⟨0⟩))]

/-- After that every use of the first value is refused, and the second gives the object as before. -/
theorem released_exactly_once_twins :
    let s := (echoingHost.host nestingLimit).afterDeeds twinDeeds twinStart
    s.Refuses echoingHost nestingLimit ⟨0⟩ ∧ s.Gets echoingHost nestingLimit ⟨1⟩ (.symbol "a") := by
  have uses : echoingHost.Uses (· ≠ .release ⟨1⟩) := by
    intro view t b call w
    cases call <;> trivial
  have kept : ¬ ReleasedIn ⟨1⟩ twinDeeds := by
    rintro ⟨deed, there, releases⟩
    simp only [twinDeeds, List.mem_cons, List.not_mem_nil, or_false] at there
    rcases there with rfl | rfl | rfl <;> cases releases
  have first : twinStart.view ⟨0⟩ = some (.symbol "a") := rfl
  have second : twinStart.view ⟨1⟩ = some (.symbol "a") := rfl
  constructor
  · refine (released_exactly_once echoingHost nestingLimit first twinDeeds).1 ?_
    exact ⟨_, List.mem_cons_of_mem _ List.mem_cons_self, rfl⟩
  · exact (released_exactly_once echoingHost nestingLimit second twinDeeds).2.1 uses kept

end HostBridge
