import HostBridge.Proofs.CallStages
import HostBridge.Proofs.Following

/-!
# What opaque values own, and who gets it

A value owns what it was made for until it is released, and nothing after that, whatever happens around it.
Every use asks for the object when it begins, a call argument when it is handed over; so a use either goes on
with the very object that the value was made for, or finds that it has been released.
-/

namespace HostBridge

variable {ω : Type}

namespace State

variable {s s' : State ω} {id other : OpaqueId} {v : Value}

/-! ### What values own -/

/-- What was released owns nothing. -/
theorem view_releasing_self (s : State ω) (id : OpaqueId) : (s.releasing id).view id = none := by
  by_cases there : id.index < s.owned.length
  · simp [releasing, view, there]
  · simp [releasing, view, there]

/-- Values that were not released own what they owned. -/
theorem view_releasing_other (s : State ω) (different : other ≠ id) :
    (s.releasing id).view other = s.view other := by
  have apart : id.index ≠ other.index := by
    intro same
    cases id
    cases other
    exact different (congrArg OpaqueId.mk same.symm)
  simp [releasing, view, apart]

/-- Releasing what owns nothing changes nothing. -/
theorem releasing_of_gone (gone : s.view id = none) : s.releasing id = s := by
  have same : s.owned.modify id.index (fun _ => none) = s.owned := by
    apply List.ext_getElem?
    intro i
    rw [List.getElem?_modify]
    by_cases there : id.index = i
    · subst there
      rw [view, Option.join_eq_none_iff] at gone
      rcases gone with absent | empty
      · simp [absent]
      · simp [empty]
    · simp [there]
  rw [releasing, same]

/-- All values that were made stay, and own what they owned or have been released. -/
structure Outlasts (s s' : State ω) : Prop where
  length : s.owned.length ≤ s'.owned.length
  view : ∀ id : OpaqueId, id.index < s.owned.length → s'.view id = s.view id ∨ s'.view id = none

instance {allowed : Operation → Prop} : Releases allowed (Outlasts (ω := ω)) where
  releasing s id _ := by
    refine ⟨Nat.le_of_eq ?_, fun other _ => ?_⟩
    · simp [releasing]
    · by_cases same : other = id
      · rw [same]
        exact .inr (s.view_releasing_self id)
      · exact .inl (s.view_releasing_other same)

instance : Upkeep (fun _ _ => True) (Outlasts (ω := ω)) where
  same owned _ := by
    refine ⟨Nat.le_of_eq (by rw [owned]), fun id _ => .inl ?_⟩
    rw [State.view, State.view, owned]
  owning s v := by
    refine ⟨?_, fun id there => .inl (s.view_owning_of_lt v there)⟩
    simp [owning]
  working s w _ := ⟨Nat.le_refl _, fun _ _ => .inl rfl⟩
  trans first second := by
    refine ⟨Nat.le_trans first.length second.length, fun id there => ?_⟩
    rcases second.view id (Nat.lt_of_lt_of_le there first.length) with same | gone
    · rw [same]
      exact first.view id there
    · exact .inr gone

namespace Outlasts

private theorem eq_of_view (lasts : s.Outlasts s') (owned : s.view id = some v) {w : Value}
    (still : s'.view id = some w) : w = v := by
  rcases lasts.view id (lt_length_of_view owned) with same | gone
  · rw [owned, still] at same
    exact Option.some.inj same
  · rw [gone] at still
    cases still

/-- What has been released stays so. -/
theorem gone (lasts : s.Outlasts s') (made : id.index < s.owned.length) (released : s.view id = none) :
    s'.view id = none := by
  rcases lasts.view id made with same | gone
  · exact same.trans released
  · exact gone

end Outlasts

end State

/-- Whatever happens, values that were made stay, and own what they owned or have been released. -/
theorem HostProgram.outlasts (program : HostProgram ω) (level : Nat) :
    (program.host level).KeepsTo Operation.Any State.Outlasts :=
  Upkeep.host_keepsTo (fun _ _ _ _ => .of_all (fun _ _ => trivial) _) (fun _ _ _ _ _ => Reply.uses_any _) level

private theorem State.Outlasts.of_boxed {program : HostProgram ω} {level : Nat} {t : ThreadId} {rt : HandleId}
    {s s' : State ω} {p : Scalar} {result : Except Fault Value}
    (boxed : (Action.box (program.host level) rt (.ofScalar p)).runOn t s = (result, s')) : s.Outlasts s' := by
  have lasts := (program.outlasts level).cross rt (.box (.ofScalar p)) rfl t s
  have ended : ((Action.cross (program.host level) rt (.box (.ofScalar p))).runOn t s).2 = s' :=
    congrArg Prod.snd boxed
  rw [ended] at lasts
  exact lasts

/-- The value owns what it owned. -/
def State.Spares (id : OpaqueId) (s s' : State ω) : Prop := ∀ v, s.view id = some v → s'.view id = some v

/-- Releasing another value spares it. -/
theorem State.spares_releasing (s : State ω) {id other : OpaqueId} (different : other ≠ id) :
    s.Spares id (s.releasing other) := by
  intro v owned
  rw [s.view_releasing_other (Ne.symm different)]
  exact owned

instance {id : OpaqueId} : Releases (· ≠ .release id) (State.Spares (ω := ω) id) where
  releasing s _ different := s.spares_releasing fun same => different (congrArg Operation.release same)

instance {id : OpaqueId} : Upkeep (fun _ _ => True) (State.Spares (ω := ω) id) where
  same owned _ v owns := by
    rw [State.view, owned]
    exact owns
  owning s w v owns := by
    rw [s.view_owning_of_lt w (State.lt_length_of_view owns)]
    exact owns
  working _ _ _ _ owns := owns
  trans first second v owns := second v (first v owns)

/-- A value that the host does not release when it calls back is released by its callers only. -/
theorem HostProgram.spares {program : HostProgram ω} {id : OpaqueId} (uses : program.Uses (· ≠ .release id))
    (level : Nat) : (program.host level).KeepsTo (· ≠ .release id) (State.Spares id) :=
  Upkeep.host_keepsTo (fun _ _ _ _ => .of_all (fun _ _ => trivial) _) uses level

/-! ### Calls one after another -/

namespace Action

variable {level : Nat} {t : ThreadId} {s : State ω} {rt : HandleId}

/-- A call through a handle fails and ends the row, or is refused as the handle is not live, or the row goes
on after it. -/
theorem cross_bind_cases {α : Type} (program : HostProgram ω) (level : Nat) (t : ThreadId) (s : State ω)
    (rt : HandleId) (call : Call) (f : Value → Action ω α) :
    let came := (cross (program.host level) rt call >>= f).runOn t s
    (∃ fault, came.1 = .error fault ∧ s.Makes level [(call, some fault)] came.2) ∨
      (∃ fault, came = (.error fault, s) ∧ ¬ s.Live t rt) ∨
      ∃ v s', s.Makes level [(call, none)] s' ∧ came = (f v).runOn t s' := by
  have crossed := cross_cases program level t s rt call
  rw [runOn_bind]
  cases came : (cross (program.host level) rt call).runOn t s with
  | mk result s' =>
  rw [came] at crossed
  rcases crossed with ⟨-, made⟩ | ⟨lost, message, refused⟩
  · cases result with
    | ok v => exact .inr (.inr ⟨v, s', made, rfl⟩)
    | error fault => exact .inl ⟨fault, rfl, made⟩
  · cases refused
    exact .inr (.inl ⟨_, rfl, lost⟩)

end Action

/-! ### Handing values over -/

namespace HandsOver

variable {program : HostProgram ω} {level : Nat} {t : ThreadId} {rt : HandleId}
  {arguments : List Argument} {values : List Value} {s s' : State ω} {id : OpaqueId}

/-- A reference is handed over as what its value has always owned. -/
theorem forall₂ {start : State ω} {v : Value} (owned : start.view id = some v) (lasts : start.Outlasts s)
    (handed : HandsOver (program.host level) t rt arguments values s s') :
    List.Forall₂ (fun a w => a = .reference id → w = v) arguments values := by
  induction handed with
  | nil => exact .nil
  | reference still others ih =>
    refine .cons ?_ (ih lasts)
    rintro ⟨⟩
    exact lasts.eq_of_view owned still
  | @primitive p fits w rest vs s s₁ s' boxed others ih =>
    exact .cons (fun absurd => nomatch absurd) (ih (Upkeep.trans lasts (.of_boxed boxed)))

/-- A value that has been released is not handed over. -/
theorem not_mem_of_gone (handed : HandsOver (program.host level) t rt arguments values s s')
    (made : id.index < s.owned.length) (gone : s.view id = none) : .reference id ∉ arguments := by
  induction handed with
  | nil => exact List.not_mem_nil
  | reference owned others ih =>
    rw [List.mem_cons]
    rintro (same | later)
    · cases same
      rw [gone] at owned
      cases owned
    · exact ih made gone later
  | @primitive p fits w rest vs s s₁ s' boxed others ih =>
    have kept := State.Outlasts.of_boxed boxed
    rw [List.mem_cons]
    rintro (same | later)
    · cases same
    · exact ih (Nat.lt_of_lt_of_le made kept.length) (kept.gone made gone) later

end HandsOver

/-- Is it the boxing of something that is passed by value? -/
def Call.BoxesPrimitive (call : Call) : Prop := ∃ p, call = .box (.ofScalar p)

/-- A call ends with a fault before its function is reached. Only primitives are boxed until then. If no boxing
fails and the handle is still live, it ends as an argument has been released. -/
def State.EndsEarly {α : Type} (level : Nat) (t : ThreadId) (rt : HandleId) (arguments : List Argument)
    (s : State ω) (came : Except Fault α × State ω) : Prop :=
  ∃ fault calls, came.1 = .error fault ∧ s.Makes level calls came.2 ∧ (∀ c ∈ calls, c.1.BoxesPrimitive) ∧
    ((∀ c ∈ calls, c.2 = none) → came.2.Live t rt →
      fault = Action.releasedBefore ∧ ∃ id, .reference id ∈ arguments ∧ came.2.view id = none)

private theorem boxesPrimitive_of_mem {arguments : List Argument} {c : Call × Option Fault}
    (there : c ∈ boxings arguments) : c.1.BoxesPrimitive := by
  induction arguments with
  | nil => cases there
  | cons a rest ih =>
    cases a with
    | reference id => exact ih there
    | primitive p fits =>
      rcases List.mem_cons.mp there with rfl | later
      · exact ⟨p, rfl⟩
      · exact ih later

namespace Action

variable {program : HostProgram ω} {level : Nat} {t : ThreadId} {rt : HandleId} {s : State ω}
  {arguments : List Argument}

/-- Arguments are handed over, or some primitives are boxed before it ends with a fault. If no boxing failed
and the handle is still live, then an argument has been released. -/
theorem allToHost_calls (program : HostProgram ω) (level : Nat) (t : ThreadId) (rt : HandleId)
    (arguments : List Argument) (s : State ω) :
    (∃ values s', HandsOver (program.host level) t rt arguments values s s' ∧
      (allToHost (program.host level) rt arguments).runOn t s = (.ok values, s')) ∨
    s.EndsEarly level t rt arguments ((allToHost (program.host level) rt arguments).runOn t s) := by
  rcases allToHost_cases (program.host level) t rt arguments s with
    handed | ⟨before, a, after, values, s₁, fault, s', rfl, handed, failed, ran⟩
  · exact .inl handed
  refine .inr ?_
  rw [ran]
  have boxes : ∀ c ∈ boxings before, c.1.BoxesPrimitive := fun c there => boxesPrimitive_of_mem there
  cases a with
  | reference id =>
    cases owned : s₁.view id with
    | some v =>
      rw [toHost, runOn_reference_of_owned owned] at failed
      cases failed
    | none =>
      rw [toHost, runOn_reference_of_released owned] at failed
      cases failed
      refine ⟨_, boxings before, rfl, handed.makes, boxes, fun _ _ => ⟨rfl, id, ?_, owned⟩⟩
      exact List.mem_append_right _ List.mem_cons_self
  | primitive p fits =>
    have crossed := cross_cases program level t s₁ rt (.box (.ofScalar p))
    rw [show (cross (program.host level) rt (.box (.ofScalar p))).runOn t s₁ = (.error fault, s') from failed]
      at crossed
    rcases crossed with ⟨-, made⟩ | ⟨lost, message, refused⟩
    · refine ⟨fault, _, rfl, handed.makes.trans made, fun c there => ?_, fun none _ => ?_⟩
      · rcases List.mem_append.mp there with earlier | last
        · exact boxes c earlier
        · rw [List.mem_singleton.mp last]
          exact ⟨p, rfl⟩
      · cases none _ (List.mem_append_right _ List.mem_cons_self)
    · cases refused
      exact ⟨_, boxings before, rfl, handed.makes, boxes, fun _ live => (lost live).elim⟩

/-- A call that has its handle reaches the method with the arguments handed over, or it ends early. -/
theorem callThrough_calls (program : HostProgram ω) (level : Nat) (t : ThreadId) (rt : HandleId)
    (target : Value) (arguments : List Argument) (s : State ω) :
    let came := (callThrough (program.host level) target arguments rt).runOn t s
    (∃ values s' fault?, HandsOver (program.host level) t rt arguments values s s' ∧
      s.Makes level (boxings arguments ++ [(.invoke target "invoke" values, fault?)]) came.2) ∨
    s.EndsEarly level t rt arguments came := by
  rcases allToHost_calls program level t rt arguments s with
    ⟨values, s', handed, ran⟩ | early
  · have went : (callThrough (program.host level) target arguments rt).runOn t s =
        (cross (program.host level) rt (.invoke target "invoke" values)).runOn t s' := by
      rw [callThrough, runOn_bind, ran]
      rfl
    rw [went]
    rcases cross_cases program level t s' rt (.invoke target "invoke" values) with
      ⟨-, made⟩ | ⟨lost, message, refused⟩
    · exact .inl ⟨values, s', _, handed, handed.makes.trans made⟩
    · rw [refused]
      exact .inr ⟨_, boxings arguments, rfl, handed.makes, fun c there => boxesPrimitive_of_mem there,
        fun _ live => (lost live).elim⟩
  · obtain ⟨fault, calls, failed, made, boxes, ends⟩ := early
    have ran : (allToHost (program.host level) rt arguments).runOn t s =
        (.error fault, ((allToHost (program.host level) rt arguments).runOn t s).2) := Prod.ext failed rfl
    have went : (callThrough (program.host level) target arguments rt).runOn t s =
        (.error fault, ((allToHost (program.host level) rt arguments).runOn t s).2) := by
      rw [callThrough, runOn_bind, ran]
    rw [went]
    exact .inr ⟨fault, calls, rfl, made, boxes, ends⟩

end Action

end HostBridge
