import HostBridge.Proofs.Hosting

/-!
# Stretches of the journal

What is added to the journal while something runs. If the events of calls that nest inside are admitted,
then so is all that the host comes to do in them. Calls that nest inside of others are of a lower level, so
the calls of one level that a computation makes can be told apart from what hosts do in them.
-/

namespace HostBridge

variable {ω : Type}

/-- The journal grows by a stretch of admitted events. -/
def State.Adds (admitted : Event → Prop) (s s' : State ω) : Prop :=
  ∃ trail, s'.journal = trail ++ s.journal ∧ ∀ e ∈ trail, admitted e

namespace State.Adds

open HostBridge.Action (Keeps)

variable {admitted : Event → Prop} {s s' s'' : State ω}

private theorem of_eq (journal : s'.journal = s.journal) : Adds admitted s s' := by
  refine ⟨[], journal, ?_⟩
  intro e he
  cases he

private theorem trans (first : Adds admitted s s') (second : Adds admitted s' s'') : Adds admitted s s'' := by
  obtain ⟨trail, grown, all⟩ := first
  obtain ⟨trail', grown', all'⟩ := second
  refine ⟨trail' ++ trail, ?_, ?_⟩
  · rw [grown', grown, List.append_assoc]
  · intro e he
    rcases List.mem_append.mp he with late | early
    · exact all' e late
    · exact all e early

instance : Course (Adds (ω := ω) admitted) where
  silent silent := of_eq silent.journal
  trans := trans

/-- An admitted event may be noted. -/
theorem noting (s : State ω) {e : Event} (ok : admitted e) : Adds admitted s (s.noting e) := by
  refine ⟨[e], rfl, ?_⟩
  intro e' he'
  rw [List.mem_singleton.mp he']
  exact ok

/-- Stretches are loose if the notes that do not belong to calls are admitted. -/
theorem loose (opened : ∀ id, admitted (.opened id)) (forgotten : ∀ t, admitted (.forgotten t)) :
    Loose (Adds (ω := ω) admitted) where
  updating _ _ _ := of_eq rfl
  handling _ _ := of_eq rfl
  opened s id := noting s (opened id)
  forgotten s t := noting s (forgotten t)

variable {program : HostProgram ω} {answer : Request → Action ω Value} {inner : Nat}

/-- Serving a call adds what its answers add, and the two notes of the call. -/
theorem serve (answers : Answers Operation.Any (Adds admitted) answer) {through? : Option HandleId}
    {b : BackendId} {call : Call}
    (called : ∀ t, admitted (.called ⟨t, b, call, through?, inner⟩))
    (returned : ∀ t fault?, admitted (.returned ⟨t, b, call, through?, inner⟩ fault?)) :
    Keeps (Adds admitted) (program.serve answer inner through? b call) := by
  intro t s
  obtain ⟨result, e, worked, served⟩ := program.runOn_serve_keeps inner answers through? b call t s
    (Reply.uses_any _)
  rw [served]
  exact ((noting s (called t)).trans worked).trans (noting e (returned t _))

end State.Adds

/-! ### The calls of one level -/

namespace Event

/-- The call of this level that came back, with the fault that it came back with. -/
def madeAt? (level : Nat) : Event → Option (Call × Option Fault)
  | .returned c fault? => if c.level = level then some (c.call, fault?) else none
  | _ => none

end Event

/-- The calls of a level that came back in a stretch of the journal, earliest first. -/
def callsAt (level : Nat) (trail : List Event) : List (Call × Option Fault) :=
  (trail.filterMap (Event.madeAt? level)).reverse

/-- The journal grows by a stretch in which just these calls of a level come back. -/
def State.Makes (level : Nat) (calls : List (Call × Option Fault)) (s s' : State ω) : Prop :=
  ∃ trail, s'.journal = trail ++ s.journal ∧ callsAt level trail = calls

namespace State.Makes

variable {level : Nat} {calls calls' : List (Call × Option Fault)} {s s' s'' : State ω}

/-- A journal that stays has no new calls. -/
theorem of_eq (journal : s'.journal = s.journal) : Makes level [] s s' := ⟨[], journal, rfl⟩

/-- The calls of one stretch are followed by those of the next. -/
theorem trans (first : Makes level calls s s') (second : Makes level calls' s' s'') :
    Makes level (calls ++ calls') s s'' := by
  obtain ⟨trail, grown, rfl⟩ := first
  obtain ⟨trail', grown', rfl⟩ := second
  refine ⟨trail' ++ trail, ?_, ?_⟩
  · rw [grown', grown, List.append_assoc]
  · rw [callsAt, callsAt, callsAt, List.filterMap_append, List.reverse_append]

/-- Only the journal matters for what was called. -/
theorem to_eq (made : Makes level calls s s') (journal : s''.journal = s'.journal) :
    Makes level calls s s'' := by
  obtain ⟨trail, grown, all⟩ := made
  exact ⟨trail, journal.trans grown, all⟩

/-- A stretch without calls of the level. -/
theorem of_adds (adds : Adds (fun e => e.madeAt? level = none) s s') : Makes level [] s s' := by
  obtain ⟨trail, grown, none⟩ := adds
  refine ⟨trail, grown, ?_⟩
  rw [callsAt, List.filterMap_eq_nil_iff.mpr none, List.reverse_nil]

instance : Loose (Adds (ω := ω) fun e => e.madeAt? level = none) :=
  Adds.loose (fun _ => rfl) fun _ => rfl

/-- What happens inside of the calls of a level makes no calls of that level. -/
theorem answers (program : HostProgram ω) (level : Nat) :
    Answers Operation.Any (Adds fun e => e.madeAt? level = none) (program.answers level) := by
  refine HostProgram.answers_keep (fun answer inner below answers => ?_) level (Nat.le_refl level)
  refine Loose.keepsTo fun _ _ _ => Adds.serve answers (fun _ => rfl) fun _ _ => ?_
  exact if_neg (Nat.ne_of_lt below)

/-- A call to the host is the one call of its level. -/
theorem host (program : HostProgram ω) (level : Nat) (through? : Option HandleId) (b : BackendId)
    (call : Call) (t : ThreadId) (s : State ω) :
    let came := (program.host level through? b call).runOn t s
    Makes level [(call, Fault.of? came.1)] s came.2 := by
  rw [HostProgram.host_eq_serve]
  obtain ⟨result, e, worked, served⟩ := program.runOn_serve_keeps level (answers program level)
    through? b call t s (Reply.uses_any _)
  rw [served]
  have within : Makes level [] (s.noting (.called ⟨t, b, call, through?, level⟩)) e := of_adds worked
  have called : Makes level [] s (s.noting (.called ⟨t, b, call, through?, level⟩)) := ⟨[_], rfl, rfl⟩
  have returned : Makes level [(call, Fault.of? result)] e
      (e.noting (.returned ⟨t, b, call, through?, level⟩ (Fault.of? result))) := by
    refine ⟨[_], rfl, ?_⟩
    simp [callsAt, Event.madeAt?]
  exact (called.trans within).trans returned

end State.Makes

end HostBridge
