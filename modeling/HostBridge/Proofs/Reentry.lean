import HostBridge.Proofs.Attaching
import HostBridge.Proofs.Hosting

/-!
# Attempts to attach while attaching

A thread that is attaching stays so, whatever the host and the other threads do meanwhile, until the call
that began it comes back. Any attempt to attach it in between is refused and changes nothing.
-/

namespace HostBridge

variable {ω : Type}

/-- Threads in the middle of attaching stay there. -/
def Attending (s s' : State ω) : Prop :=
  ∀ t, s.attachments t = .busy → s'.attachments t = .busy

instance : Course (Attending (ω := ω)) where
  silent silent t busy := by
    rw [silent.attachments]
    exact busy
  trans first second t busy := second t (first t busy)

namespace Attending

open HostBridge.Action (Keeps)

variable {program : HostProgram ω} {answer : Request → Action ω Value} {level : Nat}

/-- A thread that has just been set keeps the others where they were. -/
theorem of_set {s s₁ e e' : State ω} {t : ThreadId} {a a' : Attachment}
    (free : s.attachments t ≠ .busy) (begun : s₁.attachments = (s.setAttachment t a).attachments)
    (worked : Attending s₁ e) (settled : e'.attachments = (e.setAttachment t a').attachments) :
    Attending s e' := by
  intro u busy
  have hu : u ≠ t := by
    rintro rfl
    exact free busy
  rw [settled, State.attachments_setAttachment_other _ _ hu]
  apply worked u
  rw [begun, State.attachments_setAttachment_other _ _ hu]
  exact busy

private theorem attaching_of_set {e e' : State ω} {t : ThreadId} {a' : Attachment}
    (settled : e'.attachments = (e.setAttachment t a').attachments) :
    (e'.attachments t).attaching = a'.attaching := by
  rw [settled, State.attachments_setAttachment_self]

private theorem serve (answers : Answers Operation.Any Attending answer) (through? : Option HandleId)
    (b : BackendId) (call : Call) :
    Keeps Attending (program.serve answer level through? b call) := by
  intro t s
  obtain ⟨result, e, worked, served⟩ := program.runOn_serve_keeps level answers through? b call t s
    (Reply.uses_any _)
  rw [served]
  exact worked

private theorem detachHandle (answers : Answers Operation.Any Attending answer) (id : HandleId) :
    Keeps Attending (Action.detachHandle (program.serve answer level) id) := by
  refine Keeps.bind (Keeps.discard (Keeps.cross fun b => serve answers (some id) b _)) fun _ => ?_
  refine Keeps.bind (fun _ _ _ busy => busy) fun _ => ?_
  exact Keeps.bind Keeps.thread fun _ => Keeps.debug _ _

private theorem detachRuntime (answers : Answers Operation.Any Attending answer) :
    Keeps Attending (Action.detachRuntime (program.serve answer level)) := by
  refine Keeps.detachRuntime (fun t s u busy => ?_) (detachHandle answers)
  rw [State.attachments_noting]
  by_cases hu : u = t
  · subst hu
    rw [State.attachments_setAttachment_self, busy]
    rfl
  · rw [State.attachments_setAttachment_other _ _ hu]
    exact busy

/-- An attach ends on a thread that is attaching no more, and leaves the others attaching. -/
theorem runOn_attachThread (answers : Answers Operation.Any Attending answer) {t : ThreadId}
    {s : State ω} (none : s.attachments t = .none) :
    let s' := ((Action.attachThread (program.serve answer level)).runOn t s).2
    Attending s s' ∧ (s'.attachments t).attaching = false := by
  obtain ⟨b, begun⟩ := Action.runOn_beginAttach none
  generalize hs₁ : ({ s.setAttachment t .busy with installed? := some b } : State ω) = s₁ at begun
  have marked : s₁.attachments = (s.setAttachment t .busy).attachments := by
    subst hs₁
    rfl
  have free : s.attachments t ≠ .busy := by
    rw [none]
    intro same
    cases same
  have worked : Attending s₁ ((program.serve answer level .none b .attach).runOn t s₁).2 :=
    serve answers .none b .attach t s₁
  cases served : (program.serve answer level .none b .attach).runOn t s₁ with
  | mk result e =>
  rw [served] at worked
  have busy : e.attachments t = .busy := by
    apply worked t
    rw [marked, State.attachments_setAttachment_self]
  cases result with
  | ok v =>
    obtain ⟨l, ran⟩ := Action.runOn_attachThread_ok begun served busy
    rw [ran]
    refine ⟨of_set free marked worked rfl, ?_⟩
    exact attaching_of_set (e := e.opening b t) rfl
  | error reason =>
    obtain ⟨l, ran⟩ := Action.runOn_attachThread_error begun served busy
    rw [ran]
    refine ⟨of_set free marked worked rfl, ?_⟩
    exact attaching_of_set (e := e) rfl

private theorem keepsTo (answers : Answers Operation.Any Attending answer) :
    (program.serve answer level).KeepsTo Operation.Any Attending where
  currentRuntime :=
    Keeps.currentRuntime_of_attachThread fun none => (runOn_attachThread answers none).1
  detachRuntime := detachRuntime answers
  cross id call _ := Keeps.cross fun b => serve answers (some id) b call
  invokeStatic id _ _ _ :=
    Keeps.invokeStatic (fun b => serve answers (some id) b _) fun b _ => serve answers (some id) b _
  detachHandle id _ := detachHandle answers id

private theorem answers (program : HostProgram ω) (level : Nat) :
    Answers Operation.Any Attending (program.answers level) :=
  program.answers_keep (fun _ _ _ h => keepsTo h) level (Nat.le_refl level)

/-- The host that a program makes attends to what is being attached. -/
theorem host (program : HostProgram ω) (level : Nat) (through? : Option HandleId) (b : BackendId)
    (call : Call) : Keeps Attending (program.host level through? b call) := by
  rw [program.host_eq_serve]
  exact serve (answers program level) through? b call

end Attending

/-- While a program works on attaching a thread, which begins in this state, any attempt to attach the
thread is refused at once and changes nothing; afterwards the thread is not attaching any more. -/
structure HostProgram.RefusesReentry (program : HostProgram ω) (level : Nat) (t : ThreadId)
    (s : State ω) : Prop where
  refused : ∀ b s₁, Action.beginAttach.runOn t s = (.ok b, s₁) →
    (program s₁.view t b .attach s₁.world).Throughout (program.answers level) t
      (fun s' => (s'.attachments t).attaching = true ∧
        ∀ host : Host ω, (Action.currentRuntime host).runOn t s' = (.error Action.attachReentered, s'))
      (s₁.noting (.called ⟨t, b, .attach, none, level⟩))
  ended : (((Action.currentRuntime (program.host level)).runOn t s).2.attachments t).attaching = false

/-- Attaching a thread with nothing attached cannot be entered again, in whatever state it begins. -/
theorem HostProgram.refusesReentry (program : HostProgram ω) (level : Nat) {t : ThreadId}
    {s : State ω} (none : s.attachments t = .none) : program.RefusesReentry level t s := by
  have answers := Attending.answers program level
  constructor
  · intro b s₁ begun
    obtain ⟨b', begun'⟩ := Action.runOn_beginAttach none
    have same : s₁ = { s.setAttachment t .busy with installed? := some b' } := by
      rw [begun] at begun'
      exact (Prod.mk.inj begun').2
    have busy : s₁.attachments t = .busy := by
      rw [same]
      exact s.attachments_setAttachment_self t .busy
    have always := Reply.throughout_of_keeps answers (P := fun s' => s'.attachments t = .busy)
      (fun _ _ kept => kept t) (program s₁.view t b .attach s₁.world) (Reply.uses_any _)
      (t := t) (s := s₁.noting (.called ⟨t, b, .attach, .none, level⟩)) busy
    refine always.mono fun s' busy => ⟨?_, fun host => ?_⟩
    · rw [busy]
      rfl
    · exact Action.runOn_currentRuntime_of_busy host busy
  · rw [Action.runOn_currentRuntime_of_none _ none, host_eq_serve]
    exact (Attending.runOn_attachThread answers none).2

end HostBridge
