import HostBridge.Proofs.Asking
import HostBridge.Proofs.HandleInvariant
import HostBridge.Proofs.Reentry
import HostBridge.Proofs.Stretch

/-!
# Attaches that failed

The fault of an attach that failed stays on the thread until the thread is told to detach, whatever other
threads and the hosts do meanwhile. As long as it stays, asking for the handle fails at once with a fault
that names it, and no backend is called. Once it is forgotten, asking makes one new attempt.
-/

namespace HostBridge

variable {ω : Type}

/-- A thread whose attach has failed. -/
def Attachment.failed (failure : Fault) : Attachment :=
  { handle? := .none, failure? := some failure, attaching := false }

/-- An attach of the thread came back with this fault, and since then the thread has not been told to
detach. -/
def State.AttachFailed (s : State ω) (t : ThreadId) (reason : Fault) : Prop :=
  ∃ since c before, s.journal = since ++ .returned c (some reason) :: before ∧ c.thread = t ∧
    c.call.isAttach = true ∧ ∀ e ∈ since, e.forgets t = false

/-- Every failed attach is recorded on its thread. -/
def State.Recorded (s : State ω) : Prop :=
  ∀ t reason, s.AttachFailed t reason → s.attachments t = .failed (Action.attachFault reason)

namespace State

variable {s s' : State ω} {t : ThreadId} {reason : Fault}

/-- At the start no attach has failed. -/
theorem recorded_initial (store : Config.Store) (world : ω) : (initial store world).Recorded := by
  rintro t reason ⟨since, c, before, split, -⟩
  cases since <;> cases split

private theorem Recorded.not_attachFailed (h : s.Recorded) {a : Attachment} (attached : s.attachments t = a)
    (other : ∀ failure, a ≠ .failed failure) : ¬ s.AttachFailed t reason :=
  fun failed => other _ (attached.symm.trans (h t reason failed))

/-- Only the journal says which attaches failed. -/
theorem attachFailed_congr (journal : s'.journal = s.journal) :
    s'.AttachFailed t reason ↔ s.AttachFailed t reason := by
  unfold AttachFailed
  rw [journal]

/-- An attach failed if it just came back with the fault, or had failed before an event that does not tell
the thread to detach. -/
theorem attachFailed_noting (e : Event) :
    (s.noting e).AttachFailed t reason ↔
      (∃ c, e = .returned c (some reason) ∧ c.thread = t ∧ c.call.isAttach = true) ∨
        e.forgets t = false ∧ s.AttachFailed t reason := by
  constructor
  · rintro ⟨since, c, before, split, thread, attach, kept⟩
    cases since with
    | nil =>
      obtain ⟨rfl, -⟩ := List.cons.inj split
      exact .inl ⟨c, rfl, thread, attach⟩
    | cons latest since =>
      obtain ⟨rfl, rest⟩ := List.cons.inj split
      refine .inr ⟨kept _ List.mem_cons_self, since, c, before, rest, thread, attach, ?_⟩
      exact fun e' there => kept e' (List.mem_cons_of_mem _ there)
  · rintro (⟨c, rfl, thread, attach⟩ | ⟨keeps, since, c, before, split, thread, attach, kept⟩)
    · exact ⟨[], c, s.journal, rfl, thread, attach, fun _ there => nomatch there⟩
    · refine ⟨e :: since, c, before, by rw [journal_noting, split]; rfl, thread, attach, ?_⟩
      intro e' there
      rcases List.mem_cons.mp there with rfl | earlier
      · exact keeps
      · exact kept e' earlier

/-! ### What keeps failed attaches recorded -/

private theorem Recorded.of_eq (h : s.Recorded) (attachments : s'.attachments = s.attachments)
    (journal : s'.journal = s.journal) : s'.Recorded := by
  intro t reason failed
  rw [attachments]
  exact h t reason ((attachFailed_congr journal).mp failed)

/-- Events other than an attach that comes back with a fault do not matter. -/
theorem Recorded.noting (h : s.Recorded) {e : Event}
    (other : ∀ c reason, e = .returned c (some reason) → c.call.isAttach = false) :
    (s.noting e).Recorded := by
  intro t reason failed
  rcases (attachFailed_noting e).mp failed with ⟨c, same, -, attach⟩ | ⟨-, failed⟩
  · rw [other c reason same] at attach
    cases attach
  · exact h t reason failed

private theorem Recorded.setAttachment (h : s.Recorded) (none : ∀ reason, ¬ s.AttachFailed t reason)
    (a : Attachment) : (s.setAttachment t a).Recorded := by
  intro u reason failed
  have failed : s.AttachFailed u reason := failed
  have other : u ≠ t := by
    rintro rfl
    exact none reason failed
  rw [attachments_setAttachment_other _ _ other]
  exact h u reason failed

private theorem Recorded.forgotten (h : s.Recorded) (t : ThreadId) (a : Attachment) :
    ((s.setAttachment t a).noting (.forgotten t)).Recorded := by
  intro u reason failed
  rcases (attachFailed_noting _).mp failed with ⟨c, same, -⟩ | ⟨kept, failed⟩
  · cases same
  · have other : u ≠ t := by
      rintro rfl
      simp [Event.forgets] at kept
    rw [attachments_noting, attachments_setAttachment_other _ _ other]
    exact h u reason failed

private theorem Recorded.failing (h : s.Recorded) (none : ∀ reason, ¬ s.AttachFailed t reason) {c : Crossing}
    (thread : c.thread = t) (reason : Fault) :
    ((s.noting (.returned c (some reason))).setAttachment t
      (.failed (Action.attachFault reason))).Recorded := by
  intro u reason' failed
  rcases (attachFailed_noting (s := s) _).mp failed with ⟨c', same, thread', -⟩ | ⟨-, before⟩
  · cases same
    obtain rfl : t = u := thread.symm.trans thread'
    exact attachments_setAttachment_self _ t _
  · have other : u ≠ t := by
      rintro rfl
      exact none reason' before
    rw [attachments_setAttachment_other _ _ other]
    exact h u reason' before

private theorem Recorded.succeeding (h : s.Recorded) (none : ∀ reason, ¬ s.AttachFailed t reason) (c : Crossing)
    (id : HandleId) (a : Attachment) :
    (((s.noting (.returned c .none)).setAttachment t a).noting (.opened id)).Recorded := by
  have returned : (s.noting (.returned c .none)).Recorded := h.noting fun _ _ same => nomatch same
  have unfailed : ∀ reason, ¬ (s.noting (.returned c .none)).AttachFailed t reason := by
    intro reason failed
    rcases (attachFailed_noting _).mp failed with ⟨_, same, -⟩ | ⟨-, failed⟩
    · cases same
    · exact none reason failed
  exact (returned.setAttachment unfailed a).noting fun _ _ same => nomatch same

end State

/-- Asking for the handle of a thread has made one attempt to attach it, through the backend that was
installed, or else the default one. It has either got the handle that the thread keeps, or the fault that
was recorded. -/
structure State.TriesOnce (s : State ω) (level : Nat) (t : ThreadId)
    (came : Except Fault HandleId × State ω) : Prop where
  once : ∃ trail, came.2.journal =
      trail ++ .called ⟨t, s.installed?.getD defaultBackend, .attach, none, level⟩ :: s.journal ∧
    ∀ e ∈ trail, e.attaches t = false
  ends : (∃ rt, came.1 = .ok rt ∧ (came.2.attachments t).handle? = some rt) ∨
    ∃ reason, came.1 = .error (Action.attachFault reason) ∧ came.2.AttachFailed t reason

/-! ### What everything keeps -/

/-- Failed attaches stay recorded. A thread that is attaching goes on and is not asked to attach meanwhile,
and one with nothing attached stays so until it is asked to attach. -/
structure Steady (s s' : State ω) : Prop where
  attending : Attending s s'
  recorded : s.Recorded → s'.Recorded
  trail : ∃ trail, s'.journal = trail ++ s.journal ∧ ∀ t,
    (s.attachments t = .busy → ∀ e ∈ trail, e.attaches t = false) ∧
    (s.attachments t = .none → (∀ e ∈ trail, e.attaches t = false) → s'.attachments t = .none)

instance : Course (Steady (ω := ω)) where
  silent silent := by
    refine ⟨Course.silent silent, fun h => h.of_eq silent.attachments silent.journal, [], silent.journal,
      fun t => ⟨fun _ => ?_, ?_⟩⟩
    · exact fun _ there => nomatch there
    · intro none _
      rw [silent.attachments, none]
  trans first second := by
    refine ⟨Course.trans first.attending second.attending, fun h => second.recorded (first.recorded h), ?_⟩
    obtain ⟨trail, grown, each⟩ := first.trail
    obtain ⟨trail', grown', each'⟩ := second.trail
    refine ⟨trail' ++ trail, by rw [grown', grown, List.append_assoc], fun t => ⟨fun busy e there => ?_, ?_⟩⟩
    · rcases List.mem_append.mp there with late | early
      · exact (each' t).1 (first.attending t busy) e late
      · exact (each t).1 busy e early
    · intro none unasked
      have between := (each t).2 none fun e there => unasked e (List.mem_append_right _ there)
      exact (each' t).2 between fun e there => unasked e (List.mem_append_left _ there)

namespace Steady

open HostBridge.Action (Keeps)

variable {program : HostProgram ω} {answer : Request → Action ω Value} {level : Nat} {s : State ω}

private theorem noting (s : State ω) {e : Event} (unasked : ∀ t, e.attaches t = false)
    (other : ∀ c reason, e = .returned c (some reason) → c.call.isAttach = false) :
    Steady s (s.noting e) := by
  refine ⟨fun t busy => busy, fun h => h.noting other, [e], rfl, fun t => ⟨fun _ e' there => ?_, ?_⟩⟩
  · rw [List.mem_singleton.mp there]
    exact unasked t
  · exact fun none _ => none

private theorem serve (answers : Answers Operation.Any Steady answer) {call : Call}
    (plain : call.isAttach = false) (through? : Option HandleId) (b : BackendId) :
    Keeps Steady (program.serve answer level through? b call) := by
  intro t s
  obtain ⟨result, e, worked, served⟩ := program.runOn_serve_keeps level answers through? b call t s
    (Reply.uses_any _)
  rw [served]
  refine Course.trans (noting s (fun _ => ?_) ?_) (Course.trans worked (noting e (fun _ => rfl) ?_))
  · simp [Event.attaches, plain]
  · intro c reason same
    cases same
  · intro c reason same
    obtain ⟨rfl, -⟩ := Event.returned.inj same
    exact plain

private theorem detachHandle (answers : Answers Operation.Any Steady answer) (id : HandleId) :
    Keeps Steady (Action.detachHandle (program.serve answer level) id) := by
  refine Keeps.bind (Keeps.discard (Keeps.cross (serve answers rfl (some id)))) fun _ => ?_
  refine Keeps.bind (fun t s => ⟨fun _ busy => busy, fun h => h, [], rfl, fun u => ⟨?_, ?_⟩⟩) fun _ => ?_
  · exact fun _ _ there => nomatch there
  · exact fun none _ => none
  · exact Keeps.bind Keeps.thread fun _ => Keeps.debug _ _

private theorem forgetting (t : ThreadId) (s : State ω) :
    Steady s ((s.setAttachment t { s.attachments t with handle? := none, failure? := none }).noting
      (.forgotten t)) := by
  have stays (a : Attachment) (same : { a with handle? := none, failure? := none } = a)
      {u : ThreadId} (there : s.attachments u = a) :
      (s.setAttachment t { s.attachments t with handle? := none, failure? := none }).attachments u = a := by
    by_cases hu : u = t
    · subst hu
      rw [State.attachments_setAttachment_self, there, same]
    · rw [State.attachments_setAttachment_other _ _ hu, there]
  refine ⟨fun u busy => stays .busy rfl busy, fun h => h.forgotten t _, [.forgotten t], rfl,
    fun u => ⟨?_, ?_⟩⟩
  · intro _ e there
    rw [List.mem_singleton.mp there]
    rfl
  · exact fun none _ => stays .none rfl none

private theorem detachRuntime (answers : Answers Operation.Any Steady answer) :
    Keeps Steady (Action.detachRuntime (program.serve answer level)) :=
  Keeps.detachRuntime forgetting (detachHandle answers)

private theorem of_attach {s s₁ e s' : State ω} {t : ThreadId} {c : Crossing} {a : Attachment} (since : List Event)
    (none : s.attachments t = .none) (asked : c.thread = t ∧ c.call.isAttach = true)
    (begun : s₁.attachments = (s.setAttachment t .busy).attachments) (before : s₁.journal = s.journal)
    (worked : Steady (s₁.noting (.called c)) e)
    (settled : s'.attachments = (e.setAttachment t a).attachments)
    (noted : s'.journal = since ++ e.journal) (unasked : ∀ u, ∀ e' ∈ since, e'.attaches u = false)
    (recorded : s.Recorded → s'.Recorded) : Steady s s' := by
  have free : s.attachments t ≠ .busy := by
    rw [none]
    exact fun same => by cases same
  obtain ⟨trail, grown, each⟩ := worked.trail
  refine ⟨Attending.of_set free begun worked.attending settled, recorded,
    since ++ (trail ++ [.called c]), ?_, fun u => ?_⟩
  · rw [noted, grown, State.journal_noting, before]
    simp
  by_cases hu : u = t
  · subst hu
    refine ⟨fun busy => (free busy).elim, fun _ unasked => ?_⟩
    have absurd := unasked (.called c) (by simp)
    simp [Event.attaches, asked] at absurd
  · have same : (s₁.noting (.called c)).attachments u = s.attachments u := by
      rw [State.attachments_noting, begun, State.attachments_setAttachment_other _ _ hu]
    refine ⟨fun busy e' there => ?_, fun none' none'' => ?_⟩
    · rcases List.mem_append.mp there with late | early
      · exact unasked u e' late
      · rcases List.mem_append.mp early with inside | first
        · exact (each u).1 (same.trans busy) e' inside
        · obtain rfl := List.mem_singleton.mp first
          simp [Event.attaches, asked.1, Ne.symm hu]
    · rw [settled, State.attachments_setAttachment_other _ _ hu]
      exact (each u).2 (same.trans none') fun e' there => none'' e' (by simp [there])

private theorem triesOnce {s s₁ e : State ω} {t : ThreadId} {b : BackendId} {came : Except Fault HandleId × State ω}
    (since : List Event) (chosen : s.installed?.getD defaultBackend = b) (before : s₁.journal = s.journal)
    (marked : s₁.attachments t = .busy)
    (worked : Steady (s₁.noting (.called ⟨t, b, .attach, none, level⟩)) e)
    (noted : came.2.journal = since ++ e.journal) (unasked : ∀ e' ∈ since, e'.attaches t = false)
    (ends : (∃ rt, came.1 = .ok rt ∧ (came.2.attachments t).handle? = some rt) ∨
      ∃ reason, came.1 = .error (Action.attachFault reason) ∧ came.2.AttachFailed t reason) :
    s.TriesOnce level t came := by
  obtain ⟨trail, grown, each⟩ := worked.trail
  refine ⟨⟨since ++ trail, ?_, fun e' there => ?_⟩, ends⟩
  · rw [noted, grown, State.journal_noting, before, chosen, List.append_assoc]
  · rcases List.mem_append.mp there with late | inside
    · exact unasked e' late
    · exact (each t).1 marked e' inside

private theorem attachThread (answers : Answers Operation.Any Steady answer) {t : ThreadId} {s : State ω}
    (none : s.attachments t = .none) :
    let came := (Action.attachThread (program.serve answer level)).runOn t s
    Steady s came.2 ∧ s.TriesOnce level t came := by
  have begun := Action.runOn_beginAttach_installed none
  generalize chosen : s.installed?.getD defaultBackend = b at begun
  generalize hs₁ : ({ s.setAttachment t .busy with installed? := some b } : State ω) = s₁ at begun
  have marked : s₁.attachments = (s.setAttachment t .busy).attachments := by rw [← hs₁]
  have before : s₁.journal = s.journal := by rw [← hs₁]; rfl
  obtain ⟨result, e, worked, served⟩ := program.runOn_serve_keeps level answers .none b .attach t s₁
    (Reply.uses_any _)
  have started : s₁.attachments t = .busy := by rw [marked, State.attachments_setAttachment_self]
  have busy : e.attachments t = .busy := worked.attending t started
  have recorded : s.Recorded → e.Recorded := by
    intro h
    refine worked.recorded (State.Recorded.noting ?_ fun _ _ same => nomatch same)
    exact (h.setAttachment (fun _ => h.not_attachFailed none fun _ => nofun) .busy).of_eq marked before
  have unfailed (h : e.Recorded) (reason : Fault) : ¬ e.AttachFailed t reason :=
    h.not_attachFailed busy fun _ => nofun
  -- Either way a few events are noted after the call has come back, none of them an attempt.
  cases result with
  | ok v =>
    obtain ⟨l, ran⟩ := Action.runOn_attachThread_ok begun served busy
    rw [ran]
    let since : List Event :=
      [.opened ⟨e.handles.length⟩, .returned ⟨t, b, .attach, .none, level⟩ .none]
    have unasked (u : ThreadId) : ∀ e' ∈ since, e'.attaches u = false := by simp [since, Event.attaches]
    constructor
    · refine of_attach since none ⟨rfl, rfl⟩ marked before worked (e := e) rfl rfl unasked fun h => ?_
      exact ((recorded h).succeeding (unfailed (recorded h)) _ _ _).of_eq rfl rfl
    · refine triesOnce since chosen before started worked rfl (unasked t) (.inl ⟨_, rfl, ?_⟩)
      exact congrArg Attachment.handle? (State.attachments_setAttachment_self _ t _)
  | error reason =>
    obtain ⟨l, ran⟩ := Action.runOn_attachThread_error begun served busy
    rw [ran]
    let since : List Event := [.returned ⟨t, b, .attach, .none, level⟩ (some reason)]
    have unasked (u : ThreadId) : ∀ e' ∈ since, e'.attaches u = false := by simp [since, Event.attaches]
    constructor
    · refine of_attach since none ⟨rfl, rfl⟩ marked before worked (e := e) rfl rfl unasked fun h => ?_
      exact ((recorded h).failing (unfailed (recorded h)) rfl reason).of_eq rfl rfl
    · refine triesOnce since chosen before started worked rfl (unasked t) (.inr ⟨_, rfl, ?_⟩)
      exact ⟨[], ⟨t, b, .attach, .none, level⟩, e.journal, rfl, rfl, rfl, fun _ there => nomatch there⟩

private theorem keepsTo (answers : Answers Operation.Any Steady answer) :
    (program.serve answer level).KeepsTo Operation.Any Steady where
  currentRuntime := Keeps.currentRuntime_of_attachThread fun none => (attachThread answers none).1
  detachRuntime := detachRuntime answers
  cross id _ primitive := Keeps.cross (serve answers (Call.isAttach_of_isPrimitive primitive) (some id))
  invokeStatic id _ _ _ :=
    Keeps.invokeStatic (serve answers rfl (some id)) fun b _ => serve answers rfl (some id) b
  detachHandle id _ := detachHandle answers id

/-- The answers to the requests of a program are steady. -/
theorem answers (program : HostProgram ω) (level : Nat) :
    Answers Operation.Any Steady (program.answers level) :=
  HostProgram.answers_keep (fun _ _ _ answers => keepsTo answers) level (Nat.le_refl level)

/-- The host that a program makes is steady. -/
theorem host (program : HostProgram ω) (level : Nat) : (program.host level).KeepsTo Operation.Any Steady :=
  HostProgram.host_keepsTo (fun _ _ answers => keepsTo answers) level

end Steady

/-- Where nothing is attached, asking for the handle tries once. -/
theorem HostProgram.triesOnce (program : HostProgram ω) (level : Nat) {t : ThreadId} {s : State ω}
    (none : s.attachments t = .none) :
    s.TriesOnce level t ((Action.currentRuntime (program.host level)).runOn t s) := by
  rw [Action.runOn_currentRuntime_of_none _ none, host_eq_serve]
  exact (Steady.attachThread (Steady.answers program level) none).2

/-! ### While a failure is recorded -/

/-- The thread is left with the fault of its failed attach. Asking for its handle fails with a fault that
names this one as its cause, and changes nothing. So does every operation that comes to ask, and no other
operation without a handle of its own reaches a backend. Told to detach, the thread says that it had no
handle, and has nothing attached after that. -/
structure State.Sticks (s : State ω) (t : ThreadId) (failure : Fault) : Prop where
  kept : s.attachments t = .failed failure
  attachment : failure.kind? = some .attachment
  asked : ∀ host : Host ω,
    (Action.currentRuntime host).runOn t s = (.error (Action.attachedBefore failure), s)
  within : ∀ (host : Host ω) {α : Type} (body : HandleId → Action ω α),
    (Action.withRuntime host body).runOn t s = (.error (Action.attachedBefore failure), s)
  refused : ∀ (host : Host ω) (op : Operation), op.Asks s → ∃ s', s.Hushed s' ∧
    (op.run host).runOn t s = (.error (Action.attachedBefore failure), s')
  silent : ∀ (host : Host ω) (op : Operation), op.through? = none → op ≠ .detachRuntime →
    s.Silent ((op.run host).runOn t s).2
  forgotten : ∀ host : Host ω, (Action.detachRuntime host).runOn t s =
    (.ok false, (s.setAttachment t .none).noting (.forgotten t))

/-- A failed attach is reported with a fault of that kind. -/
theorem Action.kind_attachFault (reason : Fault) : (attachFault reason).kind? = some .attachment := by
  unfold attachFault
  split <;> rfl

private theorem Action.AsksFirst.refused {α : Type} {host : Host ω} {t : ThreadId} {s : State ω} {p : Action ω α}
    {fault : Fault} (asks : AsksFirst host t s p) (kind : fault.kind? = some .attachment)
    (fails : ∀ s₁, s.Hushed s₁ → (Action.currentRuntime host).runOn t s₁ = (.error fault, s₁)) :
    ∃ s₁, s.Hushed s₁ ∧ p.runOn t s = (.error fault, s₁) := by
  obtain ⟨s₁, rest, hushed, ran, ends⟩ := asks
  refine ⟨s₁, hushed, ?_⟩
  rw [ran, runOn_bind, runOn_outcome, fails s₁ hushed]
  exact ends fault s₁ kind

/-- A recorded failure sticks. -/
theorem State.Recorded.sticks {s : State ω} (h : s.Recorded) {t : ThreadId} {reason : Fault}
    (failed : s.AttachFailed t reason) : s.Sticks t (Action.attachFault reason) := by
  have kept := h t reason failed
  have asked {s₁ : State ω} (same : s₁.attachments = s.attachments) (host : Host ω) :
      (Action.currentRuntime host).runOn t s₁ =
        (.error (Action.attachedBefore (Action.attachFault reason)), s₁) := by
    apply Action.runOn_currentRuntime_of_failure
    · rw [same, kept]
      rfl
    · rw [same, kept]
      rfl
  refine ⟨kept, Action.kind_attachFault reason, asked rfl, ?_, ?_, ?_, ?_⟩
  · intro host α body
    rw [Action.withRuntime, Action.runOn_bind, asked rfl host]
  · intro host op asks
    exact (Operation.asksFirst host t asks).refused rfl fun s₁ hushed => asked hushed.still.attachments host
  · intro host op own detaches
    by_cases asks : op.Asks s
    · obtain ⟨s₁, hushed, ran⟩ := (Operation.asksFirst host t asks).refused rfl
        fun s₁ hushed => asked hushed.still.attachments host
      rw [ran]
      exact hushed.still.silent
    · exact Operation.silent_of_not_asks host t asks own detaches
  · intro host
    rw [Action.runOn_detachRuntime_of_none host (by rw [kept]; rfl), kept]
    rfl

/-! ### Every run -/

/-- All failed attaches stick. -/
def State.AllStick (s : State ω) : Prop :=
  ∀ t reason, s.AttachFailed t reason → s.Sticks t (Action.attachFault reason)

private theorem State.Recorded.allStick {s : State ω} (h : s.Recorded) : s.AllStick :=
  fun _ _ failed => h.sticks failed

/-- A failed attach sticks until the thread is told to detach, in every state that threads reach by taking
turns and wherever hosts work in between. Once it is forgotten, the thread has nothing attached until it is
asked to attach again; then asking for its handle makes one attempt, and so does every operation that comes
to ask. -/
theorem failed_attach_sticks (program : HostProgram ω) (limit : Nat) (store : Config.Store) (world : ω) :
    (∀ s, (program.host limit).Reaches Operation.Any (.initial store world) s →
      s.AllStick ∧
      ∀ t reason s', s.AttachFailed t reason →
        (program.host limit).Reaches Operation.Any ((s.setAttachment t .none).noting (.forgotten t)) s' →
        ((s.setAttachment t .none).noting (.forgotten t)).Adds (fun e => e.attaches t = false) s' →
        s'.attachments t = .none) ∧
    (∀ level through? b call t (s : State ω), s.Recorded →
      (program s.view t b call s.world).Throughout (program.answers level) t State.AllStick
        (s.noting (.called ⟨t, b, call, through?, level⟩))) ∧
    ∀ level t (s : State ω), s.attachments t = .none →
      s.TriesOnce level t ((Action.currentRuntime (program.host level)).runOn t s) ∧
      ∀ op : Operation, op.Asks s →
        Action.AsksFirst (program.host level) t s (op.run (program.host level)) := by
  refine ⟨fun s reached => ⟨?_, ?_⟩, ?_, ?_⟩
  · exact (((Steady.host program limit).reaches reached).recorded
      (State.recorded_initial store world)).allStick
  · intro t reason s' failed onward unasked
    obtain ⟨trail, grown, each⟩ := ((Steady.host program limit).reaches onward).trail
    obtain ⟨trail', grown', free⟩ := unasked
    obtain rfl : trail' = trail := List.append_cancel_right (grown'.symm.trans grown)
    refine (each t).2 ?_ free
    rw [State.attachments_noting, State.attachments_setAttachment_self]
  · intro level through? b call t s h
    have always := Reply.throughout_of_keeps (Steady.answers program level) (P := State.Recorded)
      (fun _ _ kept => kept.recorded) (program s.view t b call s.world) (Reply.uses_any _) (t := t)
      (s := s.noting (.called ⟨t, b, call, through?, level⟩)) (h.noting fun _ _ same => nomatch same)
    exact always.mono fun _ recorded => recorded.allStick
  · intro level t s none
    exact ⟨program.triesOnce level none, fun op asks => Operation.asksFirst _ t asks⟩

/-- A host that cannot be attached to. -/
def refusingHost : HostProgram Unit := fun _ _ _ call w => match call with
  | .attach => .answer w (.error (.standard .os "No host"))
  | _ => .answer w (.ok .nil)

/-- The refusing host after the main thread has asked for its handle. -/
def refusedRun : State Unit :=
  ((Operation.currentRuntime.run (refusingHost.host nestingLimit)).runOn .main
    (State.initial (.ofSettings .nil []) ())).2

/-- The refusing host is asked once, and once more after the main thread was told to detach. -/
theorem failed_attach_sticks_refusing :
    refusedRun.AttachFailed .main (.standard .os "No host") ∧
      refusedRun.Sticks .main (Action.attachFault (.standard .os "No host")) ∧
      let forgotten := (refusedRun.setAttachment .main .none).noting (.forgotten .main)
      forgotten.attachments .main = .none ∧ forgotten.TriesOnce nestingLimit .main
        ((Action.currentRuntime (refusingHost.host nestingLimit)).runOn .main forgotten) := by
  have failed : refusedRun.AttachFailed .main (.standard .os "No host") :=
    ⟨[], ⟨.main, defaultBackend, .attach, none, nestingLimit⟩, _, rfl, rfl, rfl, fun _ there => nomatch there⟩
  have reached : (refusingHost.host nestingLimit).Reaches Operation.Any
      (.initial (.ofSettings .nil []) ()) refusedRun := by
    have uses : Client.Uses Operation.Any (.perform .currentRuntime .finish) := ⟨trivial, fun _ => trivial⟩
    exact .turn (t := .main) .start uses (.performed (Prod.eta _).symm .here)
  obtain ⟨everywhere, -, once⟩ := failed_attach_sticks refusingHost nestingLimit (.ofSettings .nil []) ()
  obtain ⟨sticks, freed⟩ := everywhere refusedRun reached
  have none := freed .main _ _ failed .start (Course.refl _)
  exact ⟨failed, sticks .main _ failed, none, (once nestingLimit .main _ none).1⟩

end HostBridge
