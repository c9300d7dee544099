import HostBridge.Proofs.HandleInvariant
import HostBridge.Proofs.Reentry

/-!
# One live handle per thread

Every operation but the bare detaching of a handle keeps the invariant of the handles, and leaves no
thread attaching that was not: attaching ends with the call that began it, however it ends. A thread that
tries to attach while it attaches is refused on the spot.
-/

namespace HostBridge

variable {ω : Type}

/-- The invariant is kept, and no thread begins or stops to attach for good. -/
def Orderly (s s' : State ω) : Prop :=
  s.Ordered → s'.Ordered ∧ ∀ t, (s'.attachments t).attaching = (s.attachments t).attaching

instance : Course (Orderly (ω := ω)) where
  silent silent h := ⟨h.of_silent silent, fun t => by rw [silent.attachments]⟩
  trans first second h := by
    obtain ⟨between, same⟩ := first h
    obtain ⟨after, same'⟩ := second between
    exact ⟨after, fun t => (same' t).trans (same t)⟩

/-- Any operation but the detaching of a handle behind the back of its thread. -/
def Operation.SparesHandles : Operation → Prop
  | .detachHandle _ => False
  | _ => True

namespace Orderly

open HostBridge.Action (Keeps)

variable {program : HostProgram ω} {answer : Request → Action ω Value} {level : Nat}

private theorem serve (answers : Answers Operation.SparesHandles Orderly answer)
    (uses : program.Uses Operation.SparesHandles) {call : Call} (plain : call.isAttach = false)
    (through? : Option HandleId) (b : BackendId) :
    Keeps Orderly (program.serve answer level through? b call) := by
  intro t s h
  have started : (s.noting (.called ⟨t, b, call, through?, level⟩)).Ordered :=
    h.noting (fun _ => by simp [Event.attaches, plain]) fun _ => rfl
  obtain ⟨result, e, worked, served⟩ := program.runOn_serve_keeps level answers through? b call t s
    (uses s.view t b call s.world)
  rw [served]
  obtain ⟨ordered, flags⟩ := worked started
  exact ⟨ordered.noting (fun _ => rfl) fun _ => rfl, flags⟩

private theorem flags_of_settled {s s₁ e e' : State ω} {t : ThreadId} {a a' : Attachment}
    (none : s.attachments t = .none) (begun : s₁.attachments = (s.setAttachment t a).attachments)
    (worked : ∀ u, (e.attachments u).attaching = (s₁.attachments u).attaching)
    (settled : e'.attachments = (e.setAttachment t a').attachments) (still : a'.attaching = false) :
    ∀ u, (e'.attachments u).attaching = (s.attachments u).attaching := by
  intro u
  rw [settled]
  by_cases hu : u = t
  · subst hu
    rw [State.attachments_setAttachment_self, none, still]
    rfl
  · rw [State.attachments_setAttachment_other _ _ hu, worked, begun,
      State.attachments_setAttachment_other _ _ hu]

private theorem attachThread (answers : Answers Operation.SparesHandles Orderly answer)
    (uses : program.Uses Operation.SparesHandles) {t : ThreadId} {s : State ω} (h : s.Ordered)
    (none : s.attachments t = .none) :
    let s' := ((Action.attachThread (program.serve answer level)).runOn t s).2
    s'.Ordered ∧ ∀ u, (s'.attachments u).attaching = (s.attachments u).attaching := by
  obtain ⟨b, begun⟩ := Action.runOn_beginAttach none
  generalize hs₁ : ({ s.setAttachment t .busy with installed? := some b } : State ω) = s₁ at begun
  have started : (s₁.noting (.called ⟨t, b, .attach, .none, level⟩)).Ordered := by
    subst hs₁
    exact (h.attaching none rfl rfl).of_silent ⟨rfl, rfl, rfl⟩
  obtain ⟨result, e, worked, served⟩ := program.runOn_serve_keeps level answers .none b .attach t s₁
    (uses s₁.view t b .attach s₁.world)
  obtain ⟨worked, flags⟩ := worked started
  have marked : s₁.attachments = (s.setAttachment t .busy).attachments := by
    subst hs₁
    rfl
  have busy : e.attachments t = .busy := by
    apply worked.busy
    rw [flags, State.attachments_noting, marked, State.attachments_setAttachment_self]
    rfl
  cases result with
  | ok v =>
    obtain ⟨l, ran⟩ := Action.runOn_attachThread_ok begun served busy
    rw [ran]
    refine ⟨?_, flags_of_settled none marked flags rfl rfl⟩
    exact ((worked.noting (fun _ => rfl) fun _ => rfl).attached busy b).of_silent ⟨rfl, rfl, rfl⟩
  | error reason =>
    obtain ⟨l, ran⟩ := Action.runOn_attachThread_error begun served busy
    rw [ran]
    refine ⟨?_, flags_of_settled none marked flags rfl rfl⟩
    exact (worked.failed busy (Action.attachFault reason) _ _).of_silent ⟨rfl, rfl, rfl⟩

private theorem currentRuntime (answers : Answers Operation.SparesHandles Orderly answer)
    (uses : program.Uses Operation.SparesHandles) :
    Keeps Orderly (Action.currentRuntime (program.serve answer level)) :=
  Keeps.currentRuntime_of_attachThread fun none h => attachThread answers uses h none

private theorem flags_of_forgotten {s s' : State ω} {t : ThreadId}
    (forgotten : s'.attachments = (s.setAttachment t
      { s.attachments t with handle? := none, failure? := none }).attachments) :
    ∀ u, (s'.attachments u).attaching = (s.attachments u).attaching := by
  intro u
  rw [forgotten]
  by_cases hu : u = t
  · subst hu
    rw [State.attachments_setAttachment_self]
  · rw [State.attachments_setAttachment_other _ _ hu]

private theorem detachRuntime (lines : TakesLines answer) (detaches : program.DetachesDirectly) :
    Keeps Orderly (Action.detachRuntime (program.serve answer level)) := by
  intro t s h
  cases handle : (s.attachments t).handle? with
  | none =>
    rw [Action.runOn_detachRuntime_of_none _ handle]
    refine ⟨?_, flags_of_forgotten rfl⟩
    exact h.forgotten t s.handles (h.not_live handle) fun _ _ _ => Iff.rfl
  | some id =>
    obtain ⟨found, at_id, owner, live⟩ := (h.cached t id).mp handle
    rw [Action.runOn_detachRuntime_of_handle _ handle]
    have passed := Action.runOn_checked_of_live (s := (s.setAttachment t
      { s.attachments t with handle? := none, failure? := none }).noting (.forgotten t))
      at_id live owner
    obtain ⟨result, w, l, ⟨v, ok⟩, served⟩ := program.runOn_serve_of_direct level lines
      (some id) (s := (s.setAttachment t
        { s.attachments t with handle? := none, failure? := none }).noting (.forgotten t))
      (detaches s.view t found.backend s.world)
    subst ok
    obtain ⟨l', ran⟩ := Action.runOn_detachHandle_ok passed served
    rw [ran]
    refine ⟨?_, flags_of_forgotten rfl⟩
    have closed := h.forgotten_closing ⟨found, at_id, owner, live⟩
    have called := closed.noting (e := .called ⟨t, found.backend, .detach, some id, level⟩)
      (fun _ => by simp [Event.attaches, Call.isAttach]) fun _ => rfl
    have returned := called.noting (e := .returned ⟨t, found.backend, .detach, some id, level⟩ none)
      (fun _ => rfl) fun _ => rfl
    exact returned.of_silent ⟨rfl, rfl, rfl⟩

/-- Everything at the border is orderly. -/
theorem keepsTo (detaches : program.DetachesDirectly) (uses : program.Uses Operation.SparesHandles)
    (answers : Answers Operation.SparesHandles Orderly answer) :
    (program.serve answer level).KeepsTo Operation.SparesHandles Orderly where
  currentRuntime := currentRuntime answers uses
  detachRuntime := detachRuntime answers.lines detaches
  cross id _ primitive := Keeps.cross (serve answers uses (Call.isAttach_of_isPrimitive primitive) (some id))
  invokeStatic id _ _ _ :=
    Keeps.invokeStatic (serve answers uses rfl (some id)) fun b _ => serve answers uses rfl (some id) b
  detachHandle _ spared := spared.elim

end Orderly

/-- Every thread has at most one live handle. It is told so and is given that very handle, it has been
asked to attach at most once since it last detached, and it is not attaching. -/
structure State.OneHandleEach (host : Host ω) (s : State ω) : Prop where
  unique : ∀ t id id', s.Live t id → s.Live t id' → id = id'
  told : ∀ t, ∃ b, Action.hasRuntime.runOn t s = (.ok b, s) ∧ (b = true ↔ ∃ id, s.Live t id)
  given : ∀ t id, s.Live t id → (Action.currentRuntime host).runOn t s = (.ok id, s)
  once : ∀ t window, window <:+: s.journal → (∀ e ∈ window, e.forgets t = false) →
    window.countP (Event.attaches t) ≤ 1
  settled : ∀ t, (s.attachments t).attaching = false

/-- The invariant says so, once no thread is attaching. -/
theorem State.Ordered.oneHandleEach {s : State ω} (h : s.Ordered)
    (settled : ∀ t, (s.attachments t).attaching = false) (host : Host ω) : s.OneHandleEach host where
  unique t id id' live live' := h.unique live live'
  told t := by
    refine ⟨(s.attachments t).handle?.isSome, by simp [Action.hasRuntime, Except.map], ?_⟩
    rw [Option.isSome_iff_exists]
    exact exists_congr (h.cached t)
  given t id live := Action.runOn_currentRuntime_of_handle host ((h.cached t id).mpr live)
  once t window inside kept := by
    obtain ⟨later, earlier, split⟩ := inside
    have suffix : window ++ earlier <:+ s.journal := ⟨later, by rw [← split, List.append_assoc]⟩
    exact Nat.le_trans (countP_le_attempts window earlier kept) (h.once t _ suffix)
  settled := settled

/-- One live handle for each thread, in every state that threads reach by taking turns with a program
that detaches directly, as long as no handle is detached behind the back of its thread. An attach cannot
be entered again, wherever it begins. -/
theorem one_live_handle_per_thread (program : HostProgram ω) (detaches : program.DetachesDirectly)
    (uses : program.Uses Operation.SparesHandles) (limit : Nat) (store : Config.Store) (world : ω) :
    (∀ s, (program.host limit).Reaches Operation.SparesHandles (State.initial store world) s →
      s.OneHandleEach (program.host limit)) ∧
    ∀ level t s, s.attachments t = .none → program.RefusesReentry level t s := by
  refine ⟨fun s reached => ?_, fun level t s none => program.refusesReentry level none⟩
  have keeps := HostProgram.host_keepsTo
    (fun _ _ answers => Orderly.keepsTo detaches uses answers) limit
  obtain ⟨ordered, same⟩ := keeps.reaches reached (State.Ordered.initial store world)
  exact ordered.oneHandleEach same _

/-- A host that asks for the handle of the thread it is attaching, and goes on without it. -/
def impatientHost : HostProgram Unit := fun _ _ _ call w => match call with
  | .attach => .callBack w (.perform .currentRuntime) fun _ w => .answer w (.ok .nil)
  | _ => .answer w (.ok .nil)

/-- The impatient host after the main thread has asked for its handle. -/
def impatientRun : State Unit :=
  ((Operation.currentRuntime.run (impatientHost.host nestingLimit)).runOn .main
    (State.initial (.ofSettings .nil []) ())).2

/-- The impatient host attaches the main thread all the same. -/
theorem one_live_handle_per_thread_impatient :
    impatientRun.Live .main ⟨0⟩ ∧ impatientRun.OneHandleEach (impatientHost.host nestingLimit) ∧
      impatientHost.RefusesReentry nestingLimit .main (State.initial (.ofSettings .nil []) ()) := by
  have detaches : impatientHost.DetachesDirectly := fun _ _ _ _ => ⟨.nil, rfl⟩
  have uses : impatientHost.Uses Operation.SparesHandles := by
    intro view t b call w
    cases call with
    | attach => exact ⟨trivial, fun _ _ => trivial⟩
    | _ => trivial
  obtain ⟨everywhere, everytime⟩ := one_live_handle_per_thread impatientHost detaches uses
    nestingLimit (.ofSettings .nil []) ()
  have asks : Client.Uses Operation.SparesHandles (.perform .currentRuntime .finish) :=
    ⟨trivial, fun _ => trivial⟩
  refine ⟨⟨⟨defaultBackend, .main, false⟩, rfl, rfl, rfl⟩, everywhere _ ?_, everytime _ _ _ rfl⟩
  exact .turn .start asks (.performed (Prod.eta _).symm .here)

end HostBridge
