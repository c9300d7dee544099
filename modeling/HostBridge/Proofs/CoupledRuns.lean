import HostBridge.Proofs.Coupling
import HostBridge.Proofs.Hosting

/-!
# Pieces keep states coupled

The same piece of the work of a thread, run from two states that are coupled for it, comes to the same and
leaves the states coupled. For a call to the backend this rests on the backend, which works on the thread's
part of the world, and on the answers to what it asks of the bridge meanwhile.
-/

namespace HostBridge

variable {ω σ τ α α' : Type} {part : ThreadId → ω → σ} {shows : Except Fault Value → τ} {b : BackendId}
  {t : ThreadId} {ρ : Pairing} {start s s' : State ω}

/-- Two runs end in coupled states, with outcomes that are alike under the handles paired by then. -/
def Meets (part : ThreadId → ω → σ) (b : BackendId) (t : ThreadId) (ρ : Pairing) (start : State ω)
    (alike : Pairing → Except Fault α → Except Fault α' → Prop) (ended : Except Fault α × State ω)
    (ended' : Except Fault α' × State ω) : Prop :=
  ∃ ρ₁ : Pairing, Subrelation ρ ρ₁ ∧ Coupled part b t ρ₁ start ended.2 ended'.2 ∧ alike ρ₁ ended.1 ended'.1

/-- Two outcomes with the same fault, or with results that are related. -/
inductive Corresponds (R : α → α → Prop) : Except Fault α → Except Fault α → Prop
  | ok {a a' : α} (related : R a a') : Corresponds R (.ok a) (.ok a')
  | error (fault : Fault) : Corresponds R (.error fault) (.error fault)

namespace Corresponds

/-- Outcomes that fail alike correspond, whatever they give. -/
theorem of_fault? {r r' : Except Fault α} (same : Fault.of? r = Fault.of? r') :
    Corresponds (fun _ _ => True) r r' := by
  cases r with
  | ok a =>
    cases r' with
    | ok a' => exact .ok trivial
    | error fault' => cases same
  | error fault =>
    cases r' with
    | ok a' => cases same
    | error fault' =>
      cases same
      exact .error fault

/-- Corresponding handles are the same but for being handles. -/
theorem sameButHandles {r r' : Except Fault HandleId} (same : Corresponds ρ r r') :
    SameButHandles (r.map .handle) (r'.map .handle) := by
  cases same with
  | ok pair => exact .inr ⟨_, _, rfl, rfl⟩
  | error fault => exact .inl rfl

end Corresponds

/-- Two runs that do not touch the states end where they began. -/
theorem Meets.here {alike : Pairing → Except Fault α → Except Fault α' → Prop}
    (h : Coupled part b t ρ start s s') {r : Except Fault α} {r' : Except Fault α'} (same : alike ρ r r') :
    Meets part b t ρ start alike (r, s) (r', s') :=
  ⟨ρ, fun pair => pair, h, same⟩

/-- More handles are paired where a run goes on. -/
theorem Meets.extend {alike : Pairing → Except Fault α → Except Fault α' → Prop} {ρ₁ : Pairing}
    (more : Subrelation ρ ρ₁) {ended : Except Fault α × State ω} {ended' : Except Fault α' × State ω}
    (meets : Meets part b t ρ₁ start alike ended ended') : Meets part b t ρ start alike ended ended' := by
  obtain ⟨ρ₂, later, coupled, same⟩ := meets
  exact ⟨ρ₂, fun pair => later (more pair), coupled, same⟩

/-! ### Pieces that make no call -/

namespace Coupled

/-- What the thread has attached is read. -/
theorem attachment_meets (h : Coupled part b t ρ start s s') :
    Meets part b t ρ start (fun ρ => Corresponds (Attachment.Alike ρ))
      ((Action.attachment : Action ω Attachment).runOn t s)
      ((Action.attachment : Action ω Attachment).runOn t s') :=
  Meets.here h (.ok h.attachment)

/-- What the thread has attached is changed in the same way. -/
theorem updateAttachment_meets (h : Coupled part b t ρ start s s') {f f' : Attachment → Attachment}
    (alike : ∀ {a a' : Attachment}, a.Alike ρ a' → (f a).Alike ρ (f' a')) :
    Meets part b t ρ start (fun _ => Corresponds fun _ _ => True)
      ((Action.updateAttachment (ω := ω) f).runOn t s) ((Action.updateAttachment (ω := ω) f').runOn t s') :=
  Meets.here (h.attaching (alike h.attachment)) (.ok trivial)

/-- The installed backend is chosen. -/
theorem getBackend_meets (h : Coupled part b t ρ start s s') :
    Meets part b t ρ start (fun _ => Corresponds fun c c' => c = b ∧ c' = b)
      ((Action.getBackend : Action ω BackendId).runOn t s)
      ((Action.getBackend : Action ω BackendId).runOn t s') := by
  have chosen {s : State ω} (installed : s.installed? = some b) :
      (Action.getBackend : Action ω BackendId).runOn t s = (.ok b, s) := by
    simp [Action.getBackend, installed]
  rw [chosen h.installed.1, chosen h.installed.2]
  exact Meets.here h (.ok ⟨rfl, rfl⟩)

/-- The thread knows itself. -/
theorem thread_meets (h : Coupled part b t ρ start s s') :
    Meets part b t ρ start (fun _ => Corresponds fun u u' => u = t ∧ u' = t)
      ((Action.thread : Action ω ThreadId).runOn t s) ((Action.thread : Action ω ThreadId).runOn t s') :=
  Meets.here h (.ok ⟨rfl, rfl⟩)

/-- The log is written to. -/
theorem log_meets (h : Coupled part b t ρ start s s') (entry entry' : LogEntry) :
    Meets part b t ρ start (fun _ => Corresponds fun _ _ => True) ((Action.log entry).runOn t s)
      ((Action.log entry').runOn t s') :=
  Meets.here (h.logging _ _) (.ok trivial)

/-- Noting that the thread was told to detach keeps the states coupled. -/
theorem forgotten_meets (h : Coupled part b t ρ start s s') :
    Meets part b t ρ start (fun _ => Corresponds fun _ _ => True)
      ((Action.note (.forgotten t)).runOn t s) ((Action.note (.forgotten t)).runOn t s') :=
  Meets.here (h.noting (.forgotten t) (.forgotten t) nofun nofun) (.ok trivial)

/-- Handles are made, and paired. -/
theorem newHandle_meets (h : Coupled part b t ρ start s s') :
    Meets part b t ρ start Corresponds ((Action.newHandle b t).runOn t s)
      ((Action.newHandle b t).runOn t s') := by
  have made (s : State ω) : (Action.newHandle b t).runOn t s =
      (.ok ⟨s.handles.length⟩, (s.opening b t).noting (.opened ⟨s.handles.length⟩)) := rfl
  rw [made, made]
  have opened : Pairing.add ρ ⟨s.handles.length⟩ ⟨s'.handles.length⟩ ⟨s.handles.length⟩
      ⟨s'.handles.length⟩ := .inr ⟨rfl, rfl⟩
  exact ⟨_, .inl, h.opening.noting (.opened _) (.opened _) nofun nofun, .ok opened⟩

/-- Handles that are paired pass the check, or fail it, in both states. -/
theorem checked_meets (h : Coupled part b t ρ start s s') {rt rt' : HandleId} (pair : ρ rt rt') :
    Meets part b t ρ start (fun _ => Corresponds fun c c' => c = b ∧ c' = b)
      ((Action.checked rt).runOn t s) ((Action.checked rt').runOn t s') := by
  obtain ⟨handle, found, found', own, through⟩ := h.paired pair
  cases live : handle.detached with
  | true =>
    have refused {s : State ω} {rt : HandleId} (found : s.handles[rt.index]? = some handle) :
        (Action.checked rt).runOn t s = (.error Action.detachedBefore, s) := by
      simp [Action.checked, found, live]
    rw [refused found, refused found']
    exact Meets.here h (.error _)
  | false =>
    rw [Action.runOn_checked_of_live found live own, Action.runOn_checked_of_live found' live own]
    exact Meets.here h (.ok ⟨through, through⟩)

/-- Handles that are paired are marked as detached. -/
theorem markDetached_meets (h : Coupled part b t ρ start s s') {rt rt' : HandleId} (pair : ρ rt rt') :
    Meets part b t ρ start (fun _ => Corresponds fun _ _ => True)
      ((Action.markDetached rt).runOn t s) ((Action.markDetached rt').runOn t s') :=
  Meets.here (h.closing pair) (.ok trivial)

/-- Whether the thread has a handle is the same. -/
theorem hasRuntime_meets (h : Coupled part b t ρ start s s') :
    Meets part b t ρ start (fun _ r r' => r = r') ((Action.hasRuntime : Action ω Bool).runOn t s)
      ((Action.hasRuntime : Action ω Bool).runOn t s') := by
  have same : (s.attachments t).handle?.isSome = (s'.attachments t).handle?.isSome := by
    cases handle : (s.attachments t).handle? with
    | none => rw [h.attachment.eq_of_unattached handle, handle]
    | some rt =>
      obtain ⟨rt', -, handle'⟩ := h.attachment.handle_of_some handle
      rw [handle']
      rfl
  exact Meets.here h (congrArg Except.ok same)

end Coupled

/-! ### Calls to the backend -/

/-- Answers to what a backend asks on its own thread: they come to the same, but for the handles. -/
def CoupledAnswers (part : ThreadId → ω → σ) (b : BackendId) (answer : Request → Action ω Value) : Prop :=
  ∀ ⦃t ρ start s s'⦄ (q : Request), q.IsOwn → Coupled part b t ρ start s s' →
    Meets part b t ρ start (fun _ => SameButHandles) ((answer q).runOn t s) ((answer q).runOn t s')

section Serving

variable {answer : Request → Action ω Value}

private theorem Reply.runOn_callBack (w : ω) (request : Request)
    (resume : Except Fault Value → ω → Reply ω Value) (t : ThreadId) (s : State ω) :
    (Reply.run answer (.callBack w request resume)).runOn t s =
      let ended := (answer request).runOn t { s with world := w }
      ((resume ended.1 ended.2.world).run answer).runOn t ended.2 := by
  simp [Reply.run]

private theorem Reply.runOn_answer (w : ω) (result : Except Fault Value) (t : ThreadId) (s : State ω) :
    (Reply.run answer (.answer w result)).runOn t s = (result, { s with world := w }) := by
  simp [Reply.run]

private theorem Reply.run_meets (answers : CoupledAnswers part b answer)
    {alike : Except Fault Value → Except Fault Value → Prop} (reply reply' : Reply ω Value)
    (inStep : reply.InStep part t alike start.world reply') (h : Coupled part b t ρ start s s') :
    Meets part b t ρ start (fun _ => alike) ((reply.run answer).runOn t s)
      ((reply'.run answer).runOn t s') := by
  -- The work on the right has the shape of the one on the left, so the induction is on that.
  induction reply generalizing reply' ρ s s' with
  | answer w r =>
    cases reply' with
    | callBack w' request' resume' => exact inStep.elim
    | answer w' r' =>
      obtain ⟨same, alike⟩ := inStep
      rw [Reply.runOn_answer, Reply.runOn_answer]
      exact Meets.here (h.working same) alike
  | callBack w request resume ih =>
    cases reply' with
    | answer w' r' => exact inStep.elim
    | callBack w' request' resume' =>
      obtain ⟨same, rfl, own, later⟩ := inStep
      obtain ⟨ρ₁, more, coupled, told⟩ := answers request own (h.working same)
      rw [Reply.runOn_callBack, Reply.runOn_callBack]
      exact Meets.extend more (ih _ _ _ (later _ _ _ _ told coupled.samePart) coupled)

/-- A call of a thread to the backend comes to the same, through whatever handle. -/
theorem serve_meets {program : HostProgram ω} (separate : program.Separate part shows b)
    (answers : CoupledAnswers part b answer) (level : Nat) (through? through?' : Option HandleId)
    (call : Call) (h : Coupled part b t ρ start s s') :
    Meets part b t ρ start (fun _ => call.Alike shows)
      ((program.serve answer level through? b call).runOn t s)
      ((program.serve answer level through?' b call).runOn t s') := by
  have seen : s.view = s'.view := by
    unfold State.view
    rw [h.owned]
  have inStep := separate s.view t call s.world s'.world h.world
  have called := h.restart.called b call through? through?' level
  obtain ⟨ρ₁, more, coupled, same⟩ := Reply.run_meets answers _ _ inStep called
  have returned := h.onward coupled
  rw [program.runOn_serve level rfl, program.runOn_serve level rfl, ← seen]
  exact ⟨ρ₁, more, returned.noting (.returned _ _) (.returned _ _) nofun nofun, same⟩

end Serving

end HostBridge
