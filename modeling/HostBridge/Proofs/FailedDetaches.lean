import Mathlib.Logic.Basic
import HostBridge.Proofs.Crossings
import HostBridge.Proofs.HandleInvariant
import HostBridge.Proofs.Reentry

/-!
# Detaches that failed

A thread that is told to detach lets go of its handle before its backend is asked to detach it. If the backend
fails, the handle is left behind: it is no thread's own any more, but it is not detached either, and calls
through it reach the backend until somebody detaches it by itself.
-/

namespace HostBridge

variable {ω : Type}

/-- Did a call to detach this handle come back in order? -/
def Event.closes (id : HandleId) : Event → Bool
  | .returned c none => c.call.isDetach && c.through? = some id
  | _ => false

namespace State

/-- The handle was detached. -/
def Detached (s : State ω) (id : HandleId) : Prop :=
  ∃ h, s.handles[id.index]? = some h ∧ h.detached = true

/-- A call to detach the handle has come back in order. -/
def Closed (s : State ω) (id : HandleId) : Prop := ∃ e ∈ s.journal, e.closes id = true

/-- The handle is detached if and only if it was closed. -/
def Tallies (s : State ω) (id : HandleId) : Prop := s.Closed id ↔ s.Detached id

/-- The thread does not have the handle for its own. -/
def Unkept (s : State ω) (t : ThreadId) (id : HandleId) : Prop := (s.attachments t).handle? ≠ some id

variable {s s' : State ω} {id : HandleId}

/-- Opening a handle detaches none. -/
theorem detached_opening (s : State ω) (b : BackendId) (t : ThreadId) (id : HandleId) :
    (s.opening b t).Detached id ↔ s.Detached id := by
  unfold Detached opening
  dsimp only
  rw [List.getElem?_append]
  split
  next => exact Iff.rfl
  next beyond =>
    rw [List.getElem?_eq_none (Nat.le_of_not_lt beyond)]
    constructor
    · rintro ⟨h, found, detached⟩
      rw [List.mem_singleton.mp (List.mem_of_getElem? found)] at detached
      cases detached
    · rintro ⟨h, found, -⟩
      cases found

/-- Closing a handle that is there detaches it, and no other. -/
theorem detached_closing {closed : HandleId} {handle : Handle}
    (there : s.handles[closed.index]? = some handle) (id : HandleId) :
    (s.closing closed).Detached id ↔ id = closed ∨ s.Detached id := by
  have index : id = closed ↔ closed.index = id.index := by
    cases id
    cases closed
    simp [eq_comm]
  unfold Detached closing
  rw [index]
  by_cases same : closed.index = id.index
  · rw [same] at there
    simp [same, there]
  · simp [same]

private theorem closed_noting (e : Event) : (s.noting e).Closed id ↔ e.closes id = true ∨ s.Closed id := by
  simp [Closed]

/-- A live handle is one that was not detached. -/
theorem live_iff_not_detached {handle : Handle} (found : s.handles[id.index]? = some handle) :
    s.Live handle.owner id ↔ ¬ s.Detached id := by
  simp [Live, Detached, found]

namespace Tallies

/-- At the start there are no handles, and nothing has happened. -/
theorem initial (store : Config.Store) (world : ω) (id : HandleId) :
    (State.initial store world).Tallies id := by
  simp [Tallies, Closed, Detached, State.initial]

private theorem of_eq (h : s.Tallies id) (handles : s'.handles = s.handles) (journal : s'.journal = s.journal) :
    s'.Tallies id := by
  unfold Tallies Closed Detached at *
  rw [handles, journal]
  exact h

private theorem noting (h : s.Tallies id) {e : Event} (none : e.closes id = false) : (s.noting e).Tallies id := by
  refine (closed_noting e).trans (Iff.trans ?_ h)
  rw [none]
  exact or_iff_right Bool.false_ne_true

private theorem opening (h : s.Tallies id) (b : BackendId) (t : ThreadId) : (s.opening b t).Tallies id :=
  h.trans (s.detached_opening b t id).symm

private theorem closing (h : s.Tallies id) {closed : HandleId} {handle : Handle}
    (there : s.handles[closed.index]? = some handle) {e : Event}
    (closes : e.closes id = true ↔ id = closed) : ((s.noting e).closing closed).Tallies id := by
  refine (closed_noting e).trans ((or_congr closes h).trans ?_)
  exact (detached_closing (s := s.noting e) there id).symm

end Tallies

end State

/-- A handle that its backend fails to detach is not detached. -/
theorem Action.runOn_detachHandle_of_failed {host : Host ω} {id : HandleId} {b : BackendId} {t : ThreadId}
    {s e : State ω} {fault : Fault} (passed : (checked id).runOn t s = (.ok b, s))
    (failed : (host (some id) b .detach).runOn t s = (.error fault, e)) :
    (detachHandle host id).runOn t s = (.error fault, e) := by
  simp [detachHandle, cross, passed, failed, Except.map]

/-! ### What everything keeps -/

/-- Handles and journal grow, threads go on attaching, a handle that tallies goes on doing so, and one that is
not a thread's own never becomes its own. -/
structure Abides (s s' : State ω) : Prop where
  attending : Attending s s'
  grows : s.Grows s'
  tallies : ∀ id, s.Tallies id → s'.Tallies id
  unkept : ∀ t (id : HandleId), id.index < s.handles.length → s.Unkept t id → s'.Unkept t id

namespace Abides

open HostBridge.Action (Keeps)

variable {s s' s'' : State ω}

private theorem of_eq (attachments : s'.attachments = s.attachments) (handles : s'.handles = s.handles)
    (journal : s'.journal = s.journal) : Abides s s' where
  attending t busy := by
    rw [attachments]
    exact busy
  grows := .of_eq handles (journal ▸ List.suffix_rfl)
  tallies _ h := h.of_eq handles journal
  unkept t id _ unkept := by
    rw [State.Unkept, attachments]
    exact unkept

private theorem length_le (abides : Abides s s') : s.handles.length ≤ s'.handles.length := by
  refine Nat.le_of_not_lt fun fewer => ?_
  obtain ⟨h, found⟩ : ∃ h, s.handles[s'.handles.length]? = some h :=
    ⟨_, List.getElem?_eq_getElem fewer⟩
  obtain ⟨h', found', -⟩ := abides.grows.handles ⟨s'.handles.length⟩ h found
  rw [List.getElem?_eq_none (Nat.le_refl _)] at found'
  cases found'

instance : Course (Abides (ω := ω)) where
  silent silent := of_eq silent.attachments silent.handles silent.journal
  trans first second :=
    ⟨Course.trans first.attending second.attending, first.grows.trans second.grows,
      fun id h => second.tallies id (first.tallies id h), fun t id there unkept =>
        second.unkept t id (Nat.lt_of_lt_of_le there first.length_le) (first.unkept t id there unkept)⟩

/-- Events that close nothing may be noted. -/
theorem noting (s : State ω) {e : Event} (none : ∀ id, e.closes id = false) : Abides s (s.noting e) where
  attending _ busy := busy
  grows := .of_eq rfl (List.suffix_cons e _)
  tallies id h := h.noting (none id)
  unkept _ _ _ unkept := unkept

private theorem closing (s : State ω) {closed : HandleId} {handle : Handle}
    (there : s.handles[closed.index]? = some handle) {e : Event}
    (closes : ∀ id, e.closes id = true ↔ id = closed) : Abides s ((s.noting e).closing closed) where
  attending _ busy := busy
  grows := by
    have noted : s.Grows (s.noting e) := .of_eq rfl (List.suffix_cons e _)
    exact noted.trans ((s.noting e).grows_closing closed)
  tallies id h := h.closing there (closes id)
  unkept _ _ _ unkept := unkept

variable {program : HostProgram ω} {answer : Request → Action ω Value} {level : Nat}

private theorem serve (answers : Answers Operation.Any Abides answer) {call : Call}
    (plain : call.isDetach = false) (through? : Option HandleId) (b : BackendId) :
    Keeps Abides (program.serve answer level through? b call) := by
  intro t s
  obtain ⟨result, e, worked, served⟩ := program.runOn_serve_keeps level answers through? b call t s
    (Reply.uses_any _)
  rw [served]
  refine Course.trans (noting s fun _ => rfl) (Course.trans worked (noting e fun id => ?_))
  cases result with
  | ok v => simp [Event.closes, Fault.of?, plain]
  | error fault => rfl

private theorem detachHandle (answers : Answers Operation.Any Abides answer) (id : HandleId) :
    Keeps Abides (Action.detachHandle (program.serve answer level) id) := by
  intro t s
  have same := Action.state_of_runOn_checked id t s
  cases passed : (Action.checked id).runOn t s with
  | mk result s' =>
  rw [passed] at same
  subst same
  cases result with
  | error fault =>
    rw [Action.runOn_detachHandle_error _ passed]
    exact Course.refl s'
  | ok b =>
    obtain ⟨-, h, found, live, own, rfl⟩ := Action.live_of_runOn_checked passed
    obtain ⟨result, e, worked, served⟩ := program.runOn_serve_keeps level answers (some id) h.backend
      .detach t s' (Reply.uses_any _)
    have called : Abides s' e := Course.trans (noting s' fun _ => rfl) worked
    cases result with
    | error fault =>
      rw [Action.runOn_detachHandle_of_failed passed served]
      exact Course.trans called (noting e fun _ => rfl)
    | ok v =>
      obtain ⟨l, ran⟩ := Action.runOn_detachHandle_ok passed served
      rw [ran]
      obtain ⟨h', found', -⟩ := called.grows.handles id h found
      refine Course.trans called (Course.trans (closing e found' fun other => ?_) (of_eq rfl rfl rfl))
      simp [Event.closes, Fault.of?, Call.isDetach, eq_comm]

private theorem forgetting (t : ThreadId) (s : State ω) :
    Abides s ((s.setAttachment t { s.attachments t with handle? := none, failure? := none }).noting
      (.forgotten t)) where
  attending u busy := by
    rw [State.attachments_noting]
    by_cases hu : u = t
    · subst hu
      rw [State.attachments_setAttachment_self, busy]
      rfl
    · rw [State.attachments_setAttachment_other _ _ hu, busy]
  grows := .of_eq rfl (List.suffix_cons _ _)
  tallies _ h := (h.of_eq rfl rfl).noting rfl
  unkept u id _ unkept := by
    rw [State.Unkept, State.attachments_noting]
    by_cases hu : u = t
    · subst hu
      rw [State.attachments_setAttachment_self]
      exact nofun
    · rw [State.attachments_setAttachment_other _ _ hu]
      exact unkept

private theorem detachRuntime (answers : Answers Operation.Any Abides answer) :
    Keeps Abides (Action.detachRuntime (program.serve answer level)) :=
  Keeps.detachRuntime forgetting (detachHandle answers)

private theorem unkept_setAttachment {id : HandleId} {t u : ThreadId} {a : Attachment} (unkept : s.Unkept u id)
    (other : a.handle? ≠ some id) : (s.setAttachment t a).Unkept u id := by
  unfold State.Unkept
  by_cases hu : u = t
  · subst hu
    rw [State.attachments_setAttachment_self]
    exact other
  · rw [State.attachments_setAttachment_other _ _ hu]
    exact unkept

private theorem attachThread (answers : Answers Operation.Any Abides answer) {t : ThreadId} {s : State ω}
    (none : s.attachments t = .none) :
    Abides s ((Action.attachThread (program.serve answer level)).runOn t s).2 := by
  have attends : Answers Operation.Any Attending answer :=
    ⟨fun q ok t s => (answers.keeps q ok t s).attending, answers.lines⟩
  have attending : Attending s ((Action.attachThread (program.serve answer level)).runOn t s).2 :=
    (Attending.runOn_attachThread attends none).1
  obtain ⟨b, begun⟩ := Action.runOn_beginAttach none
  generalize hs₁ : ({ s.setAttachment t .busy with installed? := some b } : State ω) = s₁ at begun
  have marked : s₁.attachments = (s.setAttachment t .busy).attachments := by rw [← hs₁]
  have started : Abides s s₁ := by
    subst hs₁
    refine ⟨fun u busy => ?_, .of_eq rfl List.suffix_rfl, fun _ h => h.of_eq rfl rfl, ?_⟩
    · by_cases hu : u = t
      · subst hu
        exact s.attachments_setAttachment_self u .busy
      · exact (s.attachments_setAttachment_other _ hu).trans busy
    · exact fun _ _ _ unkept => unkept_setAttachment unkept nofun
  obtain ⟨result, e, worked, served⟩ := program.runOn_serve_keeps level answers .none b .attach t s₁
    (Reply.uses_any _)
  have busy : e.attachments t = .busy := by
    apply worked.attending
    rw [State.attachments_noting, marked, State.attachments_setAttachment_self]
  have called : Abides s e := Course.trans started (Course.trans (noting s₁ fun _ => rfl) worked)
  -- When the call has come back, the thread stops attaching, so the rest by itself does not abide.
  cases result with
  | ok v =>
    obtain ⟨l, ran⟩ := Action.runOn_attachThread_ok begun served busy
    rw [ran] at attending ⊢
    refine ⟨attending, ?_, fun id h => ?_, fun u id there unkept => ?_⟩
    · have returned : s.Grows (e.noting (.returned ⟨t, b, .attach, .none, level⟩ .none)) :=
        called.grows.trans (.of_eq rfl (List.suffix_cons _ _))
      have opened := returned.trans (State.grows_opening _ b t (.opened ⟨e.handles.length⟩))
      exact opened.trans (.of_eq rfl List.suffix_rfl)
    · have returned := (called.tallies id h).noting (e := .returned ⟨t, b, .attach, .none, level⟩ .none) <| by
        simp [Event.closes, Call.isDetach]
      exact ((returned.opening b t).noting (e := .opened ⟨e.handles.length⟩) rfl).of_eq rfl rfl
    · refine unkept_setAttachment (called.unkept u id there unkept) fun same => ?_
      obtain rfl := Option.some.inj same
      exact Nat.lt_irrefl _ (Nat.lt_of_lt_of_le there called.length_le)
  | error reason =>
    obtain ⟨l, ran⟩ := Action.runOn_attachThread_error begun served busy
    rw [ran] at attending ⊢
    refine ⟨attending, ?_, fun id h => ?_, fun u id there unkept => ?_⟩
    · exact called.grows.trans (.of_eq rfl (List.suffix_cons _ _))
    · exact ((called.tallies id h).noting rfl).of_eq rfl rfl
    · exact unkept_setAttachment (called.unkept u id there unkept) nofun

private theorem keepsTo (answers : Answers Operation.Any Abides answer) :
    (program.serve answer level).KeepsTo Operation.Any Abides where
  currentRuntime := Keeps.currentRuntime_of_attachThread fun none => attachThread answers none
  detachRuntime := detachRuntime answers
  cross id _ primitive := Keeps.cross (serve answers (Call.isDetach_of_isPrimitive primitive) (some id))
  invokeStatic id _ _ _ :=
    Keeps.invokeStatic (serve answers rfl (some id)) fun b _ => serve answers rfl (some id) b
  detachHandle id _ := detachHandle answers id

/-- The answers to the requests of a program abide. -/
theorem answers (program : HostProgram ω) (level : Nat) :
    Answers Operation.Any Abides (program.answers level) :=
  HostProgram.answers_keep (fun _ _ _ answers => keepsTo answers) level (Nat.le_refl level)

/-- The host that a program makes abides. -/
theorem host (program : HostProgram ω) (level : Nat) : (program.host level).KeepsTo Operation.Any Abides :=
  HostProgram.host_keepsTo (fun _ _ answers => keepsTo answers) level

end Abides

/-! ### Handles that are left behind -/

namespace State

/-- The first thing that happened since was a call through the handle on the thread. -/
def Crosses (s : State ω) (t : ThreadId) (id : HandleId) (s' : State ω) : Prop :=
  ∃ c : Crossing, c.thread = t ∧ c.through? = some id ∧ .called c :: s.journal <:+ s'.journal

private theorem Crosses.grows {s s' s'' : State ω} {t : ThreadId} {id : HandleId} (crosses : s.Crosses t id s')
    (grows : s'.Grows s'') : s.Crosses t id s'' := by
  obtain ⟨c, thread, through, called⟩ := crosses
  exact ⟨c, thread, through, called.trans grows.journal⟩

/-- Handles and journal grow where nothing happens at the border, and from one change to the next. -/
instance : Course (Grows (ω := ω)) where
  silent silent := .of_eq silent.handles (silent.journal ▸ List.suffix_rfl)
  trans := Grows.trans

/-- A handle that was left behind is not the thread's own, and it is live until a call to detach it has come
back in order. As long as it is, whatever is done through it on its thread reaches a backend; from then on it
is refused. -/
structure LeftBehind (program : HostProgram ω) (t : ThreadId) (id : HandleId) (s : State ω) : Prop where
  there : ∃ h, s.handles[id.index]? = some h ∧ h.owner = t
  unkept : s.Unkept t id
  live : s.Live t id ↔ ¬ s.Closed id
  usable : ¬ s.Closed id → ∀ level (op : Operation), op.through? = some id →
    s.Crosses t id ((op.run (program.host level)).runOn t s).2
  refused : s.Closed id → ∀ level (op : Operation), op.through? = some id →
    ∃ message, (op.run (program.host level)).runOn t s = (.error (.plain .bridge message), s)

end State

private theorem Action.crosses_bind {α β : Type} {p : Action ω α} {f : α → Action ω β} {t : ThreadId}
    {id : HandleId} {s : State ω} (first : s.Crosses t id (p.runOn t s).2) (rest : ∀ a, Keeps State.Grows (f a)) :
    s.Crosses t id ((p >>= f).runOn t s).2 := by
  rw [runOn_bind]
  cases ran : p.runOn t s with
  | mk result s' =>
  rw [ran] at first
  cases result with
  | ok a => exact first.grows (rest a t s')
  | error fault => exact first

private theorem HostProgram.crosses_serve (program : HostProgram ω) {answer : Request → Action ω Value}
    {level : Nat} (answers : Answers Operation.Any Abides answer) (t : ThreadId) (id : HandleId)
    (b : BackendId) (call : Call) (s : State ω) :
    s.Crosses t id ((program.serve answer level (some id) b call).runOn t s).2 := by
  obtain ⟨result, e, worked, served⟩ := program.runOn_serve_keeps level answers (some id) b call t s
    (Reply.uses_any _)
  rw [served]
  exact ⟨_, rfl, rfl, worked.grows.journal.trans (List.suffix_cons _ _)⟩

/-- What is done through a live handle on its thread reaches a backend. -/
theorem Operation.crosses_of_live (program : HostProgram ω) (level : Nat) {op : Operation} {t : ThreadId}
    {id : HandleId} {s : State ω} (through : op.through? = some id) (live : s.Live t id) :
    s.Crosses t id ((op.run (program.host level)).runOn t s).2 := by
  have answers := Abides.answers program level
  obtain ⟨h, found, owner, attached⟩ := live
  have passed := Action.runOn_checked_of_live found attached owner
  rw [program.host_eq_serve]
  have crossed (call : Call) :
      s.Crosses t id ((Action.cross (program.serve (program.answers level) level) id call).runOn t s).2 := by
    rw [Action.cross, Action.runOn_bind, passed]
    exact program.crosses_serve answers t id h.backend call s
  cases op with
  | staticClass rt name =>
    cases through
    exact crossed _
  | invokeStatic rt className method args =>
    cases through
    rw [run, Action.invokeStatic, Action.runOn_bind, passed]
    refine Action.crosses_bind (program.crosses_serve answers t id h.backend _ s) fun target u s' => ?_
    exact (Abides.serve answers rfl (some id) h.backend u s').grows
  | readField rt target name =>
    cases through
    exact crossed _
  | invokeMethod rt target method args =>
    cases through
    exact crossed _
  | box rt v =>
    cases through
    exact crossed _
  | unbox rt ref =>
    cases through
    exact crossed _
  | detachHandle rt =>
    cases through
    have detached : s.Crosses t id
        ((Functor.discard
          (Action.cross (program.serve (program.answers level) level) id .detach)).runOn t s).2 := by
      rw [Action.runOn_discard]
      exact crossed _
    have marked : Action.Keeps State.Grows (Action.markDetached (ω := ω) id) :=
      fun _ s' => s'.grows_closing id
    refine Action.crosses_bind (Action.crosses_bind detached fun _ => ?_) fun _ => Action.Keeps.pure _
    exact Action.Keeps.bind marked fun _ => Action.Keeps.bind Action.Keeps.thread fun _ =>
      Action.Keeps.debug _ _
  | _ => cases through

private theorem State.leftBehind (program : HostProgram ω) {t : ThreadId} {id : HandleId} {s : State ω}
    (there : ∃ h, s.handles[id.index]? = some h ∧ h.owner = t) (unkept : s.Unkept t id)
    (tallies : s.Tallies id) : s.LeftBehind program t id := by
  have lives : s.Live t id ↔ ¬ s.Closed id := by
    obtain ⟨h, found, rfl⟩ := there
    exact (live_iff_not_detached found).trans (not_congr tallies).symm
  refine ⟨there, unkept, lives, fun unclosed level op through => ?_, fun closed level op through => ?_⟩
  · exact Operation.crosses_of_live program level through (lives.mpr unclosed)
  · obtain ⟨handle, same, detached⟩ := tallies.mp closed
    exact Operation.runOn_of_stale _ through same (.inl detached)

private theorem Abides.leftBehind {program : HostProgram ω} {t : ThreadId} {id : HandleId} {s s' : State ω}
    (abides : Abides s s') (h : s.LeftBehind program t id) : s'.LeftBehind program t id := by
  obtain ⟨handle, found, rfl⟩ := h.there
  obtain ⟨handle', found', owner', -⟩ := abides.grows.handles id handle found
  have tallies : s.Tallies id :=
    not_iff_not.mp (h.live.symm.trans (State.live_iff_not_detached found))
  refine State.leftBehind program ⟨handle', found', owner'⟩ ?_ (abides.tallies id tallies)
  exact abides.unkept _ id (List.getElem?_eq_some_iff.mp found).1 h.unkept

/-- When telling a thread to detach fails, the fault is the one with which the call to detach its handle came
back, and the handle is left behind. -/
theorem Action.leftBehind_of_runOn_detachRuntime (program : HostProgram ω) (level : Nat) {t : ThreadId}
    {id : HandleId} {s s' : State ω} {fault : Fault} (tallies : s.Tallies id)
    (cached : (s.attachments t).handle? = some id) (live : s.Live t id)
    (failed : (detachRuntime (program.host level)).runOn t s = (.error fault, s')) :
    (∃ c : Crossing, c.thread = t ∧ c.call.isDetach = true ∧ c.through? = some id ∧
      s'.journal.head? = some (.returned c (some fault))) ∧ s'.LeftBehind program t id := by
  obtain ⟨h, found, owner, attached⟩ := live
  rw [program.host_eq_serve, runOn_detachRuntime_of_handle _ cached] at failed
  have forgets := Abides.forgetting t s
  have let_go : ((s.setAttachment t { s.attachments t with handle? := none, failure? := none }).noting
      (.forgotten t)).Unkept t id := by
    rw [State.Unkept, State.attachments_noting, State.attachments_setAttachment_self]
    exact nofun
  have same : ((s.setAttachment t { s.attachments t with handle? := none, failure? := none }).noting
      (.forgotten t)).handles = s.handles := rfl
  generalize (s.setAttachment t { s.attachments t with handle? := none, failure? := none }).noting
    (.forgotten t) = s₁ at failed forgets let_go same
  have found₁ : s₁.handles[id.index]? = some h := by rw [same, found]
  have behind := State.leftBehind program ⟨h, found₁, owner⟩ let_go (forgets.tallies id tallies)
  have passed := runOn_checked_of_live found₁ attached owner
  obtain ⟨result, e, worked, served⟩ := program.runOn_serve_keeps level (Abides.answers program level)
    (some id) h.backend .detach t s₁ (Reply.uses_any _)
  have called : Abides s₁ e := Course.trans (Abides.noting s₁ fun _ => rfl) worked
  cases result with
  | ok v =>
    -- The handle is detached, so nothing failed.
    obtain ⟨l, ran⟩ := runOn_detachHandle_ok passed served
    rw [ran] at failed
    cases failed
  | error reason =>
    rw [runOn_detachHandle_of_failed passed served] at failed
    cases failed
    refine ⟨⟨_, rfl, rfl, rfl, rfl⟩, ?_⟩
    exact Abides.leftBehind (Course.trans called (Abides.noting e fun _ => rfl)) behind

/-- A thread that is told to detach and whose backend fails loses its handle, but does not detach it: the fault
goes to the caller, and the handle is left behind. So it stays in all that threads come to do later, and
wherever hosts work in between: it is never the thread's own again, so one that is attached meanwhile is
another, and it reaches its backend as it did before, until somebody has detached it by itself. This holds of
every state in which handles tally, and they do wherever threads and hosts come to. -/
theorem failed_detach_leaves_handle_behind (program : HostProgram ω) (limit : Nat) (store : Config.Store)
    (world : ω) :
    (∀ s, (program.host limit).Reaches Operation.Any (.initial store world) s → ∀ id, s.Tallies id) ∧
    (∀ level through? b call u (s : State ω) id, s.Tallies id →
      (program s.view u b call s.world).Throughout (program.answers level) u (fun e => e.Tallies id)
        (s.noting (.called ⟨u, b, call, through?, level⟩))) ∧
    (∀ level t id (s s' : State ω) fault, s.Tallies id → (s.attachments t).handle? = some id →
      s.Live t id → (Action.detachRuntime (program.host level)).runOn t s = (.error fault, s') →
      (∃ c : Crossing, c.thread = t ∧ c.call.isDetach = true ∧ c.through? = some id ∧
        s'.journal.head? = some (.returned c (some fault))) ∧ s'.LeftBehind program t id) ∧
    ∀ t id (s : State ω), s.LeftBehind program t id →
      (∀ level s', (program.host level).Reaches Operation.Any s s' → s'.LeftBehind program t id) ∧
      ∀ level through? b call u,
        (program s.view u b call s.world).Throughout (program.answers level) u
          (fun e => e.LeftBehind program t id) (s.noting (.called ⟨u, b, call, through?, level⟩)) := by
  have called (c : Crossing) (s : State ω) : Abides s (s.noting (.called c)) := .noting s fun _ => rfl
  refine ⟨fun s reached id => ?_, fun level through? b call u s id h => ?_, ?_, fun t id s behind => ⟨?_, ?_⟩⟩
  · exact ((Abides.host program limit).reaches reached).tallies id (.initial store world id)
  · exact Reply.throughout_of_keeps (Abides.answers program level) (fun _ _ abides => abides.tallies id) _
      (Reply.uses_any _) ((called _ s).tallies id h)
  · intro level t id s s' fault tallies cached live failed
    exact Action.leftBehind_of_runOn_detachRuntime program level tallies cached live failed
  · intro level s' onward
    exact ((Abides.host program level).reaches onward).leftBehind behind
  · intro level through? b call u
    exact Reply.throughout_of_keeps (Abides.answers program level) (fun _ _ abides => abides.leftBehind) _
      (Reply.uses_any _) ((called _ s).leftBehind behind)

/-- A host that attaches and does what it is asked, but cannot be detached from. -/
def clingingHost : HostProgram Unit := fun _ _ _ call w => match call with
  | .detach => .answer w (.error (.standard .os "Still in use"))
  | _ => .answer w (.ok .nil)

/-- The main thread has attached to the clinging host. -/
def clungRun : State Unit :=
  ((Operation.currentRuntime.run (clingingHost.host nestingLimit)).runOn .main
    (State.initial (.ofSettings .nil []) ())).2

/-- The main thread was told to detach, in vain. -/
def looseRun : State Unit := ((Action.detachRuntime (clingingHost.host nestingLimit)).runOn .main clungRun).2

/-- The main thread has attached again. -/
def doubledRun : State Unit :=
  ((Operation.currentRuntime.run (clingingHost.host nestingLimit)).runOn .main looseRun).2

/-- The main thread has attached twice, and can use both its handles. -/
theorem failed_detach_leaves_handle_behind_clinging :
    (clungRun.attachments .main).handle? = some ⟨0⟩ ∧
      (doubledRun.attachments .main).handle? = some ⟨1⟩ ∧ doubledRun.Live .main ⟨1⟩ ∧
      doubledRun.LeftBehind clingingHost .main ⟨0⟩ ∧ doubledRun.Live .main ⟨0⟩ ∧
      doubledRun.Crosses .main ⟨0⟩
        (((Operation.box ⟨0⟩ .nil).run (clingingHost.host nestingLimit)).runOn .main doubledRun).2 := by
  have uses : Client.Uses Operation.Any (.perform .currentRuntime .finish) := ⟨trivial, fun _ => trivial⟩
  have reached : (clingingHost.host nestingLimit).Reaches Operation.Any
      (.initial (.ofSettings .nil []) ()) clungRun :=
    .turn (t := .main) .start uses (.performed (Prod.eta _).symm .here)
  have again : (clingingHost.host nestingLimit).Reaches Operation.Any looseRun doubledRun :=
    .turn (t := .main) .start uses (.performed (Prod.eta _).symm .here)
  have first : clungRun.Live .main ⟨0⟩ := ⟨⟨defaultBackend, .main, false⟩, rfl, rfl, rfl⟩
  have second : doubledRun.Live .main ⟨0⟩ := ⟨⟨defaultBackend, .main, false⟩, rfl, rfl, rfl⟩
  obtain ⟨tallies, -, fails, stays⟩ :=
    failed_detach_leaves_handle_behind clingingHost nestingLimit (.ofSettings .nil []) ()
  obtain ⟨-, left⟩ := fails nestingLimit .main ⟨0⟩ clungRun looseRun (.standard .os "Still in use")
    (tallies clungRun reached ⟨0⟩) rfl first rfl
  have behind := (stays .main ⟨0⟩ looseRun left).1 nestingLimit doubledRun again
  refine ⟨rfl, rfl, ⟨⟨defaultBackend, .main, false⟩, rfl, rfl, rfl⟩, behind, second, ?_⟩
  exact behind.usable (behind.live.mp second) nestingLimit (.box ⟨0⟩ .nil) rfl

end HostBridge
