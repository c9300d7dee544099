import HostBridge.Bridge.Client
import HostBridge.Bridge.Hosts

/-!
# Running computations of the bridge

What a computation comes to on a thread, by the parts it is made of. A fault ends the computation and
keeps the state reached so far.
-/

namespace HostBridge

variable {ω α β : Type}

namespace State

/-- Put an event into the journal. -/
def noting (s : State ω) (e : Event) : State ω := { s with journal := e :: s.journal }

/-- The journal grows by the event. -/
@[simp] theorem journal_noting (s : State ω) (e : Event) :
    (s.noting e).journal = e :: s.journal := rfl

/-- Noting leaves what is attached. -/
@[simp] theorem attachments_noting (s : State ω) (e : Event) :
    (s.noting e).attachments = s.attachments := rfl

/-- Noting leaves the handles. -/
@[simp] theorem handles_noting (s : State ω) (e : Event) : (s.noting e).handles = s.handles := rfl

/-- Noting leaves the world. -/
@[simp] theorem world_noting (s : State ω) (e : Event) : (s.noting e).world = s.world := rfl

/-- Noting leaves what the opaque values own. -/
@[simp] theorem view_noting (s : State ω) (e : Event) : (s.noting e).view = s.view := rfl

/-- What was set on a thread is attached there. -/
theorem attachments_setAttachment_self (s : State ω) (t : ThreadId) (a : Attachment) :
    (s.setAttachment t a).attachments t = a := by
  simp [setAttachment]

/-- What was set on a thread leaves the other threads alone. -/
theorem attachments_setAttachment_other (s : State ω) {t u : ThreadId} (a : Attachment)
    (h : u ≠ t) : (s.setAttachment t a).attachments u = s.attachments u := by
  simp [setAttachment, h]

end State

namespace Action

/-- A value is given at once. -/
@[simp] theorem runOn_pure (a : α) (t : ThreadId) (s : State ω) :
    (pure a : Action ω α).runOn t s = (.ok a, s) := rfl

/-- A fault leaves the state. -/
@[simp] theorem runOn_throw (e : Fault) (t : ThreadId) (s : State ω) :
    (throw e : Action ω α).runOn t s = (.error e, s) := rfl

/-- The second computation starts where the first one ended, unless that failed. -/
@[simp] theorem runOn_bind (p : Action ω α) (f : α → Action ω β) (t : ThreadId) (s : State ω) :
    (p >>= f).runOn t s = match p.runOn t s with
      | (.ok a, s') => (f a).runOn t s'
      | (.error e, s') => (.error e, s') := by
  simp only [runOn, bind, ReaderT.bind, ExceptT.bind, ExceptT.mk, StateT.bind]
  cases h : p t s with
  | mk r s' => cases r <;> rfl

/-- A function of the result changes no state. -/
theorem runOn_bind_pure (p : Action ω α) (f : α → β) (t : ThreadId) (s : State ω) :
    (p >>= fun a => (pure (f a) : Action ω β)).runOn t s = ((p.runOn t s).1.map f, (p.runOn t s).2) := by
  rw [runOn_bind]
  cases p.runOn t s with
  | mk result s' => cases result <;> rfl

/-- A mapped computation ends where the computation does. -/
@[simp] theorem runOn_map (f : α → β) (p : Action ω α) (t : ThreadId) (s : State ω) :
    (f <$> p).runOn t s = ((p.runOn t s).1.map f, (p.runOn t s).2) := by
  simp only [runOn, Functor.map, ExceptT.map, ExceptT.mk, StateT.bind, bind]
  cases h : p t s with
  | mk r s' => cases r <;> rfl

/-- Dropping the result changes no state. -/
@[simp] theorem runOn_discard (p : Action ω α) (t : ThreadId) (s : State ω) :
    (discard p).runOn t s = ((p.runOn t s).1.map fun _ => ⟨⟩, (p.runOn t s).2) :=
  runOn_map (fun _ => PUnit.unit) p t s

/-- The outcome of a computation is its result, fault or not. -/
@[simp] theorem runOn_outcome (p : Action ω α) (t : ThreadId) (s : State ω) :
    (outcome p).runOn t s = (.ok (p.runOn t s).1, (p.runOn t s).2) := by
  simp only [runOn, outcome, Functor.map, ExceptT.map, ExceptT.mk, StateT.bind, bind, tryCatch,
    tryCatchThe, MonadExceptOf.tryCatch, ExceptT.tryCatch]
  cases h : p t s with
  | mk r s' => cases r <;> rfl

/-- An outcome is given again. -/
@[simp] theorem runOn_ofExcept (r : Except Fault α) (t : ThreadId) (s : State ω) :
    (MonadExcept.ofExcept r : Action ω α).runOn t s = (r, s) := by
  cases r <;> rfl

/-- The state is read without a change. -/
@[simp] theorem runOn_get (t : ThreadId) (s : State ω) :
    (get : Action ω (State ω)).runOn t s = (.ok s, s) := rfl

/-- A change of the state always succeeds. -/
@[simp] theorem runOn_modify (f : State ω → State ω) (t : ThreadId) (s : State ω) :
    (modify f : Action ω Unit).runOn t s = (.ok (), f s) := rfl

/-- A change of the state that gives a value always succeeds. -/
@[simp] theorem runOn_modifyGet (f : State ω → α × State ω) (t : ThreadId) (s : State ω) :
    (modifyGet f : Action ω α).runOn t s = (.ok (f s).1, (f s).2) := rfl

/-- A computation knows its thread. -/
@[simp] theorem runOn_thread (t : ThreadId) (s : State ω) :
    (thread : Action ω ThreadId).runOn t s = (.ok t, s) := rfl

/-- Noting adds to the journal. -/
@[simp] theorem runOn_note (e : Event) (t : ThreadId) (s : State ω) :
    (note e).runOn t s = (.ok (), s.noting e) := rfl

/-- Logging adds to the log. -/
@[simp] theorem runOn_log (e : LogEntry) (t : ThreadId) (s : State ω) :
    (log e).runOn t s = (.ok (), { s with log := e :: s.log }) := rfl

/-- What the calling thread has attached is read without a change. -/
@[simp] theorem runOn_attachment (t : ThreadId) (s : State ω) :
    (attachment : Action ω Attachment).runOn t s = (.ok (s.attachments t), s) := rfl

/-- Only the calling thread's attachment is updated. -/
@[simp] theorem runOn_updateAttachment (f : Attachment → Attachment) (t : ThreadId) (s : State ω) :
    (updateAttachment f).runOn t s = (.ok (), s.setAttachment t (f (s.attachments t))) := rfl

/-- A live handle of the calling thread passes the check. -/
theorem runOn_checked_of_live {t : ThreadId} {s : State ω} {id : HandleId} {h : Handle}
    (found : s.handles[id.index]? = some h) (live : h.detached = false) (own : h.owner = t) :
    (checked id).runOn t s = (.ok h.backend, s) := by
  simp [checked, found, live, own]

/-- A handle that passes the check is live and the calling thread's own, and the state is as it was. -/
theorem live_of_runOn_checked {t : ThreadId} {s s' : State ω} {id : HandleId} {b : BackendId}
    (passed : (checked id).runOn t s = (.ok b, s')) :
    s' = s ∧ ∃ h, s.handles[id.index]? = some h ∧ h.detached = false ∧ h.owner = t ∧ h.backend = b := by
  cases found : s.handles[id.index]? with
  | none => simp [checked, found] at passed
  | some h =>
    cases live : h.detached with
    | true => simp [checked, found, live] at passed
    | false =>
      by_cases own : h.owner = t
      · simp [checked, found, live, own] at passed
        exact ⟨passed.2.symm, h, rfl, live, own, passed.1⟩
      · simp [checked, found, live, own] at passed

/-- A handle that fails the check leaves the state. -/
theorem state_of_runOn_checked (id : HandleId) (t : ThreadId) (s : State ω) :
    ((checked id).runOn t s).2 = s := by
  cases found : s.handles[id.index]? with
  | none => simp [checked, found]
  | some h =>
    cases live : h.detached with
    | true => simp [checked, found, live]
    | false => by_cases own : h.owner = t <;> simp [checked, found, live, own]

/-- A handle that is detached or another thread's fails the check with a fault of the bridge. -/
theorem runOn_checked_of_stale {t : ThreadId} {s : State ω} {id : HandleId} {h : Handle}
    (found : s.handles[id.index]? = some h) (stale : h.detached = true ∨ h.owner ≠ t) :
    ∃ message, (checked id).runOn t s = (.error (.plain .bridge message), s) := by
  cases live : h.detached with
  | true => exact ⟨_, by simp [checked, found, live]; rfl⟩
  | false =>
    have own : h.owner ≠ t := by simpa [live] using stale
    exact ⟨_, by simp [checked, found, live, own]; rfl⟩

/-- An object that is owned is given. -/
theorem runOn_reference_of_owned {id : OpaqueId} {v : Value} {s : State ω} (owned : s.view id = some v)
    (t : ThreadId) : (reference id : Action ω Value).runOn t s = (.ok v, s) := by
  simp [reference, owned]

/-- A value that was released gives nothing. -/
theorem runOn_reference_of_released {id : OpaqueId} {s : State ω} (gone : s.view id = none)
    (t : ThreadId) : (reference id : Action ω Value).runOn t s = (.error releasedBefore, s) := by
  simp [reference, gone]

/-- Convert an object to a primitive through the host. -/
def converting (host : Host ω) (ref : Value) : Action ω Value := do
  match ← outcome (withRuntime host fun rt => unbox host rt ref) with
  | .ok v => return v
  | .error fault => throw (conversionFault fault)

/-- What is there and not absent is converted through the host. -/
theorem runOn_toPrimitive_of_present (host : Host ω) {id : OpaqueId} {ref : Value} {s : State ω}
    (owned : s.view id = some ref) (present : ref ≠ .nil) (t : ThreadId) :
    (toPrimitive host id).runOn t s = (converting host ref).runOn t s := by
  rw [toPrimitive, runOn_bind, runOn_reference_of_owned owned]
  cases ref with
  | prim p =>
    cases p with
    | nil => exact (present rfl).elim
    | _ => rfl
  | _ => rfl

/-- Converting ends where the host has unboxed the object. -/
theorem state_of_runOn_converting (host : Host ω) (ref : Value) (t : ThreadId) (s : State ω) :
    ((converting host ref).runOn t s).2 =
      ((withRuntime host fun rt => unbox host rt ref).runOn t s).2 := by
  rw [converting, runOn_bind, runOn_outcome]
  cases (withRuntime host fun rt => unbox host rt ref).runOn t s with
  | mk result s' => cases result <;> rfl

section OnHostFault

variable {body : Action ω α} {respond : Fault → Action ω Fault} {t : ThreadId} {s s' : State ω}

/-- A body that succeeds has no fault to turn into another. -/
theorem runOn_onHostFault_ok {a : α} (ran : body.runOn t s = (.ok a, s')) :
    (onHostFault body respond).runOn t s = (.ok a, s') := by
  simp [onHostFault, ran]

/-- A fault of the host is turned into the one that is given in response. -/
theorem runOn_onHostFault_host {className : String} {message trace : Option String}
    {cause : Option Fault} {f : Fault} {s'' : State ω}
    (ran : body.runOn t s = (.error (.host className message trace cause), s'))
    (responded : (respond (.host className message trace cause)).runOn t s' = (.ok f, s'')) :
    (onHostFault body respond).runOn t s = (.error f, s'') := by
  simp [onHostFault, ran, responded]

/-- Any other fault stays. -/
theorem runOn_onHostFault_other {fault : Fault} (ran : body.runOn t s = (.error fault, s'))
    (other : ∀ className message trace cause, fault ≠ .host className message trace cause) :
    (onHostFault body respond).runOn t s = (.error fault, s') := by
  cases fault with
  | host className message trace cause => exact (other _ _ _ _ rfl).elim
  | _ => simp [onHostFault, ran]

/-- If the response changes nothing, the state is that of the body, and only a fault leads to a fault. -/
theorem runOn_onHostFault_pure (body : Action ω α) (f : Fault → Fault) (t : ThreadId) (s : State ω) :
    (onHostFault body fun fault => return f fault).runOn t s =
      ((body.runOn t s).1.mapError fun fault => match fault with
        | .host .. => f fault
        | _ => fault, (body.runOn t s).2) := by
  rw [onHostFault, runOn_bind, runOn_outcome]
  cases body.runOn t s with
  | mk result s' =>
    cases result with
    | ok a => rfl
    | error fault => cases fault <;> rfl

end OnHostFault

end Action

end HostBridge
