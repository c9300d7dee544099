import HostBridge.Proofs.Action

/-!
# What attaching and detaching come to

The outcome of attaching a thread by how its backend answers, of asking for the handle of a thread by
what it has attached, and of detaching. Each outcome is given with the state after it.
-/

namespace HostBridge

variable {ω : Type}

/-- A thread in the middle of attaching. -/
def Attachment.busy : Attachment := { handle? := .none, failure? := .none, attaching := true }

/-- A thread is attached, or failed to attach, or is attaching, or has nothing attached. -/
theorem Attachment.cases (a : Attachment) :
    (∃ id, a.handle? = some id) ∨ (a.handle? = .none ∧ ∃ fault, a.failure? = some fault) ∨
      a = .busy ∨ a = .none := by
  obtain ⟨handle?, failure?, attaching⟩ := a
  cases handle? with
  | some id => exact .inl ⟨id, rfl⟩
  | none =>
    cases failure? with
    | some fault => exact .inr (.inl ⟨rfl, fault, rfl⟩)
    | none =>
      cases attaching with
      | true => exact .inr (.inr (.inl rfl))
      | false => exact .inr (.inr (.inr rfl))

namespace State

/-- Open a handle for a thread. -/
def opening (s : State ω) (b : BackendId) (t : ThreadId) : State ω :=
  { s with handles := s.handles ++ [⟨b, t, false⟩] }

/-- Mark a handle as detached. -/
def closing (s : State ω) (id : HandleId) : State ω :=
  { s with handles := s.handles.modify id.index fun h => { h with detached := true } }

end State

namespace Action

/-! ### Attaching -/

/-- Attaching begins on a thread with nothing attached by marking it and choosing the installed backend, or
else the default one. -/
theorem runOn_beginAttach_installed {t : ThreadId} {s : State ω} (none : s.attachments t = .none) :
    beginAttach.runOn t s = (.ok (s.installed?.getD defaultBackend),
      { s.setAttachment t .busy with installed? := some (s.installed?.getD defaultBackend) }) := by
  have marked : { s.attachments t with attaching := true } = Attachment.busy := by
    rw [none]
    rfl
  cases installed : s.installed? with
  | some b =>
    have same : s.setAttachment t .busy = { s.setAttachment t .busy with installed? := some b } := by
      rw [← installed]
      rfl
    rw [Option.getD_some, ← same]
    simp [beginAttach, getBackend, marked, State.setAttachment, installed]
  | none =>
    simp [beginAttach, getBackend, setBackend, marked, State.setAttachment, installed, Except.map]

/-- Attaching begins through some backend. -/
theorem runOn_beginAttach {t : ThreadId} {s : State ω} (none : s.attachments t = .none) :
    ∃ b, beginAttach.runOn t s = (.ok b, { s.setAttachment t .busy with installed? := some b }) :=
  ⟨_, runOn_beginAttach_installed none⟩

/-- A backend that attaches in order gives the thread a new handle. -/
theorem runOn_attachThrough_ok {host : Host ω} {b : BackendId} {t : ThreadId} {s e : State ω}
    {v : Value} (came : (host none b .attach).runOn t s = (.ok v, e)) :
    ∃ l, (attachThrough host b).runOn t s =
      (.ok ⟨e.handles.length⟩,
        { (e.opening b t).noting (.opened ⟨e.handles.length⟩) with log := l }) := by
  refine ⟨⟨.debug, handleLogger, "Attached runtime handle on thread " ++ t.label⟩ :: e.log, ?_⟩
  simp [attachThrough, came, newHandle, debug, State.opening, Except.map,
    State.noting]

/-- A backend that fails to attach gives no handle. -/
theorem runOn_attachThrough_error {host : Host ω} {b : BackendId} {t : ThreadId} {s e : State ω}
    {reason : Fault} (came : (host none b .attach).runOn t s = (.error reason, e)) :
    (attachThrough host b).runOn t s = (.error reason, e) := by
  simp [attachThrough, came, Except.map]

private theorem runOn_settleAttach_ok {t : ThreadId} {s : State ω} (busy : s.attachments t = .busy)
    (id : HandleId) :
    (settleAttach (.ok id)).runOn t s = (.ok id, s.setAttachment t ⟨some id, none, false⟩) := by
  simp [settleAttach, busy, Attachment.busy, Except.map]

private theorem runOn_settleAttach_error {t : ThreadId} {s : State ω} (busy : s.attachments t = .busy)
    (reason : Fault) :
    ∃ l, (settleAttach (.error reason)).runOn t s =
      (.error (attachFault reason),
        { s.setAttachment t ⟨none, some (attachFault reason), false⟩ with log := l }) := by
  refine ⟨⟨.error, handleLogger,
    "Attaching thread " ++ t.label ++ " failed: " ++ reason.text⟩ :: s.log, ?_⟩
  have twice (a a' : Attachment) (l : List LogEntry) :
      State.setAttachment { s.setAttachment t a with log := l } t a' =
        { s.setAttachment t a' with log := l } := by
    simp only [State.setAttachment, State.mk.injEq, and_true, true_and]
    funext u
    by_cases hu : u = t
    · rw [if_pos hu, if_pos hu]
    · rw [if_neg hu, if_neg hu, if_neg hu]
  simp [settleAttach, busy, Attachment.busy, twice, State.attachments_setAttachment_self]
  rfl

/-- An attach that succeeds opens a handle, and the thread keeps it. -/
theorem runOn_attachThread_ok {host : Host ω} {b : BackendId} {t : ThreadId} {s s₁ e : State ω}
    {v : Value} (begun : beginAttach.runOn t s = (.ok b, s₁))
    (came : (host none b .attach).runOn t s₁ = (.ok v, e)) (busy : e.attachments t = .busy) :
    ∃ l, (attachThread host).runOn t s =
      (.ok ⟨e.handles.length⟩,
        { ((e.opening b t).setAttachment t ⟨some ⟨e.handles.length⟩, none, false⟩).noting
            (.opened ⟨e.handles.length⟩) with log := l }) := by
  obtain ⟨l, through⟩ := runOn_attachThrough_ok came
  have settled := runOn_settleAttach_ok
    (s := { (e.opening b t).noting (.opened ⟨e.handles.length⟩) with log := l }) busy
    ⟨e.handles.length⟩
  refine ⟨l, ?_⟩
  simp only [attachThread, runOn_bind, begun, runOn_outcome, through, settled]
  rfl

/-- An attach that fails leaves its fault on the thread. -/
theorem runOn_attachThread_error {host : Host ω} {b : BackendId} {t : ThreadId} {s s₁ e : State ω}
    {reason : Fault} (begun : beginAttach.runOn t s = (.ok b, s₁))
    (came : (host none b .attach).runOn t s₁ = (.error reason, e))
    (busy : e.attachments t = .busy) :
    ∃ l, (attachThread host).runOn t s =
      (.error (attachFault reason),
        { e.setAttachment t ⟨none, some (attachFault reason), false⟩ with log := l }) := by
  have through := runOn_attachThrough_error came
  obtain ⟨l, settled⟩ := runOn_settleAttach_error busy reason
  refine ⟨l, ?_⟩
  simp only [attachThread, runOn_bind, begun, runOn_outcome, through, settled]

/-! ### The handle of a thread -/

/-- A thread that is attached has its handle. -/
theorem runOn_currentRuntime_of_handle (host : Host ω) {t : ThreadId} {s : State ω} {id : HandleId}
    (handle : (s.attachments t).handle? = some id) :
    (currentRuntime host).runOn t s = (.ok id, s) := by
  simp [currentRuntime, handle]

/-- A thread that failed to attach fails again. -/
theorem runOn_currentRuntime_of_failure (host : Host ω) {t : ThreadId} {s : State ω} {fault : Fault}
    (handle : (s.attachments t).handle? = none) (failure : (s.attachments t).failure? = some fault) :
    (currentRuntime host).runOn t s = (.error (attachedBefore fault), s) := by
  simp [currentRuntime, handle, failure]

/-- A thread that is attaching is refused. -/
theorem runOn_currentRuntime_of_busy (host : Host ω) {t : ThreadId} {s : State ω}
    (busy : s.attachments t = .busy) :
    (currentRuntime host).runOn t s = (.error attachReentered, s) := by
  simp [currentRuntime, busy, Attachment.busy]

/-- A thread with nothing attached attaches. -/
theorem runOn_currentRuntime_of_none (host : Host ω) {t : ThreadId} {s : State ω}
    (none : s.attachments t = .none) :
    (currentRuntime host).runOn t s = (attachThread host).runOn t s := by
  simp [currentRuntime, none, Attachment.none]

/-! ### Detaching -/

/-- A thread without a handle only forgets a failure. -/
theorem runOn_detachRuntime_of_none (host : Host ω) {t : ThreadId} {s : State ω}
    (handle : (s.attachments t).handle? = none) :
    (detachRuntime host).runOn t s =
      (.ok false,
        (s.setAttachment t { s.attachments t with handle? := none, failure? := none }).noting
          (.forgotten t)) := by
  simp [detachRuntime, handle, Except.map]

/-- A thread with a handle lets go of it, and detaches it. -/
theorem runOn_detachRuntime_of_handle (host : Host ω) {t : ThreadId} {s : State ω} {id : HandleId}
    (handle : (s.attachments t).handle? = some id) :
    (detachRuntime host).runOn t s =
      let ended := (detachHandle host id).runOn t
        ((s.setAttachment t { s.attachments t with handle? := none, failure? := none }).noting
          (.forgotten t))
      (ended.1.map fun _ => true, ended.2) := by
  simp only [detachRuntime, runOn_bind, runOn_attachment, runOn_updateAttachment, runOn_thread,
    runOn_note, handle]
  split <;> rename_i ended <;> simp [ended, Except.map]

/-- A handle that fails the check makes no call. -/
theorem runOn_cross_error (host : Host ω) (call : Call) {id : HandleId} {t : ThreadId} {s : State ω}
    {fault : Fault} (failed : (checked id).runOn t s = (.error fault, s)) :
    (cross host id call).runOn t s = (.error fault, s) := by
  simp [cross, failed]

/-- A handle that fails the check is not detached. -/
theorem runOn_detachHandle_error (host : Host ω) {id : HandleId} {t : ThreadId} {s : State ω}
    {fault : Fault} (failed : (checked id).runOn t s = (.error fault, s)) :
    (detachHandle host id).runOn t s = (.error fault, s) := by
  simp [detachHandle, runOn_cross_error host .detach failed, Except.map]

/-- A handle that its backend detaches in order is detached. -/
theorem runOn_detachHandle_ok {host : Host ω} {id : HandleId} {b : BackendId} {t : ThreadId}
    {s e : State ω} {v : Value} (passed : (checked id).runOn t s = (.ok b, s))
    (came : (host (some id) b .detach).runOn t s = (.ok v, e)) :
    ∃ l, (detachHandle host id).runOn t s = (.ok (), { e.closing id with log := l }) := by
  refine ⟨⟨.debug, handleLogger, "Detached runtime handle on thread " ++ t.label⟩ :: e.log, ?_⟩
  simp [detachHandle, cross, passed, came, markDetached, debug, State.closing, Except.map]

end Action

end HostBridge
