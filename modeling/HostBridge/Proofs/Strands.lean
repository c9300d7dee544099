import HostBridge.Proofs.Action

/-!
# Operations in pieces

A thread works on an operation piece by piece: it reads or changes what it has attached, chooses the backend,
calls it, makes, checks or marks a handle, or writes to the log. Other threads may take turns between any two
pieces. The operation itself is all of its pieces in one go.
-/

namespace HostBridge

variable {ω σ α β : Type}

/-- What a thread does in pieces, and what it gets to see on the way. -/
inductive Strand (ω σ α : Type) : Type 1 where
  /-- Nothing more. -/
  | finish (result : Except Fault α)
  /-- A piece, and how to go on after it. -/
  | piece {β : Type} (first : Action ω β) (rest : Except Fault β → Strand ω σ α)
  /-- The thread sees something, and goes on. -/
  | see (sight : σ) (rest : Strand ω σ α)

namespace Strand

/-- A single piece. -/
def atom (p : Action ω α) : Strand ω σ α := .piece p .finish

/-- Go on by the outcome. -/
def followed : Strand ω σ α → (Except Fault α → Strand ω σ β) → Strand ω σ β
  | .finish result, next => next result
  | .piece first rest, next => .piece first fun result => (rest result).followed next
  | .see sight rest, next => .see sight (rest.followed next)

instance : Monad (Strand ω σ) where
  pure a := .finish (.ok a)
  bind p f := p.followed fun
    | .ok a => f a
    | .error fault => .finish (.error fault)

/-- The outcome, as a value. -/
def outcome (p : Strand ω σ α) : Strand ω σ (Except Fault α) := p.followed fun result => pure result

/-- All pieces in one go. -/
def run : Strand ω σ α → Action ω α
  | .finish result => MonadExcept.ofExcept result
  | .piece first rest => do (rest (← Action.outcome first)).run
  | .see _ rest => rest.run

/-! ### The operations -/

/-- Attach through a backend. -/
def attachThrough (host : Host ω) (backend : BackendId) : Strand ω σ HandleId := do
  let _ ← atom (host none backend .attach)
  let t ← atom Action.thread
  let id ← atom (Action.newHandle backend t)
  atom (Action.debug Action.handleLogger ("Attached runtime handle on thread " ++ t.label))
  return id

/-- Remember how an attach of the calling thread went. -/
def settleAttach : Except Fault HandleId → Strand ω σ HandleId
  | .ok id => do
    atom (Action.updateAttachment fun a => { a with attaching := false, handle? := some id })
    return id
  | .error reason => do
    let failure := Action.attachFault reason
    atom (Action.updateAttachment fun a => { a with failure? := some failure })
    let t ← atom Action.thread
    atom (Action.log ⟨.error, Action.handleLogger,
      "Attaching thread " ++ t.label ++ " failed: " ++ reason.text⟩)
    atom (Action.updateAttachment fun a => { a with attaching := false })
    .finish (.error failure)

/-- Attach the calling thread. -/
def attachThread (host : Host ω) : Strand ω σ HandleId := do
  atom (Action.updateAttachment fun a => { a with attaching := true })
  let backend ← atom Action.getBackend
  settleAttach (← (attachThrough host backend).outcome)

/-- The handle of the calling thread, attached if need be. -/
def currentRuntime (host : Host ω) : Strand ω σ HandleId := do
  let a ← atom Action.attachment
  match a.handle?, a.failure? with
  | some id, _ => return id
  | none, some failure => .finish (.error (Action.attachedBefore failure))
  | none, none =>
    if a.attaching then .finish (.error Action.attachReentered) else attachThread host

/-- Make a call through a handle. -/
def cross (host : Host ω) (id : HandleId) (call : Call) : Strand ω σ Value := do
  let backend ← atom (Action.checked id)
  atom (host (some id) backend call)

/-- Detach a handle. -/
def detachHandle (host : Host ω) (id : HandleId) : Strand ω σ Unit := do
  let _ ← cross host id .detach
  atom (Action.markDetached id)
  let t ← atom Action.thread
  atom (Action.debug Action.handleLogger ("Detached runtime handle on thread " ++ t.label))

/-- Detach the calling thread and forget a failed attach. -/
def detachRuntime (host : Host ω) : Strand ω σ Bool := do
  let a ← atom Action.attachment
  atom (Action.updateAttachment fun a => { a with handle? := none, failure? := none })
  let t ← atom Action.thread
  atom (Action.note (.forgotten t))
  match a.handle? with
  | none => return false
  | some id =>
    detachHandle host id
    return true

/-! ### In one go they are the operations of the bridge -/

/-- A single piece is what it is. -/
@[simp] theorem run_atom (p : Action ω α) : (atom p : Strand ω σ α).run = p := by
  funext t s
  change (Action.outcome p >>= MonadExcept.ofExcept).runOn t s = p.runOn t s
  simp

/-- A value is given at once. -/
@[simp] theorem run_pure (a : α) : (pure a : Strand ω σ α).run = pure a := rfl

/-- A fault ends it. -/
@[simp] theorem run_error (fault : Fault) :
    (finish (.error fault) : Strand ω σ α).run = throw fault := rfl

private theorem run_followed (p : Strand ω σ α) (next : Except Fault α → Strand ω σ β) :
    (p.followed next).run = Action.outcome p.run >>= fun result => (next result).run := by
  induction p with
  | finish result =>
    funext t s
    change (next result).run.runOn t s = (Action.outcome _ >>= _).runOn t s
    rw [Action.runOn_bind, Action.runOn_outcome, run, Action.runOn_ofExcept]
  | piece first rest ih =>
    funext t s
    change (Action.outcome first >>= _).runOn t s = (Action.outcome _ >>= _).runOn t s
    simp only [Action.runOn_bind, Action.runOn_outcome, run, ih]
  | see sight rest ih => exact ih

/-- The rest goes on from the result. -/
@[simp] theorem run_bind (p : Strand ω σ α) (f : α → Strand ω σ β) :
    (p >>= f).run = p.run >>= fun a => (f a).run := by
  funext t s
  change ((p.followed _).run).runOn t s = _
  rw [run_followed]
  change (Action.outcome p.run >>= _).runOn t s = (p.run >>= _).runOn t s
  rw [Action.runOn_bind, Action.runOn_bind, Action.runOn_outcome]
  cases p.run.runOn t s with
  | mk result s' => cases result <;> rfl

/-- The outcome is given as a value. -/
@[simp] theorem run_outcome (p : Strand ω σ α) : p.outcome.run = Action.outcome p.run := by
  rw [outcome, run_followed]
  exact bind_pure (Action.outcome p.run)

variable (host : Host ω)

private theorem run_attachThrough (backend : BackendId) :
    (attachThrough host backend : Strand ω σ HandleId).run = Action.attachThrough host backend := by
  simp [attachThrough, Action.attachThrough, Functor.discard, LawfulFunctor.map_const]

private theorem run_settleAttach (result : Except Fault HandleId) :
    (settleAttach result : Strand ω σ HandleId).run = Action.settleAttach result := by
  cases result with
  | ok id => simp [settleAttach, Action.settleAttach]
  | error reason => simp [settleAttach, Action.settleAttach]

private theorem run_attachThread :
    (attachThread host : Strand ω σ HandleId).run = Action.attachThread host := by
  simp [attachThread, Action.attachThread, Action.beginAttach, run_attachThrough, run_settleAttach]

/-- Asking for the handle of the thread. -/
theorem run_currentRuntime :
    (currentRuntime host : Strand ω σ HandleId).run = Action.currentRuntime host := by
  rw [currentRuntime, run_bind, run_atom, Action.currentRuntime]
  refine bind_congr fun a => ?_
  obtain ⟨handle?, failure?, attaching⟩ := a
  cases handle? with
  | some id => rfl
  | none =>
    cases failure? with
    | some failure => rfl
    | none =>
      cases attaching with
      | true => rfl
      | false => exact run_attachThread host

/-- A call through a handle. -/
theorem run_cross (id : HandleId) (call : Call) :
    (cross host id call : Strand ω σ Value).run = Action.cross host id call := by
  simp [cross, Action.cross]

private theorem run_detachHandle (id : HandleId) :
    (detachHandle host id : Strand ω σ Unit).run = Action.detachHandle host id := by
  simp [detachHandle, Action.detachHandle, run_cross, Functor.discard, LawfulFunctor.map_const]

/-- Detaching the thread. -/
theorem run_detachRuntime :
    (detachRuntime host : Strand ω σ Bool).run = Action.detachRuntime host := by
  simp only [detachRuntime, run_bind, run_atom, Action.detachRuntime]
  refine bind_congr fun a => bind_congr fun _ => bind_congr fun t => bind_congr fun _ => ?_
  cases a.handle? with
  | none => rfl
  | some id => simp [run_detachHandle]

end Strand

end HostBridge
