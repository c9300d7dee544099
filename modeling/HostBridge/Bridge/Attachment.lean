import HostBridge.Bridge.State

/-!
# Attaching threads

Every thread attaches on its own, on first use, and keeps its handle until it detaches. An attach that
fails is remembered: until the thread detaches, every later use fails at once and names the first failure
as its cause. While a thread attaches, the attempt cannot be entered again.
-/

namespace HostBridge

/-- The backend that is used when none is installed. -/
def defaultBackend : BackendId := ⟨"jpype"⟩

namespace Action

variable {ω : Type}

/-- The logger of this module. -/
def handleLogger : String := "cljbridge.runtime.handle"

/-- Install a backend, or none (`set_backend`). Handles keep the backend they were attached through. -/
def setBackend (backend? : Option BackendId) : Action ω Unit :=
  modify fun s => { s with installed? := backend? }

/-- The installed backend; if there is none the default one is installed (`get_backend`). -/
def getBackend : Action ω BackendId := do
  match (← get).installed? with
  | some b => return b
  | none =>
    setBackend (some defaultBackend)
    return defaultBackend

/-- Add a handle. -/
def newHandle (backend : BackendId) (owner : ThreadId) : Action ω HandleId := do
  let id ← modifyGet fun s =>
    (⟨s.handles.length⟩, { s with handles := s.handles ++ [{ backend, owner, detached := false }] })
  note (.opened id)
  return id

/-- Attach through a backend (`RuntimeHandle.attach`). -/
def attachThrough (host : Host ω) (backend : BackendId) : Action ω HandleId := do
  discard <| host none backend .attach
  let t ← thread
  let id ← newHandle backend t
  debug handleLogger ("Attached runtime handle on thread " ++ t.label)
  return id

/-- The fault of an attach that failed for a reason of its own. -/
def attachFault (reason : Fault) : Fault :=
  match reason with
  | .bridge .attachment .. => reason
  | _ => .bridge .attachment ("Runtime attach failed: " ++ reason.text) none none (some reason)

/-- The fault of using a thread whose attach has failed before. -/
def attachedBefore (failure : Fault) : Fault :=
  .bridge .attachment ("Runtime attach previously failed on this thread: " ++ failure.text) none none
    (some failure)

/-- The fault of attaching while attaching. -/
def attachReentered : Fault :=
  .plain .attachment "Runtime attach re-entered while attaching on this thread"

/-- Mark the calling thread as attaching, and choose the backend. -/
def beginAttach : Action ω BackendId := do
  updateAttachment fun a => { a with attaching := true }
  getBackend

/-- Remember how an attach of the calling thread went. -/
def settleAttach : Except Fault HandleId → Action ω HandleId
  | .ok id => do
    updateAttachment fun a => { a with attaching := false, handle? := some id }
    return id
  | .error reason => do
    let failure := attachFault reason
    updateAttachment fun a => { a with failure? := some failure }
    log ⟨.error, handleLogger, "Attaching thread " ++ (← thread).label ++ " failed: " ++ reason.text⟩
    updateAttachment fun a => { a with attaching := false }
    throw failure

/-- Attach the calling thread. -/
def attachThread (host : Host ω) : Action ω HandleId := do
  let backend ← beginAttach
  settleAttach (← outcome (attachThrough host backend))

/-- The handle of the calling thread, attached if need be (`current_runtime`). -/
def currentRuntime (host : Host ω) : Action ω HandleId := do
  let a ← attachment
  match a.handle?, a.failure? with
  | some id, _ => return id
  | none, some failure => throw (attachedBefore failure)
  | none, none => if a.attaching then throw attachReentered else attachThread host

/-- Has the calling thread a handle (`has_runtime`)? -/
def hasRuntime : Action ω Bool := return (← attachment).handle?.isSome

/-- The fault of using a handle that has been detached. -/
def detachedBefore : Fault := .plain .bridge "Runtime handle used after detach"

/-- The fault of using the handle of another thread. -/
def foreignHandle (owner user : ThreadId) : Fault :=
  .plain .bridge ("Runtime handle of thread " ++ owner.label ++ " used from thread " ++ user.label)

/-- The backend of a handle, which has to be live and the calling thread's own (`_check_thread`). -/
def checked (id : HandleId) : Action ω BackendId := do
  match (← get).handles[id.index]? with
  | none => throw detachedBefore
  | some handle =>
    if handle.detached then throw detachedBefore
    let t ← thread
    if handle.owner = t then return handle.backend else throw (foreignHandle handle.owner t)

/-- Mark a handle as detached. -/
def markDetached (id : HandleId) : Action ω Unit :=
  modify fun s => { s with handles := s.handles.modify id.index fun h => { h with detached := true } }

/-- Make a call through a handle. -/
def cross (host : Host ω) (id : HandleId) (call : Call) : Action ω Value := do
  host (some id) (← checked id) call

/-- Detach a handle (`RuntimeHandle.detach`). -/
def detachHandle (host : Host ω) (id : HandleId) : Action ω Unit := do
  discard <| cross host id .detach
  markDetached id
  debug handleLogger ("Detached runtime handle on thread " ++ (← thread).label)

/-- Detach the calling thread and forget a failed attach (`detach_runtime`). Says whether there was a handle. -/
def detachRuntime (host : Host ω) : Action ω Bool := do
  let a ← attachment
  updateAttachment fun a => { a with handle? := none, failure? := none }
  note (.forgotten (← thread))
  match a.handle? with
  | none => return false
  | some id =>
    detachHandle host id
    return true

/-- Run a computation with the handle of the calling thread (`with_runtime`). -/
def withRuntime {α : Type} (host : Host ω) (body : HandleId → Action ω α) : Action ω α := do
  body (← currentRuntime host)

/-- Look a class up (`static_class`). -/
def staticClass (host : Host ω) (id : HandleId) (name : Value) : Action ω Value :=
  cross host id (.staticClass name)

/-- Call a static method (`invoke_static`). The handle is checked once, before the class is looked up. -/
def invokeStatic (host : Host ω) (id : HandleId) (className : Value) (method : String)
    (args : List Value) : Action ω Value := do
  let backend ← checked id
  let target ← host (some id) backend (.staticClass className)
  host (some id) backend (.invoke target method args)

/-- Read a field (`field`). -/
def readField (host : Host ω) (id : HandleId) (target : Value) (name : String) : Action ω Value :=
  cross host id (.field target name)

/-- Call a method (`invoke`). -/
def invokeMethod (host : Host ω) (id : HandleId) (target : Value) (method : String)
    (args : List Value) : Action ω Value :=
  cross host id (.invoke target method args)

/-- Turn a primitive into an object of the host (`box`). -/
def box (host : Host ω) (id : HandleId) (v : Value) : Action ω Value :=
  cross host id (.box v)

/-- Turn an object of the host into a primitive (`unbox`). -/
def unbox (host : Host ω) (id : HandleId) (ref : Value) : Action ω Value :=
  cross host id (.unbox ref)

end Action

end HostBridge
