import HostBridge.Value.Text
import HostBridge.Bridge.Operation

/-!
# Calls to a host, and what a host may ask in between

A backend reaches its host through seven calls. While a host works on a call it may come back to the
bridge, for instance when a hosted function calls a bridge operation, and other threads may go on; its
work is then a tree of such requests with answers at the leaves. The tree carries the world that the host
keeps between calls.
-/

namespace HostBridge

/-- What a backend is asked to do. -/
inductive Call where
  /-- Attach the calling thread. -/
  | attach
  /-- Detach the calling thread. -/
  | detach
  /-- Look a class up. -/
  | staticClass (name : Value)
  /-- Read a field. -/
  | field (target : Value) (name : String)
  /-- Call a method. -/
  | invoke (target : Value) (method : String) (args : List Value)
  /-- Turn a primitive into an object of the host. -/
  | box (v : Value)
  /-- Turn an object of the host into a primitive. -/
  | unbox (ref : Value)
deriving Repr

namespace Call

/-- The name of a call. -/
def name : Call → String
  | .attach => "attach_thread"
  | .detach => "detach_thread"
  | .staticClass _ => "static_class"
  | .field .. => "field"
  | .invoke .. => "invoke"
  | .box _ => "box"
  | .unbox _ => "unbox"

/-- Is it a call to attach? -/
def isAttach : Call → Bool
  | .attach => true
  | _ => false

/-- Is it a call to detach? -/
def isDetach : Call → Bool
  | .detach => true
  | _ => false

/-- Is it one of the calls that need a handle and leave it attached? -/
def isPrimitive : Call → Bool
  | .attach | .detach => false
  | _ => true

/-- The class, field or method that a call names. -/
def subject? : Call → Option String
  | .staticClass (.text name) => some name
  | .field _ name => some name
  | .invoke _ method _ => some method
  | _ => none

end Call

/-- How grave a log entry is. -/
inductive Gravity where
  | debug
  | error
deriving DecidableEq, Repr

/-- An entry in the log. -/
structure LogEntry where
  /-- How grave it is. -/
  gravity : Gravity
  /-- The logger. -/
  logger : String
  /-- The message. -/
  message : String
deriving DecidableEq, Repr

/-- What a host may ask of the bridge while it works on a call. -/
inductive Request where
  /-- Carry out an operation on the calling thread. -/
  | perform (op : Operation)
  /-- Let another thread carry out an operation meanwhile. -/
  | turn (t : ThreadId) (op : Operation)
  /-- Write to the log. -/
  | log (entry : LogEntry)

/-- The work of a host whose world is `ω`: an answer, or a request and how to go on after it. -/
inductive Reply (ω α : Type) where
  | answer (world : ω) (result : Except Fault α)
  | callBack (world : ω) (request : Request) (resume : Except Fault Value → ω → Reply ω α)

namespace Reply

variable {ω σ α β : Type}

/-- Go on after a successful answer. -/
def bind : Reply ω α → (α → ω → Reply ω β) → Reply ω β
  | .answer w (.ok a), next => next a w
  | .answer w (.error e), _ => .answer w (.error e)
  | .callBack w request resume, next =>
    .callBack w request fun result w => (resume result w).bind next

/-- Go on after a fault. -/
def handle : Reply ω α → (Fault → ω → Reply ω α) → Reply ω α
  | .answer w (.ok a), _ => .answer w (.ok a)
  | .answer w (.error e), onFault => onFault e w
  | .callBack w request resume, onFault =>
    .callBack w request fun result w => (resume result w).handle onFault

/-- The work of a host whose world is part of a larger one. -/
def zoom (part : σ → ω) (replace : σ → ω → σ) (whole : σ) : Reply ω α → Reply σ α
  | .answer w result => .answer (replace whole w) result
  | .callBack w request resume =>
    .callBack (replace whole w) request fun result whole =>
      (resume result (part whole)).zoom part replace whole

end Reply

/-- Work of a host, from any world. -/
def Hosted (ω α : Type) : Type := ω → Reply ω α

namespace Hosted

variable {ω σ α β : Type}

instance : Monad (Hosted ω) where
  pure a := fun w => .answer w (.ok a)
  bind p next := fun w => (p w).bind next

instance : MonadStateOf ω (Hosted ω) where
  get := fun w => .answer w (.ok w)
  set w := fun _ => .answer w (.ok ⟨⟩)
  modifyGet f := fun w => .answer (f w).2 (.ok (f w).1)

instance : MonadExceptOf Fault (Hosted ω) where
  throw e := fun w => .answer w (.error e)
  tryCatch p onFault := fun w => (p w).handle onFault

/-- Ask the bridge for something. -/
def request (q : Request) : Hosted ω Value :=
  fun w => .callBack w q fun result w => .answer w result

/-- Work on a part of a larger world. -/
def zoom (part : σ → ω) (replace : σ → ω → σ) (p : Hosted ω α) : Hosted σ α :=
  fun whole => (p (part whole)).zoom part replace whole

end Hosted

/-- A host: what it does for each call to each of its backends, by calling thread. It is shown what the
opaque values own. -/
abbrev HostProgram (ω : Type) := OpaqueView → ThreadId → BackendId → Call → Hosted ω Value

end HostBridge
