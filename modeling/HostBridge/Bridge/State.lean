import HostBridge.Bridge.Call
import HostBridge.Config.Store

/-!
# The state of the bridge

Which backend is installed, what every thread has attached, all handles and opaque values ever made, the
log, what has happened at the border to the backends, the configuration, and the world of the host.
Handles and opaque values are known by their place in the order of creation, so nothing is ever removed;
a released value has lost what it owned.
-/

namespace HostBridge

/-- What a thread has attached. -/
structure Attachment where
  /-- Its handle, if it is attached. -/
  handle? : Option HandleId
  /-- The fault of an attach that failed, until it is forgotten. -/
  failure? : Option Fault
  /-- Is an attach under way? -/
  attaching : Bool

/-- A thread that has never attached. -/
def Attachment.none : Attachment := { handle? := .none, failure? := .none, attaching := false }

/-- A runtime handle. -/
structure Handle where
  /-- The backend it was attached through. -/
  backend : BackendId
  /-- The thread it belongs to. -/
  owner : ThreadId
  /-- Has it been detached? -/
  detached : Bool
deriving DecidableEq, Repr

/-- A call that reached a backend. -/
structure Crossing where
  /-- The calling thread. -/
  thread : ThreadId
  /-- The backend. -/
  backend : BackendId
  /-- The call. -/
  call : Call
  /-- The handle it was made through; attaching needs none. -/
  through? : Option HandleId
  /-- How deep calls may still nest inside it. -/
  level : Nat

/-- What happens at the border between the bridge and its backends. -/
inductive Event where
  /-- A call reached a backend. -/
  | called (c : Crossing)
  /-- A call came back, perhaps with a fault. -/
  | returned (c : Crossing) (fault? : Option Fault)
  /-- A handle was made. -/
  | opened (id : HandleId)
  /-- A thread was asked to detach and to forget a failed attach. -/
  | forgotten (t : ThreadId)

/-- The state of the bridge over a host with world `ω`. -/
structure State (ω : Type) where
  /-- The installed backend, if one was chosen or needed. -/
  installed? : Option BackendId
  /-- What each thread has attached. -/
  attachments : ThreadId → Attachment
  /-- All handles. -/
  handles : List Handle
  /-- What each opaque value owns; released ones own nothing. -/
  owned : List (Option Value)
  /-- The log, latest entry first. -/
  log : List LogEntry
  /-- What happened at the border to the backends, latest first. -/
  journal : List Event
  /-- The configuration. -/
  store : Config.Store
  /-- The world of the host. -/
  world : ω

/-- A bridge computation on one thread: it sees the thread, changes the state and may fail. A computation
that fails keeps the changes it has made. -/
abbrev Action (ω : Type) := ReaderT ThreadId (ExceptT Fault (StateM (State ω)))

/-- How calls are carried out, given the handle they are made through. -/
abbrev Host (ω : Type) := Option HandleId → BackendId → Call → Action ω Value

namespace State

variable {ω : Type}

/-- Nothing has happened yet. -/
def initial (store : Config.Store) (world : ω) : State ω :=
  { installed? := none, attachments := fun _ => .none, handles := [], owned := [], log := []
    journal := [], store, world }

/-- Change what a thread has attached. -/
def setAttachment (s : State ω) (t : ThreadId) (a : Attachment) : State ω :=
  { s with attachments := fun u => if u = t then a else s.attachments u }

/-- What an opaque value owns. -/
def view (s : State ω) : OpaqueView := fun id => (s.owned[id.index]?).join

end State

namespace Action

variable {ω α : Type}

/-- What a computation comes to on a thread, and the state after it. -/
def runOn (p : Action ω α) (t : ThreadId) (s : State ω) : Except Fault α × State ω := p t s

/-- The calling thread. -/
def thread : Action ω ThreadId := read

/-- What the calling thread has attached. -/
def attachment : Action ω Attachment := return (← get).attachments (← thread)

/-- Change what the calling thread has attached. -/
def updateAttachment (f : Attachment → Attachment) : Action ω Unit := do
  let t ← thread
  modify fun s => s.setAttachment t (f (s.attachments t))

/-- Write to the log. -/
def log (entry : LogEntry) : Action ω Unit :=
  modify fun s => { s with log := entry :: s.log }

/-- Note what happened at the border. -/
def note (event : Event) : Action ω Unit :=
  modify fun s => { s with journal := event :: s.journal }

/-- Write a remark to the log. -/
def debug (logger message : String) : Action ω Unit := log ⟨.debug, logger, message⟩

/-- The outcome of a computation, as a value. -/
def outcome (p : Action ω α) : Action ω (Except Fault α) :=
  tryCatch (Except.ok <$> p) fun e => return .error e

/-- Read the configuration. -/
def configured (access : Config.Access α) : Action ω α := do
  let (result, store) := access.run (← get).store
  modify fun s => { s with store }
  MonadExcept.ofExcept result

end Action

end HostBridge
