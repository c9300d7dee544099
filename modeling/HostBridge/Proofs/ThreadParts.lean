import HostBridge.Bridge.Hosts

/-!
# Hosts with a part for every thread

A host may keep a part of its world for each thread, and work on a call of a thread without touching the
parts of the others. What attaching or detaching a thread comes to then depends on the calls of that
thread only. What the other calls come to may depend on everything; a window says how much of that a
thread gets to see.
-/

namespace HostBridge

variable {ω σ τ : Type}

/-- The outcomes are the same, unless each is a handle. -/
def SameButHandles (r r' : Except Fault Value) : Prop :=
  r = r' ∨ ∃ id id', r = .ok (.handle id) ∧ r' = .ok (.handle id')

/-- A host asks about the attachment of the calling thread, or writes to the log. -/
def Request.IsOwn : Request → Prop
  | .perform .currentRuntime | .perform .detachRuntime | .perform .hasRuntime | .log _ => True
  | _ => False

/-- Two worlds have the same part for a thread, and the first one has the parts that it started with for the
other threads. -/
structure SamePart (part : ThreadId → ω → σ) (t : ThreadId) (start w w' : ω) : Prop where
  own : part t w = part t w'
  others : ∀ u, u ≠ t → part u w = part u start

/-- Work on the same thread that goes the same way where the part of the thread is the same, and that leaves
the parts of the other threads as they were at the start. -/
def Reply.InStep (part : ThreadId → ω → σ) (t : ThreadId)
    (alike : Except Fault Value → Except Fault Value → Prop) (start : ω) :
    Reply ω Value → Reply ω Value → Prop
  | .answer w r, .answer w' r' => SamePart part t start w w' ∧ alike r r'
  | .callBack w request resume, .callBack w' request' resume' =>
    SamePart part t start w w' ∧ request = request' ∧ request.IsOwn ∧
      ∀ r r' v v', SameButHandles r r' → SamePart part t start v v' →
        (resume r v).InStep part t alike start (resume' r' v')
  | _, _ => False

/-- The outcomes of a call are alike: of attaching and detaching, whether they failed and how; of the other
calls, what is seen of them through the window. -/
def Call.Alike (shows : Except Fault Value → τ) (call : Call) (r r' : Except Fault Value) : Prop :=
  if call.isPrimitive then shows r = shows r' else Fault.of? r = Fault.of? r'

/-- The backend keeps a part of the world for each thread. A call on a thread leaves the other parts alone;
what becomes of the part of the thread, and how the outcome looks, depends on that part alone. -/
def HostProgram.Separate (part : ThreadId → ω → σ) (shows : Except Fault Value → τ)
    (program : HostProgram ω) (b : BackendId) : Prop :=
  ∀ view t call w w', part t w = part t w' →
    (program view t b call w).InStep part t (call.Alike shows) w (program view t b call w')

/-- The calls that attached or detached a thread, latest first. -/
def State.callsOn (s : State ω) (t : ThreadId) : List (BackendId × Call) :=
  s.journal.filterMap fun
    | .called c => if c.thread = t ∧ c.call.isPrimitive = false then some (c.backend, c.call) else none
    | _ => none

end HostBridge
