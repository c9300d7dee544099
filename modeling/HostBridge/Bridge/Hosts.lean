import HostBridge.Bridge.Performance
import HostBridge.Jvm.Script
import HostBridge.Memory.Backends

/-!
# Hosts that call back

A host program is run by answering its requests with bridge operations, which in turn may call the host.
How deep this goes is limited; a request beyond the limit is refused with a fault. Two hosts are at hand, side by
side: a virtual machine that the default backend works on, and the in-memory host for all others.
-/

namespace HostBridge

variable {ω : Type}

namespace Request

/-- Answer a request. -/
def run (host : Host ω) : Request → Action ω Value
  | .perform op => op.run host
  | .turn t op => fun _ => op.run host t
  | .log entry => do
    Action.log entry
    return .nil

/-- Answer a request where calls may nest no deeper: only the log is still open. -/
def refuse : Request → Action ω Value
  | .log entry => do
    Action.log entry
    return .nil
  | _ => throw Fault.tooDeep

end Request

/-- Run the work of a host to its end, with these answers to its requests. -/
def Reply.run (answer : Request → Action ω Value) : Reply ω Value → Action ω Value
  | .answer w result => do
    modify fun s => { s with world := w }
    MonadExcept.ofExcept result
  | .callBack w request resume => do
    modify fun s => { s with world := w }
    let result ← Action.outcome (answer request)
    Reply.run answer (resume result (← get).world)

namespace HostProgram

/-- Carry a call out by running a host program. That a call reaches a backend, and how it comes back, is
noted. -/
def serve (program : HostProgram ω) (answer : Request → Action ω Value) (level : Nat) : Host ω :=
  fun through? backend call => do
    let crossing : Crossing := { thread := ← Action.thread, backend, call, through?, level }
    Action.note (.called crossing)
    let s ← get
    let result ← Action.outcome
      (Reply.run answer (program s.view crossing.thread backend call s.world))
    Action.note (.returned crossing (Fault.of? result))
    MonadExcept.ofExcept result

/-- The host that a program makes where calls may nest so deep. -/
def host (program : HostProgram ω) : Nat → Host ω
  | 0 => program.serve Request.refuse 0
  | level + 1 => program.serve (Request.run (program.host level)) (level + 1)

/-- How the requests of a program are answered where calls may nest so deep. -/
def answers (program : HostProgram ω) : Nat → Request → Action ω Value
  | 0 => Request.refuse
  | level + 1 => Request.run (program.host level)

end HostProgram

/-- How deep calls may nest. -/
def nestingLimit : Nat := 111

/-! ## The hosts at hand -/

/-- The worlds of both hosts. -/
structure Worlds where
  /-- The world in memory. -/
  memory : Memory.World
  /-- The virtual machine. -/
  machine : Jvm.Script

/-- Show both hosts what the opaque values own. -/
def Worlds.showing (view : OpaqueView) (w : Worlds) : Worlds :=
  { memory := { w.memory with owned := view }, machine := { w.machine with owned := view } }

/-- The two hosts as one: backend names tell which of them is meant. -/
def hosts : HostProgram Worlds := fun view t backend call => do
  modify (·.showing view)
  if backend = defaultBackend then
    (Jvm.perform Jvm.Script.interface t call).zoom Worlds.machine fun w machine => { w with machine }
  else (Memory.perform backend call).zoom Worlds.memory fun w memory => { w with memory }

/-- The host to use. -/
def host : Host Worlds := hosts.host nestingLimit

end HostBridge
