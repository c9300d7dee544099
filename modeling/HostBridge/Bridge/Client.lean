import HostBridge.Bridge.Performance

/-!
# Callers and their turns

A caller does operations one after another and may choose each by what the earlier ones gave. What it
does with the handle of its thread is again such a caller. Threads take turns, and a turn may be broken
off between any two operations, also inside of what is done with a handle.
-/

namespace HostBridge

variable {ω : Type}

/-- What a caller does on a thread. -/
inductive Client where
  /-- Nothing more. -/
  | finish (result : Except Fault Value)
  /-- An operation, and how to go on after it. -/
  | perform (op : Operation) (next : Except Fault Value → Client)
  /-- Something with the handle of the thread, and how to go on after it. -/
  | withRuntime (body : HandleId → Client) (next : Except Fault Value → Client)

namespace Client

/-- Do what a caller does. -/
def run (host : Host ω) : Client → Action ω Value
  | .finish result => MonadExcept.ofExcept result
  | .perform op next => do
    let result ← Action.outcome (op.run host)
    (next result).run host
  | .withRuntime body next => do
    let result ← Action.outcome (Action.withRuntime host fun rt => (body rt).run host)
    (next result).run host

/-- All operations that a caller may come to do are allowed. -/
def Uses (allowed : Operation → Prop) : Client → Prop
  | .finish _ => True
  | .perform op next => allowed op ∧ ∀ result, (next result).Uses allowed
  | .withRuntime body next =>
    (∀ rt, (body rt).Uses allowed) ∧ ∀ result, (next result).Uses allowed

/-- The second state is one that the caller passes between two operations, when it starts in the first. -/
inductive Passes (host : Host ω) (t : ThreadId) : Client → State ω → State ω → Prop
  | here {client : Client} {s : State ω} : Passes host t client s s
  | performed {op : Operation} {next : Except Fault Value → Client} {s s₁ s' : State ω}
      {result : Except Fault Value} (ran : (op.run host).runOn t s = (result, s₁))
      (rest : Passes host t (next result) s₁ s') : Passes host t (.perform op next) s s'
  | inside {body : HandleId → Client} {next : Except Fault Value → Client} {s s₁ s' : State ω}
      {rt : HandleId} (attached : (Action.currentRuntime host).runOn t s = (.ok rt, s₁))
      (rest : Passes host t (body rt) s₁ s') : Passes host t (.withRuntime body next) s s'
  | after {body : HandleId → Client} {next : Except Fault Value → Client} {s s₁ s' : State ω}
      {result : Except Fault Value}
      (ran : (Action.withRuntime host fun rt => (body rt).run host).runOn t s = (result, s₁))
      (rest : Passes host t (next result) s₁ s') : Passes host t (.withRuntime body next) s s'

end Client

/-- The states that threads reach by taking turns, in any order and number, as long as they keep to the
operations that are allowed. -/
inductive Host.Reaches (host : Host ω) (allowed : Operation → Prop) (start : State ω) :
    State ω → Prop
  | start : host.Reaches allowed start start
  | turn {s s' : State ω} {t : ThreadId} {client : Client} (before : host.Reaches allowed start s)
      (uses : client.Uses allowed) (passes : client.Passes host t s s') :
      host.Reaches allowed start s'

end HostBridge
