import HostBridge.Proofs.Strands

/-!
# Threads that take turns

A thread follows a script: it asks the bridge for something, sees what comes of it, and goes on by that. It
knows its handles only by the order in which it got them, and of what hosts answer it sees what a window
shows. All that it asks for is done in pieces, and threads take turns between any two of them.
-/

namespace HostBridge

variable {ω τ : Type}

/-- A primitive of a handle. The target of a static method is an object that the host gives, so a static
method is only called where nothing is kept from the thread. -/
inductive Use (shows : Except Fault Value → τ) where
  /-- Look a class up. -/
  | staticClass (name : Value)
  /-- Call a static method. -/
  | invokeStatic (exact : Function.Injective shows) (className : Value) (method : String) (args : List Value)
  /-- Read a field. -/
  | readField (target : Value) (name : String)
  /-- Call a method. -/
  | invokeMethod (target : Value) (method : String) (args : List Value)
  /-- Turn a primitive into an object. -/
  | box (v : Value)
  /-- Turn an object into a primitive. -/
  | unbox (ref : Value)

/-- What a thread asks of the bridge. It knows its handles by the order in which it got them. -/
inductive Ask (shows : Except Fault Value → τ) where
  /-- The handle of the thread, attached if need be. -/
  | currentRuntime
  /-- Detach the thread. -/
  | detachRuntime
  /-- Has the thread a handle? -/
  | hasRuntime
  /-- Use one of its handles. -/
  | through (k : Nat) (use : Use shows)
  /-- Detach one of its handles. -/
  | detachHandle (k : Nat)

/-- What a thread sees of what it asked for. -/
inductive Sight (τ : Type) where
  /-- It got a handle. -/
  | handle
  /-- A truth value. -/
  | truth (b : Bool)
  /-- It was done. -/
  | done
  /-- The bridge or the backend refused. -/
  | refused (fault : Fault)
  /-- The host worked on a call, and this is seen through the window. -/
  | answered (x : τ)
  /-- There is no such handle yet. -/
  | missing
deriving Repr

/-- See an outcome. -/
def Sight.of {α : Type} (sees : α → Sight τ) : Except Fault α → Sight τ
  | .ok a => sees a
  | .error fault => .refused fault

/-- What a thread does: it asks for something, and goes on by what it sees. -/
inductive Script (shows : Except Fault Value → τ) where
  /-- Nothing more. -/
  | finish
  /-- Ask for something. -/
  | step (ask : Ask shows) (next : Sight τ → Script shows)

section Pieces

variable {shows : Except Fault Value → τ}

/-- Use a handle. -/
def Use.run (host : Host ω) (rt : HandleId) : Use shows → Action ω Value
  | .staticClass name => Action.staticClass host rt name
  | .invokeStatic _ className method args => Action.invokeStatic host rt className method args
  | .readField target name => Action.readField host rt target name
  | .invokeMethod target method args => Action.invokeMethod host rt target method args
  | .box v => Action.box host rt v
  | .unbox ref => Action.unbox host rt ref

/-- The calls to the backend in using a handle, once that has been checked. -/
def Use.calls (host : Host ω) (rt : HandleId) (b : BackendId) : Use shows → Strand ω (Sight τ) Value
  | .staticClass name => .atom (host (some rt) b (.staticClass name))
  | .invokeStatic _ className method args => do
    let target ← .atom (host (some rt) b (.staticClass className))
    .atom (host (some rt) b (.invoke target method args))
  | .readField target name => .atom (host (some rt) b (.field target name))
  | .invokeMethod target method args => .atom (host (some rt) b (.invoke target method args))
  | .box v => .atom (host (some rt) b (.box v))
  | .unbox ref => .atom (host (some rt) b (.unbox ref))

private theorem Use.run_calls (host : Host ω) (rt : HandleId) (use : Use shows) :
    (do use.calls host rt (← .atom (Action.checked rt)) : Strand ω (Sight τ) Value).run =
      use.run host rt := by
  cases use with
  | staticClass name => exact Strand.run_cross host rt (.staticClass name)
  | readField target name => exact Strand.run_cross host rt (.field target name)
  | invokeMethod target method args => exact Strand.run_cross host rt (.invoke target method args)
  | box v => exact Strand.run_cross host rt (.box v)
  | unbox ref => exact Strand.run_cross host rt (.unbox ref)
  | invokeStatic exact className method args => simp [calls, run, Action.invokeStatic]

/-- In one go, the handle of the thread is got, checked and used as `withRuntime` does. -/
theorem Use.run_withRuntime (host : Host ω) (use : Use shows) :
    (do
      let rt ← Strand.currentRuntime host
      use.calls host rt (← .atom (Action.checked rt)) : Strand ω (Sight τ) Value).run =
      Action.withRuntime host (use.run host) := by
  rw [Strand.run_bind, Strand.run_currentRuntime, Action.withRuntime]
  exact bind_congr fun rt => use.run_calls host rt

/-- Do something with the handle of the thread, attached if need be. Without a handle, go on by the fault. -/
def Script.withRuntime (body : Script shows) (otherwise : Fault → Script shows) : Script shows :=
  .step .currentRuntime fun
    | .refused fault => otherwise fault
    | _ => body

/-- The pieces of what is asked for. The thread sees what comes of it, and goes on by that and the handles it
has got by then. -/
def Ask.strand (host : Host ω) (handles : List HandleId)
    (next : Sight τ → List HandleId → Strand ω (Sight τ) Unit) : Ask shows → Strand ω (Sight τ) Unit
  | .currentRuntime => (Strand.currentRuntime host).followed fun result =>
    told (Sight.of (fun _ => .handle) result) (handles ++ result.toOption.toList)
  | .detachRuntime => (Strand.detachRuntime host).followed fun result =>
    told (Sight.of .truth result) handles
  | .hasRuntime => (Strand.atom Action.hasRuntime).followed fun result =>
    told (Sight.of .truth result) handles
  | .through k use =>
    match handles[k]? with
    | none => told .missing handles
    | some rt => (Strand.atom (Action.checked rt)).followed fun
      | .error fault => told (.refused fault) handles
      | .ok b => (use.calls host rt b).followed fun result => told (.answered (shows result)) handles
  | .detachHandle k =>
    match handles[k]? with
    | none => told .missing handles
    | some rt => (Strand.detachHandle host rt).followed fun result =>
      told (Sight.of (fun _ => .done) result) handles
where
  /-- See something, and go on. -/
  told (sight : Sight τ) (handles : List HandleId) : Strand ω (Sight τ) Unit := .see sight (next sight handles)

/-- The pieces of a script. -/
def Script.strand (host : Host ω) : Script shows → List HandleId → Strand ω (Sight τ) Unit
  | .finish, _ => .finish (.ok ())
  | .step ask next, handles =>
    ask.strand host handles fun sight handles => (next sight).strand host handles

end Pieces

/-! ### Turns -/

/-- A thread under way: the pieces it has still to do, and what it has seen, in order. -/
structure Running (ω τ : Type) : Type 1 where
  /-- What it has still to do. -/
  rest : Strand ω (Sight τ) Unit
  /-- What it has seen. -/
  seen : List (Sight τ)

/-- A thread that has still its whole script to do. -/
def Script.begin {shows : Except Fault Value → τ} (host : Host ω) (script : Script shows) : Running ω τ :=
  { rest := script.strand host [], seen := [] }

/-- A thread does its next piece. -/
def Running.advance (t : ThreadId) (running : Running ω τ) (s : State ω) : Running ω τ × State ω :=
  match running.rest with
  | .finish _ => (running, s)
  | .piece first rest =>
    let ended := first.runOn t s
    ({ running with rest := rest ended.1 }, ended.2)
  | .see sight rest => ({ rest, seen := running.seen ++ [sight] }, s)

/-- Let a thread do its next piece, the others waiting. -/
def turn (t : ThreadId) (now : (ThreadId → Running ω τ) × State ω) : (ThreadId → Running ω τ) × State ω :=
  let ended := (now.1 t).advance t now.2
  (fun u => if u = t then ended.1 else now.1 u, ended.2)

/-- Threads take turns in this order. -/
def interleave :
    List ThreadId → (ThreadId → Running ω τ) × State ω → (ThreadId → Running ω τ) × State ω
  | [], now => now
  | t :: rest, now => interleave rest (turn t now)

end HostBridge
