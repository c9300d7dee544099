import HostBridge.Proofs.Sequence

/-!
# What operations are made of

Every operation is a row of calls through a handle, of a few other steps at the border to the backends, and of
steps that only keep the books of the bridge. A property of rows holds of every operation as soon as it holds
of these. Keeping to a course is one.
-/

namespace HostBridge

variable {ω : Type}

open HostBridge.Action (Keeps)

/-- A property of rows that also holds of failing, of going on by an outcome, of writing to the log and of
choosing the backend. -/
structure Stepwise (P : ∀ {α : Type}, Action ω α → Prop) : Prop extends Sequential P where
  throw : ∀ {α : Type} (fault : Fault), P (MonadExcept.throw fault : Action ω α)
  outcome : ∀ {α : Type} {p : Action ω α}, P p → P (Action.outcome p)
  log : ∀ entry, P (Action.log entry : Action ω Unit)
  getBackend : P (Action.getBackend : Action ω BackendId)

namespace Stepwise

variable {P : ∀ {α : Type}, Action ω α → Prop} {α β : Type}

/-- Giving an outcome is giving a value or failing. -/
theorem ofExcept (h : Stepwise P) (r : Except Fault α) : P (MonadExcept.ofExcept r : Action ω α) := by
  cases r with
  | ok a => exact h.pure a
  | error fault => exact h.throw fault

private theorem map (h : Stepwise P) {p : Action ω α} (f : α → β) (first : P p) : P (f <$> p) := by
  rw [map_eq_pure_bind]
  exact h.bind first fun a => h.pure (f a)

private theorem discard (h : Stepwise P) {p : Action ω α} (first : P p) : P (Functor.discard p) := by
  rw [Functor.discard, LawfulFunctor.map_const]
  exact h.map _ first

private theorem debug (h : Stepwise P) (logger message : String) : P (Action.debug logger message : Action ω Unit) :=
  h.log _

private theorem onHostFault (h : Stepwise P) {body : Action ω α} {answer : Fault → Action ω Fault} (first : P body)
    (answers : ∀ fault, P (answer fault)) : P (Action.onHostFault body answer) := by
  refine h.bind (h.outcome first) fun r => ?_
  cases r with
  | ok a => exact h.pure a
  | error fault =>
    dsimp only
    split
    · exact h.bind (answers _) fun _ => h.throw _
    · exact h.throw _

end Stepwise

/-- Resolving a name looks it up, and owns what it finds. -/
theorem Host.Looks.resolve {P : ∀ {α : Type}, Action ω α → Prop} {host : Host ω} (h : host.Looks P)
    (steps : Stepwise P) (own : ∀ v, P (Action.own v : Action ω OpaqueId)) (ns name : String) :
    P (Action.resolve host ns name) := by
  refine h.bind (steps.onHostFault ?_ fun e => ?_) fun found => ?_
  · exact h.withRuntime fun rt => h.lookUp rt ns name
  · exact h.bind (steps.debug _ _) fun _ => h.pure _
  · cases found with
    | noNamespace => exact steps.throw _
    | notBound => exact h.bind (steps.debug _ _) fun _ => steps.throw _
    | bound var =>
      refine h.bind (steps.debug _ _) fun _ => ?_
      exact h.bind (own var) fun _ => h.pure _

/-- A property of rows that also holds of the steps in which the bridge keeps its books: of reading the entry
class in the configuration, of owning, and of releasing where that is allowed. -/
structure Bookkeeping (allowed : Operation → Prop) (P : ∀ {α : Type}, Action ω α → Prop) : Prop
    extends Stepwise P where
  entryClass : P (Config.BridgeConfig.entryClass <$> Action.configured Config.Store.bridgeConfig :
    Action ω String)
  hasRuntime : P (Action.hasRuntime : Action ω Bool)
  setBackend : ∀ backend?, P (Action.setBackend backend? : Action ω Unit)
  own : ∀ v, P (Action.own v : Action ω OpaqueId)
  released : ∀ id, P (Action.released id : Action ω Bool)
  release : ∀ id, allowed (.release id) → P (Action.release id : Action ω Bool)

namespace Operation

/-- The operations that have nothing to do with the host. -/
def IsLocal : Operation → Prop
  | .give _ | .hasRuntime | .setBackend _ | .getBackend | .own _ | .reference _ | .release _ | .released _
  | .isNil _ | .toArgument _ | .toArguments _ => True
  | _ => False

private theorem run_of_isLocal {allowed : Operation → Prop} {P : ∀ {α : Type}, Action ω α → Prop}
    (h : Bookkeeping allowed P) (host : Host ω) {op : Operation} (isLocal : op.IsLocal) (ok : allowed op) :
    P (op.run host) := by
  cases op with
  | give v => exact h.pure v
  | hasRuntime => exact h.bind h.hasRuntime fun _ => h.pure _
  | setBackend b => exact h.bind (h.setBackend b) fun _ => h.pure _
  | getBackend => exact h.bind h.getBackend fun _ => h.pure _
  | own v => exact h.bind (h.own v) fun _ => h.pure _
  | reference id => exact h.reference id
  | release id => exact h.bind (h.release id ok) fun _ => h.pure _
  | released id => exact h.bind (h.released id) fun _ => h.pure _
  | isNil id =>
    refine h.bind (h.bind (h.reference id) fun v => ?_) fun _ => h.pure _
    split <;> exact h.pure _
  | toArgument v => exact h.bind (h.ofExcept _) fun _ => h.pure _
  | toArguments vs =>
    simp only [run]
    split
    · exact h.bind (h.ofExcept _) fun _ => h.pure _
    · exact h.throw _
  | _ => exact isLocal.elim

end Operation

private theorem Action.readString_eq (host : Host ω) (text : String) :
    readString host text = (do
      let entry ← Config.BridgeConfig.entryClass <$> configured Config.Store.bridgeConfig
      let read := withRuntime host fun rt => do
        let boxed ← box host rt (.text text)
        invokeStatic host rt (.text entry) "read" [boxed]
      let v ← onHostFault read fun fault => do
        debug namespaceLogger ("Reading " ++ Text.quote text ++ " failed: " ++ fault.text)
        return .fromHost .parse "Could not read source text" fault
      own v) := by
  rw [bind_map_left]
  rfl

/-- A property that a host carries over to all operations that are allowed: the books are kept, and it holds of
what threads do at the border. -/
structure Host.Carries (allowed : Operation → Prop) (P : ∀ {α : Type}, Action ω α → Prop) (host : Host ω) :
    Prop extends host.Calls P, Bookkeeping allowed P where
  detachRuntime : P (Action.detachRuntime host)
  detachHandle : ∀ id, allowed (.detachHandle id) → P (Action.detachHandle host id)

namespace Host.Carries

variable {allowed : Operation → Prop} {P : ∀ {α : Type}, Action ω α → Prop} {host : Host ω}

private theorem invoke (h : host.Carries allowed P) (f : Callable) (args : Value) : P (Action.invoke host f args) := by
  refine h.bind (h.ofExcept _) fun arguments => ?_
  refine h.bind (h.reference _) fun target => ?_
  refine h.bind (h.onHostFault ?_ fun e => ?_) fun result => h.own result
  · refine h.withRuntime fun rt => ?_
    exact h.bind (h.allToHost rt arguments) fun values => h.cross rt _ rfl
  · exact h.bind (h.debug _ _) fun _ => h.pure _

private theorem findNamespace (h : host.Carries allowed P) (ns : String) : P (Action.findNamespace host ns) := by
  refine h.bind (h.onHostFault ?_ fun e => h.pure _) fun found => ?_
  · exact h.withRuntime fun rt => h.looks.lookUpNamespace rt ns
  · split
    · exact h.throw _
    · exact h.own _

private theorem resolve (h : host.Carries allowed P) (ns name : String) : P (Action.resolve host ns name) :=
  h.looks.resolve h.toStepwise h.own ns name

private theorem require (h : host.Carries allowed P) (ns : String) : P (Action.require host ns) := by
  refine h.bind (h.debug _ _) fun _ => ?_
  refine h.bind (h.outcome ?_) fun r => ?_
  · refine h.bind (h.withRuntime fun rt => h.looks.internSymbol rt ns) fun v => ?_
    refine h.bind (h.own v) fun symbol => ?_
    exact h.bind (h.resolve _ _) fun f => h.invoke f _
  · cases r with
    | ok a => exact h.pure _
    | error fault =>
      refine h.bind ?_ fun _ => h.throw _
      unfold Action.loadFault
      split
      · exact h.pure _
      · exact h.bind (h.debug _ _) fun _ => h.pure _
      · exact h.bind (h.debug _ _) fun _ => h.pure _
      · exact h.pure _

private theorem readString (h : host.Carries allowed P) (text : String) : P (Action.readString host text) := by
  rw [Action.readString_eq]
  refine h.bind h.entryClass fun entry => ?_
  refine h.bind (h.onHostFault ?_ fun e => ?_) fun v => h.own v
  · exact h.withRuntime fun rt => h.bind (h.cross rt _ rfl) fun _ => h.invokeStatic rt _ _ _
  · exact h.bind (h.debug _ _) fun _ => h.pure _

private theorem evalString (h : host.Carries allowed P) (text : String) : P (Action.evalString host text) := by
  refine h.bind (h.resolve _ _) fun f => ?_
  refine h.bind (h.outcome (h.invoke f _)) fun r => ?_
  cases r with
  | ok id => exact h.pure id
  | error fault =>
    dsimp only
    split
    · exact h.bind (h.debug _ _) fun _ => h.throw _
    · exact h.throw _

private theorem toPrimitive (h : host.Carries allowed P) (id : OpaqueId) : P (Action.toPrimitive host id) := by
  refine h.bind (h.reference id) fun v => ?_
  split
  · exact h.pure _
  · refine h.bind (h.outcome (h.withRuntime fun rt => h.cross rt _ rfl)) fun r => ?_
    cases r with
    | ok v => exact h.pure v
    | error fault => exact h.throw _

private theorem printValue (h : host.Carries allowed P) (id : OpaqueId) : P (Action.printValue host id) := by
  refine h.bind (h.reference id) fun ref => ?_
  refine h.onHostFault ?_ fun e => h.pure _
  refine h.withRuntime fun rt => ?_
  refine h.bind (h.cross rt _ rfl) fun system => ?_
  refine h.bind (h.cross rt _ rfl) fun out => ?_
  refine h.bind (h.shown rt ref) fun shown => ?_
  exact h.discard (h.cross rt _ rfl)

private theorem printed (h : host.Carries allowed P) (v : Value) : P (Action.printed host v) :=
  h.bind (h.resolve _ _) fun f => h.invoke f _

private theorem callWithRuntime (h : host.Carries allowed P) (f : Value) : P (Action.callWithRuntime host f) := by
  refine h.withRuntime fun rt => ?_
  split
  · exact h.invoke _ _
  · exact h.throw _

/-- The property holds of every operation that is allowed. -/
theorem run (h : host.Carries allowed P) (op : Operation) (ok : allowed op) : P (op.run host) := by
  by_cases isLocal : op.IsLocal
  · exact Operation.run_of_isLocal h.toBookkeeping host isLocal ok
  cases op with
  | currentRuntime => exact h.bind h.currentRuntime fun _ => h.pure _
  | detachRuntime => exact h.bind h.detachRuntime fun _ => h.pure _
  | findNamespace ns => exact h.bind (h.findNamespace ns) fun _ => h.pure _
  | namespaceHandle ns => exact h.bind (h.discard (h.findNamespace ns)) fun _ => h.pure _
  | resolve ns name => exact h.bind (h.resolve ns name) fun _ => h.pure _
  | require ns => exact h.bind (h.require ns) fun _ => h.pure _
  | read text => exact h.bind (h.readString text) fun _ => h.pure _
  | evaluate text => exact h.bind (h.evalString text) fun _ => h.pure _
  | readForms forms =>
    exact h.bind (h.bind (h.ofExcept _) fun _ => h.readString _) fun _ => h.pure _
  | evalForms forms =>
    exact h.bind (h.bind (h.ofExcept _) fun _ => h.evalString _) fun _ => h.pure _
  | invoke f args => exact h.bind (h.invoke f args) fun _ => h.pure _
  | toPrimitive id => exact h.toPrimitive id
  | printValue v =>
    simp only [Operation.run]
    split
    · exact h.bind (h.printValue _) fun _ => h.pure _
    · exact h.throw _
  | prStr v => exact h.bind (h.printed v) fun id => h.toPrimitive id
  | printLazy v => exact h.bind (h.bind (h.printed v) fun id => h.printValue id) fun _ => h.pure _
  | withRuntime f => exact h.bind (h.callWithRuntime f) fun _ => h.pure _
  | toHost a => exact h.withRuntime fun rt => h.toHost rt a
  | staticClass rt name => exact h.cross rt _ rfl
  | invokeStatic rt className method args => exact h.invokeStatic rt _ _ _
  | readField rt target name => exact h.cross rt _ rfl
  | invokeMethod rt target method args => exact h.cross rt _ rfl
  | box rt v => exact h.cross rt _ rfl
  | unbox rt ref => exact h.cross rt _ rfl
  | detachHandle rt => exact h.bind (h.detachHandle rt ok) fun _ => h.pure _
  | _ => exact (isLocal trivial).elim

end Host.Carries

/-! ### Keeping to a course -/

namespace Action.Keeps

variable {R : State ω → State ω → Prop}

/-- Paths hold across rows of steps. -/
theorem stepwise [Path R] : Stepwise (fun {α} => Keeps R (α := α)) where
  pure := Keeps.pure
  reference := Keeps.reference
  bind := Keeps.bind
  throw := Keeps.throw
  outcome := Keeps.outcome
  log := Keeps.log
  getBackend := Keeps.getBackend

/-- Custodies hold where the books are kept. -/
theorem bookkeeping {allowed : Operation → Prop} [Custody R] [Releases allowed R] :
    Bookkeeping allowed (fun {α} => Keeps R (α := α)) :=
  { stepwise with
    entryClass := Keeps.map _ (Keeps.configured _)
    hasRuntime := Keeps.hasRuntime
    setBackend := Keeps.setBackend
    own := Keeps.own
    released := Keeps.released
    release := fun _ ok => Keeps.release ok }

end Action.Keeps

/-- Operations that only keep the books keep to every custody that they are allowed in. -/
theorem Operation.keeps_of_isLocal {allowed : Operation → Prop} {R : State ω → State ω → Prop} [Custody R]
    [Releases allowed R] (host : Host ω) {op : Operation} (isLocal : op.IsLocal) (ok : allowed op) :
    Keeps R (op.run host) :=
  run_of_isLocal Keeps.bookkeeping host isLocal ok

/-- A host keeps to a course if the steps at the border do: finding and detaching the handle of a thread,
and calls through a handle. Detaching a handle by itself has to only where that is allowed. -/
structure Host.KeepsTo (allowed : Operation → Prop) (R : State ω → State ω → Prop) (host : Host ω) :
    Prop where
  currentRuntime : (Action.currentRuntime host).Keeps R
  detachRuntime : (Action.detachRuntime host).Keeps R
  cross : ∀ id call, call.isPrimitive = true → (Action.cross host id call).Keeps R
  invokeStatic : ∀ id className method args,
    (Action.invokeStatic host id className method args).Keeps R
  detachHandle : ∀ id, allowed (.detachHandle id) → (Action.detachHandle host id).Keeps R

namespace Host.KeepsTo

variable {allowed : Operation → Prop} {R : State ω → State ω → Prop} [Custody R] {host : Host ω}

/-- Calls keep to the course. -/
theorem calls (h : host.KeepsTo allowed R) : host.Calls (fun {α} => Keeps R (α := α)) :=
  { Keeps.stepwise.toSequential with
    currentRuntime := h.currentRuntime
    cross := h.cross
    invokeStatic := h.invokeStatic }

private theorem carries [Releases allowed R] (h : host.KeepsTo allowed R) :
    host.Carries allowed (fun {α} => Keeps R (α := α)) :=
  { h.calls, Keeps.bookkeeping with
    detachRuntime := h.detachRuntime
    detachHandle := h.detachHandle }

/-- Every allowed operation keeps to the course. -/
theorem run [Releases allowed R] (h : host.KeepsTo allowed R) (op : Operation) (ok : allowed op) :
    Keeps R (op.run host) := h.carries.run op ok

end Host.KeepsTo

/-! ### Where neither what is attached nor the handles matter -/

/-- A property of rows that also holds of the steps with what threads have attached and with handles, whatever
these are. -/
structure Freehanded (P : ∀ {α : Type}, Action ω α → Prop) : Prop extends Stepwise P where
  thread : P (Action.thread : Action ω ThreadId)
  attachment : P (Action.attachment : Action ω Attachment)
  updateAttachment : ∀ f, P (Action.updateAttachment f : Action ω Unit)
  newHandle : ∀ b t, P (Action.newHandle b t : Action ω HandleId)
  checked : ∀ id, P (Action.checked id : Action ω BackendId)
  markDetached : ∀ id, P (Action.markDetached id : Action ω Unit)
  forgotten : ∀ t, P (Action.note (.forgotten t) : Action ω Unit)

namespace Freehanded

variable {P : ∀ {α : Type}, Action ω α → Prop} {host : Host ω}

private theorem currentRuntime (h : Freehanded P) (attach : ∀ b, P (host none b .attach)) :
    P (Action.currentRuntime host) := by
  refine h.bind h.attachment fun a => ?_
  split
  · exact h.pure _
  · exact h.throw _
  · split
    · exact h.throw _
    · refine h.bind (h.bind (h.updateAttachment _) fun _ => h.getBackend) fun b => ?_
      refine h.bind (h.outcome (h.bind (h.discard (attach b)) fun _ => ?_)) fun r => ?_
      · refine h.bind h.thread fun t => h.bind (h.newHandle b t) fun id => ?_
        exact h.bind (h.debug _ _) fun _ => h.pure id
      · cases r with
        | ok id => exact h.bind (h.updateAttachment _) fun _ => h.pure id
        | error reason =>
          refine h.bind (h.updateAttachment _) fun _ => h.bind h.thread fun t => ?_
          exact h.bind (h.log _) fun _ => h.bind (h.updateAttachment _) fun _ => h.throw _

variable (calls : ∀ through? b call, P (host through? b call))
include calls

private theorem cross (h : Freehanded P) (id : HandleId) (call : Call) : P (Action.cross host id call) :=
  h.bind (h.checked id) fun b => calls _ b call

private theorem invokeStatic (h : Freehanded P) (id : HandleId) (className : Value) (method : String)
    (args : List Value) : P (Action.invokeStatic host id className method args) :=
  h.bind (h.checked id) fun b => h.bind (calls _ b _) fun _ => calls _ b _

private theorem detachHandle (h : Freehanded P) (id : HandleId) : P (Action.detachHandle host id) := by
  refine h.bind (h.discard (h.cross calls id .detach)) fun _ => ?_
  exact h.bind (h.markDetached id) fun _ => h.bind h.thread fun _ => h.debug _ _

private theorem detachRuntime (h : Freehanded P) : P (Action.detachRuntime host) := by
  refine h.bind h.attachment fun a => h.bind (h.updateAttachment _) fun _ => ?_
  refine h.bind h.thread fun t => h.bind (h.forgotten t) fun _ => ?_
  cases a.handle? with
  | none => exact h.pure false
  | some id => exact h.bind (h.detachHandle calls id) fun _ => h.pure true

/-- Where the books are kept, the property is carried over to all operations if it holds of calls. -/
theorem carries {allowed : Operation → Prop} (h : Freehanded P) (books : Bookkeeping allowed P) :
    host.Carries allowed P :=
  { books with
    currentRuntime := h.currentRuntime fun b => calls _ b _
    cross := fun id call _ => h.cross calls id call
    invokeStatic := h.invokeStatic calls
    detachRuntime := h.detachRuntime calls
    detachHandle := fun id _ => h.detachHandle calls id }

end Freehanded

/-- A loose path minds neither what threads have attached, nor the handles, nor the notes of handles that
are opened and of threads that are told to detach. -/
class Loose (R : State ω → State ω → Prop) : Prop extends Path R where
  updating : ∀ f, (Action.updateAttachment (ω := ω) f).Keeps R
  handling : ∀ (s : State ω) handles, R s { s with handles }
  opened : ∀ (s : State ω) id, R s (s.noting (.opened id))
  forgotten : ∀ (s : State ω) t, R s (s.noting (.forgotten t))

namespace Loose

variable {allowed : Operation → Prop} {R : State ω → State ω → Prop} [Loose R] {host : Host ω}

private theorem freehanded : Freehanded (fun {α} => Keeps R (α := α)) :=
  { Keeps.stepwise with
    thread := Keeps.thread
    attachment := Keeps.of_still fun _ _ => ⟨rfl, rfl, rfl, rfl, rfl⟩
    updateAttachment := updating
    newHandle := fun _ _ =>
      Keeps.bind (fun _ s => handling s _) fun id => Keeps.bind (fun _ s => opened s id) fun _ => Keeps.pure id
    checked := Keeps.checked
    markDetached := fun _ _ s => handling s _
    forgotten := fun t _ s => forgotten s t }

/-- Asking for the handle of the thread keeps to a loose path if calls to attach do. -/
theorem currentRuntime (attach : ∀ b, Keeps R (host none b .attach)) :
    Keeps R (Action.currentRuntime host) := freehanded.currentRuntime attach

/-- A host keeps to a loose path if its calls do. -/
theorem keepsTo (calls : ∀ through? b call, Keeps R (host through? b call)) : host.KeepsTo allowed R where
  currentRuntime := freehanded.currentRuntime fun b => calls _ b _
  detachRuntime := freehanded.detachRuntime calls
  cross id call _ := freehanded.cross calls id call
  invokeStatic := freehanded.invokeStatic calls
  detachHandle id _ := freehanded.detachHandle calls id

end Loose

end HostBridge
