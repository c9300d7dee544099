import HostBridge.Proofs.Attaching

/-!
# Relations that computations keep to

A path is a relation between states that includes every change of the log, the configuration and the
installed backend alone, and that holds across two changes if it holds across each. A computation keeps to a
path if the states before and after it are always so related. A custody is a path that also includes the
owning of values; which values may be released is said apart from that. A course minds neither what values
own nor the world: it includes every silent change, one that touches neither what is attached nor a handle
nor the journal.
-/

namespace HostBridge

variable {ω α β : Type}

namespace State

/-- Own an object. -/
def owning (s : State ω) (v : Value) : State ω := { s with owned := s.owned ++ [some v] }

/-- Release a value. -/
def releasing (s : State ω) (id : OpaqueId) : State ω :=
  { s with owned := s.owned.modify id.index fun _ => none }

/-- What was just owned is there. -/
theorem view_owning (s : State ω) (v : Value) : (s.owning v).view ⟨s.owned.length⟩ = some v := by
  simp [view, owning]

/-- Owning leaves what values own. -/
theorem view_owning_of_lt (s : State ω) (v : Value) {id : OpaqueId} (there : id.index < s.owned.length) :
    (s.owning v).view id = s.view id := by
  simp [view, owning, List.getElem?_append_left there]

/-- What owns something has been made. -/
theorem lt_length_of_view {s : State ω} {id : OpaqueId} {v : Value} (owns : s.view id = some v) :
    id.index < s.owned.length := by
  rcases Nat.lt_or_ge id.index s.owned.length with there | beyond
  · exact there
  · rw [view, List.getElem?_eq_none beyond] at owns
    cases owns

/-- Nothing changed but the log, the configuration and the installed backend. -/
structure Still (s s' : State ω) : Prop where
  attachments : s'.attachments = s.attachments
  handles : s'.handles = s.handles
  journal : s'.journal = s.journal
  owned : s'.owned = s.owned
  world : s'.world = s.world

/-- Nothing changed that the border to the backends depends on. -/
structure Silent (s s' : State ω) : Prop where
  attachments : s'.attachments = s.attachments
  handles : s'.handles = s.handles
  journal : s'.journal = s.journal

/-- A change of the log, the configuration and the installed backend is silent. -/
theorem Still.silent {s s' : State ω} (still : s.Still s') : s.Silent s' :=
  ⟨still.attachments, still.handles, still.journal⟩

end State

/-- A relation between states that holds where only the log, the configuration or the installed backend
change, and from one change to the next. -/
class Path (R : State ω → State ω → Prop) : Prop where
  still : ∀ {s s' : State ω}, s.Still s' → R s s'
  trans : ∀ {s s' s'' : State ω}, R s s' → R s' s'' → R s s''

instance : Path (State.Still (ω := ω)) where
  still still := still
  trans first second :=
    ⟨second.attachments.trans first.attachments, second.handles.trans first.handles,
      second.journal.trans first.journal, second.owned.trans first.owned,
      second.world.trans first.world⟩

/-- A path holds where nothing changes. -/
theorem Path.refl {R : State ω → State ω → Prop} [Path R] (s : State ω) : R s s :=
  Path.still ⟨rfl, rfl, rfl, rfl, rfl⟩

/-- A path that holds where a value is owned. -/
class Custody (R : State ω → State ω → Prop) : Prop extends Path R where
  owning : ∀ (s : State ω) v, R s (s.owning v)

/-- A relation that holds where a value is released, if that is allowed. -/
class Releases (allowed : Operation → Prop) (R : State ω → State ω → Prop) : Prop where
  releasing : ∀ (s : State ω) id, allowed (.release id) → R s (s.releasing id)

/-- A relation between states that holds across silent changes and from one change to the next. -/
class Course (R : State ω → State ω → Prop) : Prop where
  silent : ∀ {s s' : State ω}, s.Silent s' → R s s'
  trans : ∀ {s s' s'' : State ω}, R s s' → R s' s'' → R s s''

instance : Course (State.Silent (ω := ω)) where
  silent silent := silent
  trans first second :=
    ⟨second.attachments.trans first.attachments, second.handles.trans first.handles,
      second.journal.trans first.journal⟩

/-- Owning is silent, and so is releasing. -/
instance Course.custody {R : State ω → State ω → Prop} [Course R] : Custody R where
  still still := Course.silent still.silent
  trans := Course.trans
  owning _ _ := Course.silent ⟨rfl, rfl, rfl⟩

/-- So courses hold wherever a value is released. -/
instance Course.releases {allowed : Operation → Prop} {R : State ω → State ω → Prop} [Course R] :
    Releases allowed R where
  releasing _ _ _ := Course.silent ⟨rfl, rfl, rfl⟩

/-- A course holds where nothing changes. -/
theorem Course.refl {R : State ω → State ω → Prop} [Course R] (s : State ω) : R s s := Path.refl s

/-- A computation keeps to a relation between the states before and after it. -/
def Action.Keeps (R : State ω → State ω → Prop) (p : Action ω α) : Prop :=
  ∀ t s, R s (p.runOn t s).2

namespace Action

variable {R : State ω → State ω → Prop} [Path R]

namespace Keeps

omit [Path R] in
/-- A computation that changes things silently keeps to every course. -/
theorem of_silent [Course R] {p : Action ω α} (h : ∀ t s, State.Silent s (p.runOn t s).2) : Keeps R p :=
  fun t s => Course.silent (h t s)

/-- A computation that changes only the log, the configuration and the installed backend keeps to every
path. -/
theorem of_still {p : Action ω α} (h : ∀ t s, State.Still s (p.runOn t s).2) : Keeps R p :=
  fun t s => Path.still (h t s)

/-- Giving a value changes nothing. -/
theorem pure (a : α) : Keeps R (Pure.pure a : Action ω α) := fun _ s => Path.refl s

/-- Failing changes nothing. -/
theorem throw (e : Fault) : Keeps R (MonadExcept.throw e : Action ω α) := fun _ s => Path.refl s

/-- Giving an outcome changes nothing. -/
theorem ofExcept (r : Except Fault α) : Keeps R (MonadExcept.ofExcept r : Action ω α) := by
  intro t s
  rw [runOn_ofExcept]
  exact Path.refl s

/-- Reading the state changes nothing. -/
theorem get : Keeps R (MonadState.get : Action ω (State ω)) := fun _ s => Path.refl s

/-- Knowing the thread changes nothing. -/
theorem thread : Keeps R (Action.thread : Action ω ThreadId) := fun _ s => Path.refl s

/-- A row of computations keeps to a course if each does. -/
theorem bind {p : Action ω α} {f : α → Action ω β} (first : Keeps R p)
    (rest : ∀ a, Keeps R (f a)) : Keeps R (p >>= f) := by
  intro t s
  have before := first t s
  rw [runOn_bind]
  cases h : p.runOn t s with
  | mk r s' =>
    rw [h] at before
    cases r with
    | ok a => exact Path.trans before (rest a t s')
    | error e => exact before

omit [Path R] in
/-- Catching a fault changes nothing. -/
theorem outcome {p : Action ω α} (h : Keeps R p) : Keeps R (Action.outcome p) := by
  intro t s
  rw [runOn_outcome]
  exact h t s

omit [Path R] in
/-- A function of the result changes nothing. -/
theorem map {p : Action ω α} (f : α → β) (h : Keeps R p) : Keeps R (f <$> p) := by
  intro t s
  rw [runOn_map]
  exact h t s

omit [Path R] in
/-- Dropping the result changes nothing. -/
theorem discard {p : Action ω α} (h : Keeps R p) : Keeps R (Functor.discard p) := by
  intro t s
  rw [runOn_discard]
  exact h t s

/-- Writing to the log is silent. -/
theorem log (e : LogEntry) : Keeps R (Action.log e : Action ω Unit) :=
  of_still fun _ _ => ⟨rfl, rfl, rfl, rfl, rfl⟩

/-- A remark in the log is silent. -/
theorem debug (logger message : String) : Keeps R (Action.debug logger message : Action ω Unit) :=
  log _

/-- Reading the configuration is silent. -/
theorem configured (access : Config.Access α) : Keeps R (Action.configured access : Action ω α) := by
  refine bind get fun s => ?_
  refine bind (of_still fun _ _ => ⟨rfl, rfl, rfl, rfl, rfl⟩) fun _ => ?_
  exact ofExcept _

/-- Installing a backend is silent. -/
theorem setBackend (backend? : Option BackendId) :
    Keeps R (Action.setBackend backend? : Action ω Unit) :=
  of_still fun _ _ => ⟨rfl, rfl, rfl, rfl, rfl⟩

/-- Choosing a backend is silent. -/
theorem getBackend : Keeps R (Action.getBackend : Action ω BackendId) := by
  refine bind get fun s => ?_
  cases s.installed? with
  | some b => exact pure b
  | none => exact bind (setBackend _) fun _ => pure _

omit [Path R] in
/-- Owning an object keeps to every custody. -/
theorem own [Custody R] (v : Value) : Keeps R (Action.own v : Action ω OpaqueId) :=
  fun _ s => Custody.owning s v

omit [Path R] in
/-- Releasing a value keeps to the relation if that is allowed. -/
theorem release {allowed : Operation → Prop} [Releases allowed R] {id : OpaqueId}
    (ok : allowed (.release id)) : Keeps R (Action.release id : Action ω Bool) :=
  fun _ s => Releases.releasing s id ok

/-- Reading what a value owns changes nothing. -/
theorem reference (id : OpaqueId) : Keeps R (Action.reference id : Action ω Value) := by
  refine bind get fun s => ?_
  cases s.view id with
  | some v => exact pure v
  | none => exact throw _

/-- Asking whether a value is released changes nothing. -/
theorem released (id : OpaqueId) : Keeps R (Action.released id : Action ω Bool) :=
  bind get fun _ => pure _

/-- Checking a handle changes nothing. -/
theorem checked (id : HandleId) : Keeps R (Action.checked id : Action ω BackendId) := by
  intro t s
  rw [state_of_runOn_checked]
  exact Path.refl s

/-- What is done with a handle has to keep to the course only if the handle is live and the thread's
own. -/
theorem of_checked {id : HandleId} {f : BackendId → Action ω α} {t : ThreadId} {s : State ω}
    (live : ∀ h, s.handles[id.index]? = some h → h.detached = false → h.owner = t →
      R s ((f h.backend).runOn t s).2) : R s ((Action.checked id >>= f).runOn t s).2 := by
  have same := state_of_runOn_checked id t s
  rw [runOn_bind]
  cases passed : (Action.checked id).runOn t s with
  | mk result s' =>
  rw [passed] at same
  subst same
  cases result with
  | error fault => exact Path.refl s'
  | ok b =>
    obtain ⟨-, h, found, alive, own, rfl⟩ := live_of_runOn_checked passed
    exact live h found alive own

private theorem settleAttach (update : ∀ f, Keeps R (Action.updateAttachment (ω := ω) f))
    (r : Except Fault HandleId) : Keeps R (Action.settleAttach (ω := ω) r) := by
  cases r with
  | ok id => exact bind (update _) fun _ => pure id
  | error reason =>
    refine bind (update _) fun _ => ?_
    refine bind thread fun _ => ?_
    refine bind (log _) fun _ => ?_
    exact bind (update _) fun _ => throw _

/-- Asking for the handle of the thread keeps to the course if attaching does where nothing is attached. -/
theorem currentRuntime_of_attachThread {host : Host ω}
    (attach : ∀ {t s}, s.attachments t = .none → R s ((Action.attachThread host).runOn t s).2) :
    Keeps R (Action.currentRuntime host) := by
  intro t s
  rcases (s.attachments t).cases with ⟨id, handle⟩ | ⟨handle, fault, failure⟩ | busy | none
  · rw [Action.runOn_currentRuntime_of_handle _ handle]
    exact Path.refl s
  · rw [Action.runOn_currentRuntime_of_failure _ handle failure]
    exact Path.refl s
  · rw [Action.runOn_currentRuntime_of_busy _ busy]
    exact Path.refl s
  · rw [Action.runOn_currentRuntime_of_none _ none]
    exact attach none

/-- Where what is attached does not matter, asking for the handle of the thread keeps to the course if
attaching through a backend does. -/
theorem currentRuntime {host : Host ω} (update : ∀ f, Keeps R (Action.updateAttachment (ω := ω) f))
    (attach : ∀ b, Keeps R (Action.attachThrough host b)) : Keeps R (Action.currentRuntime host) := by
  refine bind (of_still fun _ _ => ⟨rfl, rfl, rfl, rfl, rfl⟩) fun a => ?_
  split
  · exact pure _
  · exact throw _
  · split
    · exact throw _
    · refine bind (bind (update _) fun _ => getBackend) fun b => ?_
      exact bind (outcome (attach b)) fun r => settleAttach update r

/-- A call through a handle keeps to the course if the host does. -/
theorem cross {host : Host ω} {id : HandleId} {call : Call}
    (serve : ∀ b, Keeps R (host (some id) b call)) : Keeps R (Action.cross host id call) :=
  bind (checked id) serve

/-- A static call keeps to the course if the host does with the two calls that it is made of. -/
theorem invokeStatic {host : Host ω} {id : HandleId} {className : Value} {method : String}
    {args : List Value} (lookUp : ∀ b, Keeps R (host (some id) b (.staticClass className)))
    (apply : ∀ b target, Keeps R (host (some id) b (.invoke target method args))) :
    Keeps R (Action.invokeStatic host id className method args) :=
  bind (checked id) fun b => bind (lookUp b) fun target => apply b target

/-- Detaching the thread keeps to the course if forgetting what it has attached and detaching a handle
do. -/
theorem detachRuntime {host : Host ω}
    (forgetting : ∀ (t : ThreadId) (s : State ω),
      R s ((s.setAttachment t { s.attachments t with handle? := none, failure? := none }).noting
        (.forgotten t)))
    (detach : ∀ id, Keeps R (Action.detachHandle host id)) : Keeps R (Action.detachRuntime host) := by
  intro t s
  cases handle : (s.attachments t).handle? with
  | none =>
    rw [Action.runOn_detachRuntime_of_none _ handle]
    exact forgetting t s
  | some id =>
    rw [Action.runOn_detachRuntime_of_handle _ handle]
    exact Path.trans (forgetting t s) (detach id t _)

/-- Asking for a handle's presence changes nothing. -/
theorem hasRuntime : Keeps R (Action.hasRuntime : Action ω Bool) :=
  bind (of_still fun _ _ => ⟨rfl, rfl, rfl, rfl, rfl⟩) fun _ => pure _

end Keeps

end Action

end HostBridge
