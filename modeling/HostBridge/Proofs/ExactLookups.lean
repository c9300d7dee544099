import HostBridge.Proofs.Lookups

/-!
# Lookups are exact

Resolving a name in the in-memory host succeeds just where the world has a bound variable of that name in
that namespace, and then gives that very variable; the two ways to fail tell a missing namespace from a
missing or unbound variable. Looking changes nothing that a later lookup could find, so lookups do not depend
on those before.
-/

namespace HostBridge

variable {ω : Type}

namespace Memory.World

/-- The namespace is missing, or has no such bound variable, or has one. -/
theorem lookup_cases (w : World) (ns name : String) :
    (w.scope? ns = none ∧ ¬ w.Binds ns name ∧ w.lookup ns name = .noNamespace) ∨
      (w.scope? ns ≠ none ∧ ¬ w.Binds ns name ∧ w.lookup ns name = .notBound) ∨
      (w.scope? ns ≠ none ∧ w.Binds ns name ∧ w.lookup ns name = .bound (.var ns name)) := by
  unfold Binds lookup var?
  cases scope : w.scope? ns with
  | none => simp
  | some vars =>
    cases there : vars.lookup name with
    | none => simp [there]
    | some body? => cases body? <;> simp [there]

end Memory.World

namespace Action

private theorem unloadedFault_ne_unboundName (ns name : String) : unloadedFault ns name ≠ unboundName ns name := by
  intro same
  unfold unloadedFault unboundName Fault.plain at same
  injection same with _ same
  have lengths := congrArg String.length same
  simp only [String.length_append] at lengths
  have longer : "Could not resolve ".length = 18 := rfl
  have shorter : " is not bound".length = 13 := rfl
  omega

variable {s : State Worlds} {t : ThreadId} {rt : HandleId} (level : Nat)
  (attached : s.InMemory t rt) (ready : s.world.memory.Ready)

include attached ready

/-- Resolving comes to what the world holds. -/
theorem runOn_resolve_inMemory (ns name : String) :
    ∃ s' l, s.Consults s' ∧ (resolve (hosts.host level) ns name).runOn t s =
      match s.world.memory.lookup ns name with
      | .noNamespace => (.error (unloadedFault ns name), { s' with log := l })
      | .notBound => (.error (unboundName ns name), { s' with log := l })
      | .bound var => (.ok ⟨⟨s'.owned.length⟩, some ns, some name⟩, { s'.owning var with log := l }) := by
  obtain ⟨s', found, consults⟩ := runOn_lookUp level attached ready ns name
  have searched : (search (hosts.host level) ns name).runOn t s =
      (.ok (s.world.memory.lookup ns name), s') := by
    rw [search, withRuntime, runOn_bind, runOn_currentRuntime_of_handle _ attached.cached]
    exact found
  cases outcome : s.world.memory.lookup ns name with
  | noNamespace =>
    rw [outcome] at searched
    exact ⟨s', s'.log, consults, runOn_resolve_of_noNamespace searched⟩
  | notBound =>
    rw [outcome] at searched
    obtain ⟨l, came⟩ := runOn_resolve_of_notBound searched
    exact ⟨s', l, consults, came⟩
  | bound var =>
    rw [outcome] at searched
    obtain ⟨l, came⟩ := runOn_resolve_of_bound searched
    exact ⟨s', l, consults, came⟩

private theorem runOn_findNamespace_inMemory (ns : String) :
    ∃ s', s.Consults s' ∧ (findNamespace (hosts.host level) ns).runOn t s =
      if (s.world.memory.scope? ns).isSome then (.ok ⟨s'.owned.length⟩, s'.owning (.scope ns))
      else (.error (missingNamespace ns), s') := by
  obtain ⟨s', found, consults⟩ := runOn_lookUpNamespace level attached ready ns
  have looked : (withRuntime (hosts.host level) fun rt => lookUpNamespace (hosts.host level) rt ns).runOn
      t s = (.ok (if (s.world.memory.scope? ns).isSome then .scope ns else .nil), s') := by
    rw [withRuntime, runOn_bind, runOn_currentRuntime_of_handle _ attached.cached]
    exact found
  refine ⟨s', consults, ?_⟩
  by_cases there : (s.world.memory.scope? ns).isSome = true
  · rw [if_pos there] at looked ⊢
    rw [findNamespace, runOn_bind, runOn_onHostFault_ok looked]
    rfl
  · rw [if_neg there] at looked ⊢
    rw [findNamespace, runOn_bind, runOn_onHostFault_ok looked]
    rfl

end Action

/-- What resolving a name comes to is just what the world holds, and is still there afterwards. -/
structure Memory.World.Resolves (w : Memory.World) (ns name : String)
    (came : Except Fault Callable × State Worlds) : Prop where
  succeeds_iff : (∃ f, came.1 = .ok f) ↔ w.Binds ns name
  gives : ∀ f, came.1 = .ok f → came.2.view f.inner = some (.var ns name) ∧ f.scope? = some ns ∧
    f.name? = some name
  notLoaded_iff : came.1 = .error (Action.unloadedFault ns name) ↔ w.scope? ns = none
  notBound_iff : came.1 = .error (Action.unboundName ns name) ↔ w.scope? ns ≠ none ∧ ¬ w.Binds ns name
  unchanged : w.Consulted came.2.world.memory

/-- What finding a namespace comes to is just what the world holds. -/
structure Memory.World.Finds (w : Memory.World) (ns : String)
    (came : Except Fault OpaqueId × State Worlds) : Prop where
  succeeds_iff : (∃ id, came.1 = .ok id) ↔ w.scope? ns ≠ none
  gives : ∀ id, came.1 = .ok id → came.2.view id = some (.scope ns)
  notLoaded_iff : came.1 = .error (Action.missingNamespace ns) ↔ w.scope? ns = none
  unchanged : w.Consulted came.2.world.memory

/-- The operations that look something up. -/
def Operation.LooksUp : Operation → Prop
  | .resolve .. | .findNamespace _ | .namespaceHandle _ => True
  | _ => False

/-- The state after several operations on a thread, however each of them ends. -/
def State.afterAll (host : Host ω) (t : ThreadId) (s : State ω) (ops : List Operation) : State ω :=
  ops.foldl (fun s op => ((op.run host).runOn t s).2) s

section Exact

variable {s : State Worlds} {t : ThreadId} {rt : HandleId} (level : Nat)
  (attached : s.InMemory t rt) (ready : s.world.memory.Ready)

include attached ready

/-- Resolving is exact wherever no failures are arranged. -/
theorem Memory.World.resolves (ns name : String) :
    s.world.memory.Resolves ns name ((Action.resolve (hosts.host level) ns name).runOn t s) := by
  obtain ⟨s', l, consults, came⟩ := Action.runOn_resolve_inMemory level attached ready ns name
  have differ := Action.unloadedFault_ne_unboundName ns name
  rw [came]
  rcases s.world.memory.lookup_cases ns name with
    ⟨absent, unbound, same⟩ | ⟨there, unbound, same⟩ | ⟨there, bound, same⟩
  · rw [same]
    refine ⟨?_, ?_, ?_, ?_, consults.memory⟩
    · simp [unbound]
    · rintro f ⟨⟩
    · simp [absent]
    · simp [absent, differ]
  · rw [same]
    refine ⟨?_, ?_, ?_, ?_, consults.memory⟩
    · simp [unbound]
    · rintro f ⟨⟩
    · simp [there, Ne.symm differ]
    · simp [there, unbound]
  · rw [same]
    refine ⟨?_, ?_, ?_, ?_, consults.memory⟩
    · simp [bound]
    · rintro f ⟨⟩
      exact ⟨s'.view_owning _, rfl, rfl⟩
    · simp [there]
    · simp [bound]

private theorem Memory.World.finds (ns : String) :
    s.world.memory.Finds ns ((Action.findNamespace (hosts.host level) ns).runOn t s) := by
  obtain ⟨s', consults, came⟩ := Action.runOn_findNamespace_inMemory level attached ready ns
  rw [came]
  cases scope : s.world.memory.scope? ns with
  | none =>
    refine ⟨?_, ?_, ?_, consults.memory⟩
    · simp [scope]
    · rintro id ⟨⟩
    · simp [scope]
  | some vars =>
    refine ⟨?_, ?_, ?_, consults.memory⟩
    · simp [scope]
    · rintro id ⟨⟩
      exact s'.view_owning _
    · simp [scope]

/-- Resolving again from a world that was only consulted comes to the same fault, or to none again. -/
theorem Action.runOn_resolve_again {s' : State Worlds} {t' : ThreadId} {rt' : HandleId}
    (consulted : s.world.memory.Consulted s'.world.memory) (attached' : s'.InMemory t' rt')
    (ns name : String) :
    Fault.of? ((resolve (hosts.host level) ns name).runOn t' s').1 =
      Fault.of? ((resolve (hosts.host level) ns name).runOn t s).1 := by
  obtain ⟨_, _, -, came⟩ := runOn_resolve_inMemory level attached ready ns name
  obtain ⟨_, _, -, again⟩ := runOn_resolve_inMemory level attached' (ready.of_lasts consulted.lasts) ns name
  rw [came, again, consulted.lookup_eq]
  cases s.world.memory.lookup ns name <;> rfl

/-- Resolving leaves the world as it is, and the thread attached. -/
theorem Action.leaves_resolve (ns name : String) :
    let s' := ((resolve (hosts.host level) ns name).runOn t s).2
    s.world.memory.Consulted s'.world.memory ∧ s'.InMemory t rt := by
  obtain ⟨s', l, consults, came⟩ := runOn_resolve_inMemory level attached ready ns name
  have still := consults.inMemory attached
  rw [came]
  cases s.world.memory.lookup ns name <;> exact ⟨consults.memory, still.cached, still.live⟩

private theorem Action.leaves_findNamespace (ns : String) :
    let s' := ((findNamespace (hosts.host level) ns).runOn t s).2
    s.world.memory.Consulted s'.world.memory ∧ s'.InMemory t rt := by
  obtain ⟨s', consults, came⟩ := runOn_findNamespace_inMemory level attached ready ns
  have still := consults.inMemory attached
  rw [came]
  split <;> exact ⟨consults.memory, still.cached, still.live⟩

private theorem Operation.leaves_looksUp {op : Operation} (looksUp : op.LooksUp) :
    let s' := ((op.run (hosts.host level)).runOn t s).2
    s.world.memory.Consulted s'.world.memory ∧ s'.InMemory t rt := by
  cases op with
  | resolve ns name =>
    have left := Action.leaves_resolve level attached ready ns name
    rw [run, Action.runOn_bind]
    split <;> rename_i ran <;> rwa [ran] at left
  | findNamespace ns =>
    have left := Action.leaves_findNamespace level attached ready ns
    rw [run, Action.runOn_bind]
    split <;> rename_i ran <;> rwa [ran] at left
  | namespaceHandle ns =>
    have left := Action.leaves_findNamespace level attached ready ns
    rw [run, Action.runOn_bind, Action.runOn_discard]
    split <;> rename_i ran <;> obtain ⟨-, rfl⟩ := Prod.mk.inj ran <;> exact left
  | _ => exact looksUp.elim

private theorem State.leaves_afterAll {ops : List Operation} (lookups : ∀ op ∈ ops, op.LooksUp) :
    let s' := s.afterAll (hosts.host level) t ops
    s.world.memory.Consulted s'.world.memory ∧ s'.InMemory t rt := by
  induction ops generalizing s with
  | nil => exact ⟨.refl _, attached⟩
  | cons op rest ih =>
    obtain ⟨looksUp, others⟩ := List.forall_mem_cons.mp lookups
    obtain ⟨consulted, still⟩ := Operation.leaves_looksUp level attached ready looksUp
    obtain ⟨more, last⟩ := ih still (ready.of_lasts consulted.lasts) others
    exact ⟨consulted.trans more, last⟩

end Exact

/-- From every state of a session, on every thread that is attached to the in-memory host, lookups find just
what the world holds and leave it as it is. So no two names are ever resolved to one variable, and however
much was looked up before, a name comes to the same fault, or to none again. -/
theorem lookups_are_exact (level : Nat) {start s : State Worlds} (ready : start.world.memory.Ready)
    (session : Session level start s) {t : ThreadId} {rt : HandleId} (attached : s.InMemory t rt)
    (ns name : String) :
    let host := hosts.host level
    let came := (Action.resolve host ns name).runOn t s
    s.world.memory.Resolves ns name came ∧
      s.world.memory.Finds ns ((Action.findNamespace host ns).runOn t s) ∧
      (∀ s', Session level start s' → ∀ t' rt', s'.InMemory t' rt' → ∀ ns' name' f f',
        let other := (Action.resolve host ns' name').runOn t' s'
        came.1 = .ok f → other.1 = .ok f' → other.2.view f'.inner = came.2.view f.inner →
          ns' = ns ∧ name' = name) ∧
      ∀ ops : List Operation, (∀ op ∈ ops, op.LooksUp) →
        let later := s.afterAll host t ops
        s.world.memory.Consulted later.world.memory ∧
          Fault.of? ((Action.resolve host ns name).runOn t later).1 = Fault.of? came.1 := by
  have here : s.world.memory.Ready := ready.of_lasts session.lasts.memory
  have exact_here := Memory.World.resolves level attached here ns name
  refine ⟨exact_here, Memory.World.finds level attached here ns, ?_, ?_⟩
  · intro s' session' t' rt' attached' ns' name' f f' _ came other same
    have there : s'.world.memory.Ready := ready.of_lasts session'.lasts.memory
    have var := (exact_here.gives f came).1
    have var' := ((Memory.World.resolves level attached' there ns' name').gives f' other).1
    rw [var, var'] at same
    cases same
    exact ⟨rfl, rfl⟩
  · intro ops lookups
    obtain ⟨consulted, still⟩ := State.leaves_afterAll level attached here lookups
    exact ⟨consulted, Action.runOn_resolve_again level attached here consulted still ns name⟩

/-- The in-memory host is in use, and nothing has happened yet. -/
def demoStart : State Worlds :=
  { State.initial (.ofSettings .nil []) ⟨.initial (.ok (.text "demo.Entry")), .idle⟩ with
    installed? := some Memory.firstBackend }

/-- The main thread has attached, and then a variable has been bound. -/
def demoState : State Worlds :=
  State.editing ((Operation.currentRuntime.run host).runOn .main demoStart).2
    (.define "demo" "f" (.const (.int 1)))

/-- Attaching and then binding a variable makes up a session. -/
theorem demo_session : Session nestingLimit demoStart demoState := by
  have uses : Client.Uses Operation.Any (.perform .currentRuntime .finish) :=
    ⟨trivial, fun _ => trivial⟩
  refine .edit (.turns .start (.turn (t := .main) .start uses ?_)) _
  exact .performed (Prod.eta _).symm .here

/-- The main thread holds the first handle. -/
theorem demo_inMemory : demoState.InMemory .main ⟨0⟩ :=
  ⟨rfl, ⟨Memory.firstBackend, .main, false⟩, rfl, rfl, rfl, by decide⟩

/-- The entry class does not stand in front of the host's own classes. -/
theorem demo_ready : demoStart.world.memory.Ready := by
  refine ⟨rfl, .text "demo.Entry", rfl, ?_, ?_⟩
  · simp [Action.symbolClass]
  · simp [Action.namespaceClass]

/-- The variable that was bound is found, and a namespace that was never there is not. -/
theorem lookups_are_exact_demo :
    (∃ f, ((Action.resolve host "demo" "f").runOn .main demoState).1 = .ok f) ∧
      ((Action.resolve host "missing" "f").runOn .main demoState).1 =
        .error (Action.unloadedFault "missing" "f") := by
  obtain ⟨here, -, -, -⟩ :=
    lookups_are_exact nestingLimit demo_ready demo_session demo_inMemory "demo" "f"
  obtain ⟨elsewhere, -, -, -⟩ :=
    lookups_are_exact nestingLimit demo_ready demo_session demo_inMemory "missing" "f"
  refine ⟨here.succeeds_iff.mpr ⟨_, Memory.World.var?_define_self _ "demo" "f" _⟩, ?_⟩
  exact elsewhere.notLoaded_iff.mpr rfl

end HostBridge
