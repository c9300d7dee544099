import HostBridge.Proofs.Loading
import HostBridge.Proofs.Reading

/-!
# Requiring namespaces

Requiring a namespace makes a symbol of its name, resolves the function that loads, and hands the symbol to
it, once. So a thread that is attached to the in-memory host gets a handle if the host accepts the namespace,
and a fault that says so otherwise.
-/

namespace HostBridge

variable {ω α : Type}

/-! ### What is called on the way -/

namespace Event

/-- No function is applied at this level. -/
def IsIdle (level : Nat) (e : Event) : Prop := ∀ c, e.madeAt? level = some c → c.1.applies = false

private theorem isIdle_of_none {level : Nat} {e : Event} (none : e.madeAt? level = .none) : e.IsIdle level := by
  intro c made
  rw [none] at made
  cases made

end Event

/-- No function is applied at this level on the way. -/
abbrev State.Idles (level : Nat) : State ω → State ω → Prop := State.Adds (Event.IsIdle level)

namespace State.Idles

open HostBridge.Action (Keeps)

variable {level : Nat} {s s' : State ω}

instance : Loose (State.Idles (ω := ω) level) :=
  Adds.loose (fun _ => Event.isIdle_of_none rfl) fun _ => Event.isIdle_of_none rfl

private theorem makes (idles : s.Idles level s') :
    ∃ calls, s.Makes level calls s' ∧ calls.filter (·.1.applies) = [] := by
  obtain ⟨trail, grown, idle⟩ := idles
  refine ⟨_, ⟨trail, grown, rfl⟩, List.filter_eq_nil_iff.mpr ?_⟩
  intro c made
  obtain ⟨e, there, made⟩ := List.mem_filterMap.mp (List.mem_reverse.mp made)
  rw [idle e there c made]
  exact Bool.false_ne_true

private theorem answers (program : HostProgram ω) (level : Nat) :
    Answers Operation.Any (State.Idles level) (program.answers level) := by
  refine HostProgram.answers_keep (fun answer inner below answers => ?_) level (Nat.le_refl level)
  refine Loose.keepsTo fun _ _ _ => Adds.serve answers (fun _ => Event.isIdle_of_none rfl) fun _ _ => ?_
  exact Event.isIdle_of_none (if_neg (Nat.ne_of_lt below))

private theorem host (program : HostProgram ω) (level : Nat) {call : Call} (applies : call.applies = false)
    (through? : Option HandleId) (b : BackendId) :
    Keeps (State.Idles level) (program.host level through? b call) := by
  rw [HostProgram.host_eq_serve]
  refine Adds.serve (answers program level) (fun _ => Event.isIdle_of_none rfl) fun t fault? => ?_
  intro c made
  rw [Event.madeAt?, if_pos rfl] at made
  cases made
  exact applies

private theorem looks (program : HostProgram ω) (level : Nat) :
    (program.host level).Looks (fun {α} => Keeps (State.Idles level) (α := α)) :=
  { Keeps.stepwise with
    currentRuntime := Loose.currentRuntime fun b => host program level rfl none b
    cross := fun id _ _ applies => Keeps.cross (host program level applies (some id))
    invokeStatic := fun id _ _ _ other =>
      Keeps.invokeStatic (host program level rfl (some id)) fun b _ =>
        host program level (Call.applies_invoke other) (some id) b }

private theorem resolve (program : HostProgram ω) (level : Nat) (ns name : String) :
    Keeps (State.Idles level) (Action.resolve (program.host level) ns name) :=
  (looks program level).resolve Keeps.stepwise Keeps.own ns name

end State.Idles

/-! ### What requiring comes to -/

/-- The host's own loading function stands under its name. -/
def Memory.World.HasLoader (w : Memory.World) : Prop :=
  w.var? Action.coreNamespace "require" = some (some (.builtin .require))

namespace Action

open Memory (World)

/-- The call that hands the symbol of a name to the loading function. -/
def requiringCall (ns : String) : Call :=
  .invoke (.var coreNamespace "require") "invoke" [.symbol ns]

section Report

variable {host : Host ω} {ns : String} {t : ThreadId} {s s' : State ω}

/-- The state once the log says which namespace is required. -/
def announced (s : State ω) (ns : String) : State ω :=
  { s with log := ⟨.debug, namespaceLogger, "Requiring namespace " ++ ns⟩ :: s.log }

private theorem runOn_require_of_load {id : OpaqueId}
    (loaded : (load host ns).runOn t (announced s ns) = (.ok id, s')) :
    (require host ns).runOn t s = (.ok ⟨⟩, s') := by
  rw [announced] at loaded
  simp only [require, debug, runOn_bind, runOn_log, runOn_outcome, loaded]
  rfl

private theorem runOn_require_of_callFault {f : Callable} {fault : Fault}
    (failed : (load host ns).runOn t (announced s ns) = (.error (callFault f fault), s'))
    (thrown : fault.IsHost) :
    ∃ fault' l, (require host ns).runOn t s = (.error fault', { s' with log := l }) ∧
      fault'.kind? = some .load := by
  obtain ⟨className, message, trace, cause, rfl⟩ := thrown
  rw [announced] at failed
  simp only [require, debug, runOn_bind, runOn_log, runOn_outcome, failed]
  exact ⟨_, _, rfl, rfl⟩

end Report

variable {s s₁ s₂ : State Worlds} {t : ThreadId} {rt : HandleId} (level : Nat)

variable (attached : s.InMemory t rt) (ready : s.world.memory.Ready)
  (loader : s.world.memory.HasLoader)

include attached ready loader

private theorem runOn_load (ns : String) :
    ∃ f s₁, s.Gains s₁ ∧ s.Idles level s₁ ∧
      (∀ v s₂, (cross (hosts.host level) rt (requiringCall ns)).runOn t s₁ = (.ok v, s₂) →
        (load (hosts.host level) ns).runOn t s = (.ok ⟨s₂.owned.length⟩, s₂.owning v)) ∧
      ∀ fault s₂, fault.IsHost →
        (cross (hosts.host level) rt (requiringCall ns)).runOn t s₁ = (.error fault, s₂) →
        ∃ l, (load (hosts.host level) ns).runOn t s = (.error (callFault f fault), { s₂ with log := l }) := by
  obtain ⟨e, interned, consults⟩ := runOn_internSymbol level attached ready ns
  have symbol : (withRuntime (hosts.host level) fun rt => internSymbol (hosts.host level) rt ns).runOn t s =
      (.ok (.symbol ns), e) := by
    rw [withRuntime, runOn_bind, runOn_currentRuntime_of_handle _ attached.cached]
    exact interned
  have looks := State.Idles.looks hosts level
  have idle := looks.withRuntime (fun rt => looks.internSymbol rt ns) t s
  rw [symbol] at idle
  let owned := e.owning (.symbol ns)
  have gained : s.Gains owned := consults.gains.trans (e.gains_owning _)
  obtain ⟨f, s₁, resolved, target, more⟩ := runOn_resolve_of_binds level (gained.inMemory attached)
    (ready.of_lasts gained.memory.lasts) coreNamespace "require"
    ⟨_, (gained.memory.var?_eq _ _).trans loader⟩
  have idle' := State.Idles.resolve hosts level coreNamespace "require" t owned
  rw [resolved] at idle'
  have gains := gained.trans more
  have owns : s₁.view ⟨e.owned.length⟩ = some (.symbol ns) := more.view (e.view_owning _)
  have converted : argumentsIn (.tuple [.owner ⟨e.owned.length⟩]) = .ok [.reference ⟨e.owned.length⟩] := rfl
  have called := runOn_callThrough_reference (gains.inMemory attached) owns (hosts.host level)
    (.var coreNamespace "require")
  have loads : (load (hosts.host level) ns).runOn t s =
      (invoke (hosts.host level) f (.tuple [.owner ⟨e.owned.length⟩])).runOn t s₁ := by
    rw [load, runOn_bind, symbol]
    dsimp only
    rw [runOn_bind]
    change ((resolve (hosts.host level) coreNamespace "require" >>= _).runOn t owned) = _
    rw [runOn_bind, resolved]
  refine ⟨f, s₁, gains, Path.trans (R := State.Idles level) idle idle', ?_, ?_⟩
  · intro v s₂ came
    rw [loads]
    exact runOn_invoke_ok converted target (called.trans came)
  · intro fault s₂ thrown came
    obtain ⟨l, ran⟩ := runOn_invoke_of_host converted target thrown (called.trans came)
    exact ⟨l, loads.trans ran⟩

private theorem runOn_requiringCall (ns : String) :
    ∃ r s', (cross (hosts.host level) rt (requiringCall ns)).runOn t s = (r, s') ∧
      s.Makes level [(requiringCall ns, Fault.of? r)] s' ∧ s'.attachments = s.attachments ∧
      s'.handles = s.handles ∧ (s.world.memory.required ns).Consulted s'.world.memory ∧
      ((s.world.memory.Accepts ns ∧ r = .ok .nil) ∨
        (¬ s.world.memory.Accepts ns ∧ ∃ fault, r = .error fault ∧ fault.IsHost)) := by
  obtain ⟨h, found, owner, live, inMemory⟩ := attached.live
  have shown := s.consulted_shown
  obtain ⟨w', r, performed, required, outcomes⟩ := Memory.perform_require_cases
    (shown.lasts.rules ready.rules) ((shown.var?_eq _ _).trans loader) ns h.backend
  rw [shown.accepts_iff ns] at outcomes
  obtain ⟨s', ran, attachments, handles, -, -, rfl⟩ :=
    runOn_hosts_of_answer level inMemory performed (some rt) t
  have crossed : (cross (hosts.host level) rt (requiringCall ns)).runOn t s = (r, s') := by
    rw [cross, runOn_bind, runOn_checked_of_live found live owner]
    exact ran
  have made : s.Makes level [(requiringCall ns, Fault.of? r)] s' := by
    rcases cross_cases hosts level t s rt (requiringCall ns) with ⟨-, made⟩ | ⟨dead, -⟩
    · rw [crossed] at made
      exact made
    · exact (dead ⟨h, found, owner, live⟩).elim
  refine ⟨r, s', crossed, made, attachments, handles, (shown.required ns).trans required, ?_⟩
  rcases outcomes with accepted | ⟨refused, className, message, cause, rfl⟩
  · exact .inl accepted
  · exact .inr ⟨refused, _, rfl, _, _, _, _, rfl⟩

/-- So requiring gives a handle if the host accepts the namespace, and fails with a fault of loading
otherwise. -/
theorem runOn_require (ns : String) :
    let came := ((Operation.require ns).run (hosts.host level)).runOn t s
    (∃ calls fault?, s.Makes level calls came.2 ∧
      calls.filter (·.1.applies) = [(requiringCall ns, fault?)] ∧
      ((s.world.memory.Accepts ns ∧ fault? = none ∧ came.1 = .ok (.namespaceHandle ns)) ∨
        (¬ s.world.memory.Accepts ns ∧ fault? ≠ none ∧
          ∃ fault, came.1 = .error fault ∧ fault.kind? = some .load))) ∧
      came.2.InMemory t rt ∧ (s.world.memory.required ns).Consulted came.2.world.memory := by
  let s₀ := announced s ns
  obtain ⟨f, s₁, gains, idle, goes, fails⟩ := runOn_load (s := s₀) level
    ⟨attached.cached, attached.live⟩ ready loader ns
  obtain ⟨before, made, none⟩ := State.Idles.makes idle
  have still := gains.inMemory ⟨attached.cached, attached.live⟩
  obtain ⟨r, s₂, called, handed, attachments, handles, required, outcomes⟩ := runOn_requiringCall level still
    (ready.of_lasts gains.memory.lasts) ((gains.memory.var?_eq _ _).trans loader) ns
  have world := (gains.memory.required ns).trans required
  have calls : (before ++ [(requiringCall ns, Fault.of? r)]).filter (·.1.applies) =
      [(requiringCall ns, Fault.of? r)] := by
    rw [List.filter_append, none]
    rfl
  have made' := made.trans handed
  have accepts := gains.memory.accepts_iff ns
  have attached' : s₂.InMemory t rt := by
    refine ⟨?_, ?_⟩
    · rw [attachments]
      exact still.cached
    · rw [handles]
      exact still.live
  rw [Operation.run, runOn_bind]
  rcases outcomes with ⟨accepted, rfl⟩ | ⟨refused, fault, rfl, thrown⟩
  · rw [runOn_require_of_load (goes _ _ called)]
    refine ⟨⟨_, _, made'.to_eq rfl, calls, .inl ⟨accepts.mp accepted, rfl, rfl⟩⟩, ?_, world⟩
    exact ⟨attached'.cached, attached'.live⟩
  · obtain ⟨l, failed⟩ := fails _ _ thrown called
    obtain ⟨fault', l', came, kind⟩ := runOn_require_of_callFault failed thrown
    rw [came]
    have thrown' : Fault.of? (.error fault : Except Fault Value) ≠ .none := Option.some_ne_none fault
    refine ⟨⟨_, _, made'.to_eq rfl, calls, .inr ⟨mt accepts.mpr refused, thrown', fault', rfl, kind⟩⟩, ?_,
      world⟩
    exact ⟨attached'.cached, attached'.live⟩

end Action

/-- The names of a namespace that can be loaded are resolved, and bound to their definitions; of several
definitions under one name the last one counts. -/
def State.Defines (s : State Worlds) (level : Nat) (t : ThreadId) (ns : String)
    (defs : List (String × Memory.Body)) : Prop :=
  ∀ name body, defs.reverse.lookup name = some body →
    s.world.memory.var? ns name = some (some body) ∧
    ∃ f s', (Action.resolve (hosts.host level) ns name).runOn t s = (.ok f, s') ∧
      s'.view f.inner = some (.var ns name)

/-- What requiring a namespace comes to. -/
structure State.Requires (s : State Worlds) (level : Nat) (t : ThreadId) (ns : String)
    (came : Except Fault Value × State Worlds) : Prop where
  /-- One function is applied, the one that loads, to the symbol of this name. -/
  handsOver : ∃ calls fault?, s.Makes level calls came.2 ∧
    calls.filter (·.1.applies) = [(Action.requiringCall ns, fault?)] ∧
    (fault? = none ↔ came.1 = .ok (.namespaceHandle ns))
  /-- The host puts the name on record. -/
  recorded : came.2.world.memory.requireCalls = s.world.memory.requireCalls ++ [ns]
  /-- There is a handle with the name if the host accepts the namespace. -/
  succeeds_iff : came.1 = .ok (.namespaceHandle ns) ↔ s.world.memory.Accepts ns
  /-- Otherwise there is a fault of loading, and the world is as it was but for the record. -/
  fails : came.1 ≠ .ok (.namespaceHandle ns) →
    (∃ fault, came.1 = .error fault ∧ fault.kind? = some .load) ∧
    (s.world.memory.asked ns).Consulted came.2.world.memory
  /-- A namespace that was new is loaded afterwards, with its definitions. -/
  loads : came.1 = .ok (.namespaceHandle ns) → ns ∉ s.world.memory.loaded →
    ∃ defs, s.world.memory.loadable.lookup ns = some defs ∧ ns ∈ came.2.world.memory.loaded ∧
      came.2.Defines level t ns defs
  /-- One that was loaded stays as it was. -/
  stays : ns ∈ s.world.memory.loaded → (s.world.memory.asked ns).Consulted came.2.world.memory
  /-- Other namespaces stay as they were. -/
  isolates : ∀ ns', ns' ≠ ns → came.2.world.memory.scope? ns' = s.world.memory.scope? ns'

section Requires

open Memory (World)

variable {s : State Worlds} {t : ThreadId} {rt : HandleId} (level : Nat) (attached : s.InMemory t rt)
  (ready : s.world.memory.Ready) (loader : s.world.memory.HasLoader)

include attached ready loader

/-- Requiring a namespace comes to that wherever no failures are arranged. -/
theorem State.requires (ns : String) :
    s.Requires level t ns (((Operation.require ns).run (hosts.host level)).runOn t s) := by
  obtain ⟨⟨calls, fault?, made, applied, outcomes⟩, still, world⟩ :=
    Action.runOn_require level attached ready loader ns
  have succeeds_iff : (((Operation.require ns).run (hosts.host level)).runOn t s).1 =
      .ok (.namespaceHandle ns) ↔ s.world.memory.Accepts ns := by
    rcases outcomes with ⟨accepted, -, ok⟩ | ⟨refused, -, fault, failed, -⟩
    · exact ⟨fun _ => accepted, fun _ => ok⟩
    · rw [failed]
      exact ⟨nofun, fun accepted => (refused accepted).elim⟩
  generalize ((Operation.require ns).run (hosts.host level)).runOn t s = came at *
  have ready' := ready.of_required world
  refine ⟨⟨calls, fault?, made, applied, ?_⟩, ?_, succeeds_iff, ?_, ?_, ?_, ?_⟩
  · rcases outcomes with ⟨-, none, ok⟩ | ⟨-, some, fault, failed, -⟩
    · exact ⟨fun _ => ok, fun _ => none⟩
    · rw [failed]
      exact ⟨fun none => (some none).elim, nofun⟩
  · obtain ⟨_, _, _, same⟩ := world
    rw [same]
    exact World.requireCalls_required _ ns
  · intro failed
    rw [World.required_of_refused (mt succeeds_iff.mpr failed)] at world
    refine ⟨?_, world⟩
    rcases outcomes with ⟨-, -, ok⟩ | ⟨-, -, fault⟩
    · exact (failed ok).elim
    · exact fault
  · intro ok new
    obtain ⟨defs, loadable, loads⟩ := World.required_of_new (succeeds_iff.mp ok) new
    rw [loads] at world
    refine ⟨defs, loadable, ?_, ?_⟩
    · obtain ⟨_, _, _, same⟩ := world
      rw [same]
      exact World.mem_loaded_load _ ns defs
    · intro name body defines
      have bound := (world.var?_eq ns name).trans (World.var?_load _ ns defines)
      refine ⟨bound, ?_⟩
      obtain ⟨f, s', resolved, view, -⟩ := Action.runOn_resolve_of_binds level still ready' ns name ⟨body, bound⟩
      exact ⟨f, s', resolved, view⟩
  · intro loaded
    rw [World.required_of_loaded loaded] at world
    exact world
  · intro ns' different
    rw [world.scope?_eq]
    exact World.scope?_required_other different _

end Requires

/-- From every state of a session, on every thread that is attached to the in-memory host and as long as the
host's own loading function stands under its name, requiring a namespace hands just this name over, once. It
gives a handle if the host accepts the namespace, which is then loaded by itself, and fails otherwise, without
a trace but for the record. However the session goes on after a success, requiring the namespace again
succeeds and changes the record only. -/
theorem require_loads_in_isolation (level : Nat) {start s : State Worlds}
    (ready : start.world.memory.Ready) (session : Session level start s) {t : ThreadId} {rt : HandleId}
    (attached : s.InMemory t rt) (loader : s.world.memory.HasLoader) (ns : String) :
    let came := ((Operation.require ns).run (hosts.host level)).runOn t s
    s.Requires level t ns came ∧
      (came.1 = .ok (.namespaceHandle ns) → ∀ s', Session level came.2 s' →
        ∀ t' rt', s'.InMemory t' rt' → s'.world.memory.HasLoader →
          let again := ((Operation.require ns).run (hosts.host level)).runOn t' s'
          again.1 = .ok (.namespaceHandle ns) ∧
            (s'.world.memory.asked ns).Consulted again.2.world.memory) := by
  have here : s.world.memory.Ready := ready.of_lasts session.lasts.memory
  have requires := State.requires level attached here loader ns
  refine ⟨requires, ?_⟩
  intro ok s' later t' rt' attached' loader'
  have accepted := requires.succeeds_iff.mp ok
  obtain ⟨-, -, world⟩ := Action.runOn_require level attached here loader ns
  have after := here.of_required world
  have loaded : ns ∈ (((Operation.require ns).run (hosts.host level)).runOn t s).2.world.memory.loaded := by
    obtain ⟨_, _, _, same⟩ := world
    rw [same]
    exact Memory.World.mem_loaded_required accepted
  have still : ns ∈ s'.world.memory.loaded := later.within (W := Memory.World.KeepsLoaded) ns loaded
  have again := State.requires level attached' (after.of_lasts later.lasts.memory) loader' ns
  exact ⟨again.succeeds_iff.mpr ⟨accepted.1, .inl still⟩, again.stays still⟩

/-- A namespace has been required, and then one of its variables bound again. -/
def reboundState : State Worlds :=
  State.editing ((Operation.require "demo.alpha").run host |>.runOn .main demoState).2
    (.define "demo.alpha" "f" (.const (.int 7)))

/-- A namespace with code is loaded, and its variable stays bound again when it is required another time. A
namespace without code is not loaded. -/
theorem require_loads_in_isolation_demo :
    ((Operation.require "demo.alpha").run host |>.runOn .main demoState).1 =
      .ok (.namespaceHandle "demo.alpha") ∧
    (((Operation.require "demo.alpha").run host).runOn .main reboundState).2.world.memory.var?
      "demo.alpha" "f" = some (some (.const (.int 7))) ∧
    ∃ fault, ((Operation.require "demo.missing").run host |>.runOn .main demoState).1 = .error fault ∧
      fault.kind? = some .load := by
  have loader : demoState.world.memory.HasLoader := rfl
  obtain ⟨first, later⟩ := require_loads_in_isolation nestingLimit demo_ready demo_session demo_inMemory
    loader "demo.alpha"
  obtain ⟨missing, -⟩ := require_loads_in_isolation nestingLimit demo_ready demo_session demo_inMemory
    loader "demo.missing"
  have ok := first.succeeds_iff.mpr ⟨by decide, .inr rfl⟩
  obtain ⟨-, attached, world⟩ := Action.runOn_require nestingLimit demo_inMemory
    (demo_ready.of_lasts demo_session.lasts.memory) loader "demo.alpha"
  have rebound : reboundState.InMemory .main ⟨0⟩ := ⟨attached.cached, attached.live⟩
  have loader' : reboundState.world.memory.HasLoader := by
    refine (Memory.World.var?_define_other (.inl (by decide)) _ _).trans ?_
    exact (world.var?_eq _ _).trans rfl
  obtain ⟨-, again⟩ := later ok reboundState (.edit .start _) .main ⟨0⟩ rebound loader'
  refine ⟨ok, ?_, ?_⟩
  · refine (again.var?_eq _ _).trans ?_
    exact Memory.World.var?_define_self _ "demo.alpha" "f" _
  · have refused : ¬ demoState.world.memory.Accepts "demo.missing" := by
      rintro ⟨-, loaded | loadable⟩
      · exact absurd loaded (by decide)
      · exact absurd loadable (by decide)
    exact (missing.fails (mt missing.succeeds_iff.mp refused)).1

end HostBridge
