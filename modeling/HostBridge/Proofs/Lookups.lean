import HostBridge.Proofs.Resolving
import HostBridge.Proofs.Sessions

/-!
# Looking names up in the in-memory host

What a lookup finds on a thread that is attached to the in-memory host, when no failures are arranged and the
entry class does not stand in front of the host's own classes: just what the world holds. Lookups leave the
world as it is but for the record of calls and of what was boxed.
-/

namespace HostBridge

namespace Memory.World

/-- The second world is the first one, but for the calls that were seen, what was boxed, and what the host
was shown of the opaque values. -/
def Consulted (w w' : World) : Prop :=
  ∃ boxed seen owned, w' = { w with boxed := boxed, seen := seen, owned := owned }

/-- No failures are arranged, and the host's own classes are found under their names. -/
structure Ready (w : World) : Prop where
  rules : w.rules = []
  entryClass : ∃ v, w.entryClass = .ok v ∧ Action.symbolClass.equal v = false ∧
    Action.namespaceClass.equal v = false

/-- What looking for a variable comes to, by what the world holds. -/
def lookup (w : World) (ns name : String) : Action.Lookup :=
  match w.scope? ns with
  | none => .noNamespace
  | some vars => match vars.lookup name with
    | some (some _) => .bound (.var ns name)
    | _ => .notBound

variable {w w' w'' : World}

/-- What lasts stays ready. -/
theorem Ready.of_lasts (ready : w.Ready) (lasts : w.Lasts w') : w'.Ready where
  rules := lasts.rules ready.rules
  entryClass := by
    rw [lasts.entryClass]
    exact ready.entryClass

namespace Consulted

/-- Nothing was asked. -/
theorem refl (w : World) : w.Consulted w := ⟨w.boxed, w.seen, w.owned, rfl⟩

/-- One consultation after another. -/
theorem trans (first : w.Consulted w') (second : w'.Consulted w'') : w.Consulted w'' := by
  obtain ⟨_, _, _, rfl⟩ := first
  obtain ⟨boxed, seen, owned, rfl⟩ := second
  exact ⟨boxed, seen, owned, rfl⟩

/-- Consulting leaves the namespaces. -/
theorem scope?_eq (consulted : w.Consulted w') (ns : String) : w'.scope? ns = w.scope? ns := by
  obtain ⟨_, _, _, rfl⟩ := consulted
  rfl

/-- Consulting leaves the variables. -/
theorem var?_eq (consulted : w.Consulted w') (ns name : String) : w'.var? ns name = w.var? ns name := by
  obtain ⟨_, _, _, rfl⟩ := consulted
  rfl

/-- Consulting leaves what lookups come to. -/
theorem lookup_eq (consulted : w.Consulted w') (ns name : String) :
    w'.lookup ns name = w.lookup ns name := by
  obtain ⟨_, _, _, rfl⟩ := consulted
  rfl

/-- Consulting lasts. -/
theorem lasts (consulted : w.Consulted w') : w.Lasts w' := by
  obtain ⟨_, _, _, rfl⟩ := consulted
  exact .of_eq rfl rfl rfl

end Consulted

/-! ### What the host tells -/

/-- A call comes to this, whatever the backend, and the world is only consulted. -/
def Answers (w : World) (call : Call) (r : Except Fault Value) : Prop :=
  ∀ b, ∃ w', perform b call w = .answer w' r ∧ w.Consulted w'

/-- A call is answered with this value, whatever the backend, and the world is only consulted. -/
def Tells (w : World) (call : Call) (v : Value) : Prop :=
  ∀ b, ∃ w', perform b call w = .answer w' (.ok v) ∧ w.Consulted w'

/-- Where no failures are arranged, a call is noted and carried out. -/
theorem perform_of_noRules (rules : w.rules = []) {call : Call} (primitive : call.isPrimitive = true)
    (b : BackendId) : perform b call w = carryOut b call { w with seen := (b, call) :: w.seen } := by
  rcases perform_cases b call w with noted | ⟨attach, -⟩
  · rw [noted]
    obtain ⟨_, _, _, _, _, _, _, _, _, _, _, _, _, _, _⟩ := w
    cases rules
    rfl
  · rw [attach] at primitive
    cases primitive

variable (ready : w.Ready) (consulted : w.Consulted w')

include ready consulted

/-- A call that is carried out by reading the world comes to what it reads, however often the world has been
consulted before. -/
theorem Answers.of_carryOut {call : Call} (primitive : call.isPrimitive = true) {r : Except Fault Value}
    (reads : ∀ b w', w.Consulted w' → ∃ w'', carryOut b call w' = .answer w'' r ∧
      w'.Consulted w'') : w'.Answers call r := by
  intro b
  rw [perform_of_noRules (consulted.lasts.rules ready.rules) primitive]
  have noted : w'.Consulted { w' with seen := (b, call) :: w'.seen } := ⟨w'.boxed, _, w'.owned, rfl⟩
  obtain ⟨w'', answered, more⟩ := reads b _ (consulted.trans noted)
  exact ⟨w'', answered, noted.trans more⟩

theorem Tells.of_carryOut {call : Call} (primitive : call.isPrimitive = true) {v : Value}
    (reads : ∀ b w', w.Consulted w' → ∃ w'', carryOut b call w' = .answer w'' (.ok v) ∧
      w'.Consulted w'') : w'.Tells call v :=
  Answers.of_carryOut ready consulted primitive reads

/-- Boxing gives the value itself. -/
theorem tells_box (v : Value) : w'.Tells (.box v) v := by
  refine .of_carryOut ready consulted rfl fun b w' _ => ?_
  by_cases first : b = firstBackend
  · exact ⟨_, by rw [carryOut, if_pos first]; rfl, _, _, _, rfl⟩
  · exact ⟨_, by rw [carryOut, if_neg first]; rfl, .refl _⟩

/-- The class of symbols is found under its name. -/
theorem tells_symbolClass : w'.Tells (.staticClass Action.symbolClass) (.fixture .symbolClass) := by
  refine .of_carryOut ready consulted rfl fun b w' consulted => ⟨w', ?_, .refl w'⟩
  obtain ⟨v, entry, other, -⟩ := (ready.of_lasts consulted.lasts).entryClass
  change (lift w'.entryClass >>= fun entryClass => _) w' = _
  rw [entry]
  change (if Action.symbolClass.equal v = true then _ else _ : Work Value) w' = _
  rw [other]
  rfl

/-- The class of namespaces is found under its name. -/
theorem tells_namespaceClass : w'.Tells (.staticClass Action.namespaceClass) (.fixture .namespaceClass) := by
  refine .of_carryOut ready consulted rfl fun b w' consulted => ⟨w', ?_, .refl w'⟩
  obtain ⟨v, entry, -, other⟩ := (ready.of_lasts consulted.lasts).entryClass
  change (lift w'.entryClass >>= fun entryClass => _) w' = _
  rw [entry]
  change (if Action.namespaceClass.equal v = true then _ else _ : Work Value) w' = _
  rw [other]
  rfl

/-- The class of symbols makes the symbol of a name. -/
theorem tells_intern (name : String) :
    w'.Tells (.invoke (.fixture .symbolClass) "intern" [.text name]) (.symbol name) :=
  .of_carryOut ready consulted rfl fun _ w' _ => ⟨w', rfl, .refl w'⟩

/-- The class of namespaces finds those that are there. -/
theorem tells_find (ns : String) :
    w'.Tells (.invoke (.fixture .namespaceClass) "find" [.symbol ns])
      (if (w.scope? ns).isSome then .scope ns else .nil) := by
  refine .of_carryOut ready consulted rfl fun b w' consulted => ⟨w', ?_, .refl w'⟩
  rw [← consulted.scope?_eq ns]
  rfl

/-- A namespace finds the variables that it has. -/
theorem tells_findInternedVar (ns name : String) :
    w'.Tells (.invoke (.scope ns) "findInternedVar" [.symbol name])
      (if (w.var? ns name).isSome then .var ns name else .nil) := by
  refine .of_carryOut ready consulted rfl fun b w' consulted => ⟨w', ?_, .refl w'⟩
  rw [← consulted.var?_eq ns name]
  rfl

/-- A variable says whether it has a body. -/
theorem tells_isBound (ns name : String) :
    w'.Tells (.invoke (.var ns name) "isBound" []) (.bool ((w.var? ns name).join).isSome) := by
  refine .of_carryOut ready consulted rfl fun b w' consulted => ⟨w', ?_, .refl w'⟩
  rw [← consulted.var?_eq ns name]
  rfl

end Memory.World

/-- Calling the function of a bound variable does what its body does. -/
theorem Memory.method_invoke_of_bound {w : World} {ns name : String} {body : Body}
    (bound : w.var? ns name = some (some body)) (args : List Value) :
    method (.var ns name) "invoke" args w = callFunction (ns ++ "/" ++ name) body args w := by
  have there : function? w (.var ns name) = some (ns ++ "/" ++ name, body) := by
    rw [function?, bound]
    rfl
  have now (f : World → Work Value) : (get >>= f) w = f w w := rfl
  simp only [method]
  rw [now, there]

/-! ### Consulting the host through a handle -/

namespace State

/-- The thread is attached to the in-memory host through this handle. -/
structure InMemory (s : State Worlds) (t : ThreadId) (rt : HandleId) : Prop where
  cached : (s.attachments t).handle? = some rt
  live : ∃ h, s.handles[rt.index]? = some h ∧ h.owner = t ∧ h.detached = false ∧
    h.backend ≠ defaultBackend

/-- The in-memory world as the host sees it in this state. -/
def shown (s : State Worlds) : Memory.World := { s.world.memory with owned := s.view }

/-- What the host is shown is the world but for what it is shown. -/
theorem consulted_shown (s : State Worlds) : s.world.memory.Consulted s.shown := ⟨_, _, _, rfl⟩

/-- The in-memory world was consulted, and neither what threads hold nor the configuration has changed. -/
structure Consults (s s' : State Worlds) : Prop where
  attachments : s'.attachments = s.attachments
  handles : s'.handles = s.handles
  owned : s'.owned = s.owned
  store : s'.store = s.store
  memory : s.world.memory.Consulted s'.world.memory

variable {s s' s'' : State Worlds} {t : ThreadId} {rt : HandleId}

namespace Consults

/-- One consultation after another. -/
theorem trans (first : s.Consults s') (second : s'.Consults s'') : s.Consults s'' :=
  ⟨second.attachments.trans first.attachments, second.handles.trans first.handles,
    second.owned.trans first.owned, second.store.trans first.store, first.memory.trans second.memory⟩

/-- What the host is shown is still the world. -/
theorem shown (consults : s.Consults s') : s.world.memory.Consulted s'.shown :=
  consults.memory.trans ⟨_, _, _, rfl⟩

/-- Threads stay attached. -/
theorem inMemory (consults : s.Consults s') (attached : s.InMemory t rt) : s'.InMemory t rt := by
  refine ⟨?_, ?_⟩
  · rw [consults.attachments]
    exact attached.cached
  · rw [consults.handles]
    exact attached.live

end Consults

end State

namespace Action

open Memory (World)

variable {s : State Worlds} {t : ThreadId} {rt : HandleId} (level : Nat)

/-- A call to the in-memory host that calls nobody back comes back with what it is answered, and changes the
world only. -/
theorem runOn_hosts_of_answer {b : BackendId} (inMemory : b ≠ defaultBackend) {call : Call}
    {r : Except Fault Value} {w : World} (answered : Memory.perform b call s.shown = .answer w r)
    (through? : Option HandleId) (t : ThreadId) :
    ∃ s', (hosts.host level through? b call).runOn t s = (r, s') ∧ s'.attachments = s.attachments ∧
      s'.handles = s.handles ∧ s'.owned = s.owned ∧ s'.store = s.store ∧ s'.world.memory = w := by
  have worked : ∃ machine, hosts s.view t b call s.world = .answer ⟨w, machine⟩ r := by
    refine ⟨{ s.world.machine with owned := s.view }, ?_⟩
    change (if b = defaultBackend then _ else _ : Hosted Worlds Value) (s.world.showing s.view) = _
    rw [if_neg inMemory]
    change Reply.zoom _ _ _ (Memory.perform b call s.shown) = _
    rw [answered]
    rfl
  obtain ⟨machine, worked⟩ := worked
  let asked := s.noting (.called ⟨t, b, call, through?, level⟩)
  have ran : ((hosts s.view t b call s.world).run (hosts.answers level)).runOn t asked =
      (r, { asked with world := ⟨w, machine⟩ }) := by
    rw [worked]
    cases r <;> rfl
  rw [HostProgram.host_eq_serve]
  exact ⟨_, HostProgram.runOn_serve hosts level ran, rfl, rfl, rfl, rfl, rfl⟩

private theorem runOn_hosts_of_answers {b : BackendId} (inMemory : b ≠ defaultBackend) {call : Call}
    {r : Except Fault Value} (answers : s.shown.Answers call r) (through? : Option HandleId)
    (t : ThreadId) :
    ∃ s', (hosts.host level through? b call).runOn t s = (r, s') ∧ s.Consults s' := by
  obtain ⟨w, answered, consulted⟩ := answers b
  obtain ⟨s', ran, attachments, handles, owned, store, rfl⟩ :=
    runOn_hosts_of_answer level inMemory answered through? t
  exact ⟨s', ran, attachments, handles, owned, store, s.consulted_shown.trans consulted⟩

private theorem runOn_cross_of_answers (attached : s.InMemory t rt) {call : Call} {r : Except Fault Value}
    (answers : s.shown.Answers call r) :
    ∃ s', (cross (hosts.host level) rt call).runOn t s = (r, s') ∧ s.Consults s' := by
  obtain ⟨h, found, owner, live, inMemory⟩ := attached.live
  rw [cross, runOn_bind, runOn_checked_of_live found live owner]
  exact runOn_hosts_of_answers level inMemory answers (some rt) t

theorem runOn_cross_of_tells (attached : s.InMemory t rt) {call : Call} {v : Value}
    (tells : s.shown.Tells call v) :
    ∃ s', (cross (hosts.host level) rt call).runOn t s = (.ok v, s') ∧ s.Consults s' :=
  runOn_cross_of_answers level attached tells

/-- A static call consults the host twice. -/
theorem runOn_invokeStatic_of_answers (attached : s.InMemory t rt) {className target : Value}
    {method : String} {args : List Value} {r : Except Fault Value}
    (finds : s.shown.Tells (.staticClass className) target)
    (answers : ∀ s', s.Consults s' → s'.shown.Answers (.invoke target method args) r) :
    ∃ s', (invokeStatic (hosts.host level) rt className method args).runOn t s = (r, s') ∧
      s.Consults s' := by
  obtain ⟨h, found, owner, live, inMemory⟩ := attached.live
  obtain ⟨s₁, class_found, first⟩ := runOn_hosts_of_answers level inMemory finds (some rt) t
  obtain ⟨s', called, second⟩ := runOn_hosts_of_answers level inMemory (answers s₁ first) (some rt) t
  refine ⟨s', ?_, first.trans second⟩
  rw [invokeStatic, runOn_bind, runOn_checked_of_live found live owner]
  dsimp only
  rw [runOn_bind, class_found]
  exact called

theorem runOn_invokeStatic_of_tells (attached : s.InMemory t rt) {className target v : Value}
    {method : String} {args : List Value} (finds : s.shown.Tells (.staticClass className) target)
    (tells : ∀ s', s.Consults s' → s'.shown.Tells (.invoke target method args) v) :
    ∃ s', (invokeStatic (hosts.host level) rt className method args).runOn t s = (.ok v, s') ∧
      s.Consults s' :=
  runOn_invokeStatic_of_answers level attached finds tells

variable (attached : s.InMemory t rt) (ready : s.world.memory.Ready)

include attached ready

/-- The symbol of a name is made. -/
theorem runOn_internSymbol (name : String) :
    ∃ s', (internSymbol (hosts.host level) rt name).runOn t s = (.ok (.symbol name), s') ∧
      s.Consults s' := by
  obtain ⟨s₁, boxed, first⟩ := runOn_cross_of_tells level attached
    (World.tells_box ready s.consulted_shown (.text name))
  obtain ⟨s', interned, second⟩ := runOn_invokeStatic_of_tells level (first.inMemory attached)
    (World.tells_symbolClass ready first.shown)
    (fun s₂ more => World.tells_intern ready (first.trans more).shown name)
  refine ⟨s', ?_, first.trans second⟩
  rw [internSymbol, runOn_bind, box, boxed]
  exact interned

/-- A namespace is found if it is there. -/
theorem runOn_lookUpNamespace (ns : String) :
    ∃ s', (lookUpNamespace (hosts.host level) rt ns).runOn t s =
        (.ok (if (s.world.memory.scope? ns).isSome then .scope ns else .nil), s') ∧ s.Consults s' := by
  obtain ⟨s₁, symbol, first⟩ := runOn_internSymbol level attached ready ns
  obtain ⟨s', found, second⟩ := runOn_invokeStatic_of_tells level (first.inMemory attached)
    (World.tells_namespaceClass ready first.shown)
    (fun s₂ more => World.tells_find ready (first.trans more).shown ns)
  refine ⟨s', ?_, first.trans second⟩
  rw [lookUpNamespace, runOn_bind, symbol]
  exact found

/-- A lookup finds what the world holds. -/
theorem runOn_lookUp (ns name : String) :
    ∃ s', (lookUp (hosts.host level) rt ns name).runOn t s = (.ok (s.world.memory.lookup ns name), s') ∧
      s.Consults s' := by
  obtain ⟨s₁, found, first⟩ := runOn_lookUpNamespace level attached ready ns
  cases scope : s.world.memory.scope? ns with
  | none =>
    refine ⟨s₁, ?_, first⟩
    rw [scope] at found
    rw [lookUp, runOn_bind, found, World.lookup, scope]
    rfl
  | some vars =>
    have var (name : String) : s.world.memory.var? ns name = vars.lookup name := by
      rw [World.var?, scope, Option.bind_some]
    obtain ⟨s₂, symbol, second⟩ := runOn_internSymbol level (first.inMemory attached)
      (ready.of_lasts first.memory.lasts) name
    obtain ⟨s₃, searched, third⟩ := runOn_cross_of_tells level ((first.trans second).inMemory attached)
      (World.tells_findInternedVar ready (first.trans second).shown ns name)
    replace found : (lookUpNamespace (hosts.host level) rt ns).runOn t s = (.ok (.scope ns), s₁) := by
      rw [found, scope]
      rfl
    rw [var] at searched
    rw [World.lookup, scope]
    dsimp only
    cases there : vars.lookup name with
    | none =>
      rw [there] at searched
      refine ⟨s₃, ?_, (first.trans second).trans third⟩
      simp only [lookUp, runOn_bind, found, symbol, invokeMethod, searched]
      rfl
    | some body? =>
      rw [there] at searched
      have all := (first.trans second).trans third
      obtain ⟨s₄, asked, fourth⟩ := runOn_cross_of_tells level (all.inMemory attached)
        (World.tells_isBound ready all.shown ns name)
      rw [var, there] at asked
      refine ⟨s₄, ?_, all.trans fourth⟩
      simp only [lookUp, runOn_bind, found, symbol, invokeMethod, searched]
      cases body? with
      | none =>
        simp only [Option.isSome_some, if_true, runOn_bind, asked]
        rfl
      | some body =>
        simp only [Option.isSome_some, if_true, runOn_bind, asked]
        rfl

end Action

end HostBridge
