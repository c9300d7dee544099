import HostBridge.Proofs.Asking
import HostBridge.Proofs.ExactLookups
import HostBridge.Proofs.Forms
import HostBridge.Proofs.Invoking
import HostBridge.Proofs.SettingsRead

/-!
# Reading and printing through the bridge

On a thread that is attached to the in-memory host, a text is read as the form that it begins with, and a form
is printed as its readable text. So what has been read can be printed and read again.
-/

namespace HostBridge

open Config (BridgeConfig)

namespace Memory.World

variable {w w' : World} (ready : w.Ready) (consulted : w.Consulted w') {source : String} {v : Value}

include ready consulted

/-- The entry class is found under its name. -/
theorem tells_entryClass {className : String} (entry : w.entryClass = .ok (.text className)) :
    w'.Tells (.staticClass (.text className)) (.fixture .entry) := by
  refine .of_carryOut ready consulted rfl fun b w' consulted => ⟨w', ?_, .refl w'⟩
  have same : w'.entryClass = .ok (.text className) := by
    rw [consulted.lasts.entryClass, entry]
  change (lift w'.entryClass >>= fun entryClass => _) w' = _
  rw [same]
  change (if (Value.text className).equal (.text className) = true then _ else _ : Work Value) w' = _
  rw [Value.equal_text, beq_self_eq_true]
  rfl

/-- The entry class reads the form that a text begins with. -/
theorem tells_read (reads : Form.ofText source = .ok v) :
    w'.Tells (.invoke (.fixture .entry) "read" [.text source]) v := by
  refine .of_carryOut ready consulted rfl fun b w' _ => ⟨w', ?_, .refl w'⟩
  change reportingThrown (readForm (.text source)) w' = _
  simp only [readForm, Value.plain_prim, reads]
  rfl

omit consulted in
/-- Of a text that begins with no form it reads nothing. -/
theorem answers_read_error {fault : ReadFault} (refused : Form.ofText source = .error fault) :
    ∃ fault', ∀ w', w.Consulted w' →
      w'.Answers (.invoke (.fixture .entry) "read" [.text source]) (.error fault') := by
  have reported (f : Fault) : ∃ f', ∀ w : World, reportingThrown (throw f) w = .answer w (.error f') := by
    cases f with
    | thrown className message => exact ⟨.host className message none _, fun _ => rfl⟩
    | _ => exact ⟨_, fun _ => rfl⟩
  obtain ⟨fault', answered⟩ :=
    reported (fault.report fun message => .thrown "java.lang.RuntimeException" (some message))
  refine ⟨fault', fun w' consulted => .of_carryOut ready consulted rfl fun b w' _ => ⟨w', ?_, .refl w'⟩⟩
  change reportingThrown (readForm (.text source)) w' = _
  simp only [readForm, Value.plain_prim, refused]
  exact answered w'

/-- The printer gives the readable text of a value. -/
theorem tells_prStr {ns name text : String} (var : w.var? ns name = some (some (.builtin .prStr)))
    (prints : ∀ view, print view v = .ok text) :
    w'.Tells (.invoke (.var ns name) "invoke" [v]) (.text text) := by
  refine .of_carryOut ready consulted rfl fun b w' consulted => ⟨w', ?_, .refl w'⟩
  have printed : callBody (.builtin .prStr) [v] w' = .answer w' (.ok (.text text)) := by
    change (lift (print w'.view v) >>= fun text => pure (.text text) : Work Value) w' = _
    rw [prints]
    rfl
  have called : callFunction (ns ++ "/" ++ name) (.builtin .prStr) [v] w' =
      .answer w' (.ok (.text text)) := by
    rw [callFunction, reportingArity]
    change (callBody (.builtin .prStr) [v] w').handle _ = _
    rw [printed]
    rfl
  change (method (.var ns name) "invoke" [v] w').handle _ = _
  rw [method_invoke_of_bound ((consulted.var?_eq ns name).trans var), called]
  rfl

/-- A text is its own primitive. -/
theorem tells_unbox (text : String) : w'.Tells (.unbox (.text text)) (.text text) :=
  .of_carryOut ready consulted rfl fun _ w' _ => ⟨w', rfl, .refl w'⟩

end Memory.World

namespace State

variable {s s' s'' : State Worlds} {t : ThreadId} {rt : HandleId} {id : OpaqueId} {v : Value}

/-- The in-memory world was consulted, and values were added to those that are owned. -/
structure Gains (s s' : State Worlds) : Prop where
  attachments : s'.attachments = s.attachments
  handles : s'.handles = s.handles
  store : s'.store = s.store
  owned : ∃ more, s'.owned = s.owned ++ more
  memory : s.world.memory.Consulted s'.world.memory

/-- Whoever only consults the world adds no values. -/
theorem Consults.gains (consults : s.Consults s') : s.Gains s' :=
  ⟨consults.attachments, consults.handles, consults.store, ⟨[], by simp [consults.owned]⟩, consults.memory⟩

/-- Owning a value adds it. -/
theorem gains_owning (s : State Worlds) (v : Value) : s.Gains (s.owning v) :=
  ⟨rfl, rfl, rfl, ⟨[some v], rfl⟩, .refl _⟩

private theorem gains_logged (s : State Worlds) (l : List LogEntry) : s.Gains { s with log := l } :=
  ⟨rfl, rfl, rfl, ⟨[], by simp⟩, .refl _⟩

namespace Gains

/-- One gain after another. -/
theorem trans (first : s.Gains s') (second : s'.Gains s'') : s.Gains s'' := by
  obtain ⟨more, added⟩ := first.owned
  obtain ⟨more', added'⟩ := second.owned
  refine ⟨second.attachments.trans first.attachments, second.handles.trans first.handles,
    second.store.trans first.store, ⟨more ++ more', ?_⟩, first.memory.trans second.memory⟩
  rw [added', added, List.append_assoc]

/-- Values keep what they own. -/
theorem view (gains : s.Gains s') (owns : s.view id = some v) : s'.view id = some v := by
  obtain ⟨more, added⟩ := gains.owned
  have there : id.index < s.owned.length := lt_length_of_view owns
  rw [State.view, added, List.getElem?_append_left there]
  exact owns

/-- Threads stay attached. -/
theorem inMemory (gains : s.Gains s') (attached : s.InMemory t rt) : s'.InMemory t rt := by
  refine ⟨?_, ?_⟩
  · rw [gains.attachments]
    exact attached.cached
  · rw [gains.handles]
    exact attached.live

end Gains

/-- The thread is attached to the in-memory host, no failures are arranged there, the configured class is the
one that reads source text, and the host's own printer stands under its name. -/
structure ReadsAndPrints (s : State Worlds) (t : ThreadId) (rt : HandleId) : Prop where
  attached : s.InMemory t rt
  ready : s.world.memory.Ready
  reader : ∀ config store, Config.Store.bridgeConfig.runOn s.store = (.ok config, store) →
    s.world.memory.entryClass = .ok (.text config.entryClass)
  printer : s.world.memory.var? Action.coreNamespace "pr-str" = some (some (.builtin .prStr))

/-- The configuration of the bridge has been read. -/
def Settled (s : State Worlds) : Prop :=
  ∃ config, Config.Store.bridgeConfig.runOn s.store = (.ok config, s.store)

theorem Gains.settled (gains : s.Gains s') (settled : s.Settled) : s'.Settled := by
  rw [Settled, gains.store]
  exact settled

/-- Reading and printing go on. -/
theorem Gains.readsAndPrints (gains : s.Gains s') (serves : s.ReadsAndPrints t rt) :
    s'.ReadsAndPrints t rt where
  attached := gains.inMemory serves.attached
  ready := serves.ready.of_lasts gains.memory.lasts
  reader := by
    rw [gains.store, gains.memory.lasts.entryClass]
    exact serves.reader
  printer := by
    rw [gains.memory.var?_eq]
    exact serves.printer

private theorem ReadsAndPrints.configuring (serves : s.ReadsAndPrints t rt) {config : BridgeConfig}
    {store : Config.Store} (configured : Config.Store.bridgeConfig.runOn s.store = (.ok config, store)) :
    ({ s with store } : State Worlds).ReadsAndPrints t rt ∧ ({ s with store } : State Worlds).Settled := by
  have again := Config.Store.bridgeConfig_again configured
  refine ⟨⟨⟨serves.attached.cached, serves.attached.live⟩, serves.ready, ?_, serves.printer⟩, config, again⟩
  intro config' store' read
  rw [again] at read
  cases read
  exact serves.reader config store configured

end State

namespace Action

open Memory (World)
open Memory.Form (IsForm)

variable {s s' : State Worlds} {t : ThreadId} {rt : HandleId} {source : String} {id : OpaqueId} {v : Value}
  (level : Nat)

private theorem runOn_onHostFault_error {ω α : Type} {body : Action ω α} {respond : Fault → Action ω Fault}
    {t : ThreadId} {s s' : State ω} {fault : Fault} (ran : body.runOn t s = (.error fault, s')) :
    ∃ fault' s'', (onHostFault body respond).runOn t s = (.error fault', s'') := by
  cases fault with
  | host className message trace cause =>
    cases responded : (respond (.host className message trace cause)).runOn t s' with
    | mk result s'' => cases result <;> exact ⟨_, s'', by simp [onHostFault, ran, responded]; rfl⟩
  | _ => exact ⟨_, s', by simp [onHostFault, ran]; rfl⟩

/-- Have the host read a text through a class. -/
def readThrough (host : Host Worlds) (className source : String) : Action Worlds Value :=
  withRuntime host fun rt => do
    let boxed ← box host rt (.text source)
    invokeStatic host rt (.text className) "read" [boxed]

/-- Calling a function with one object that is owned hands that object over. -/
theorem runOn_callThrough_reference (attached : s.InMemory t rt) {id : OpaqueId} {v : Value}
    (owns : s.view id = some v) (host : Host Worlds) (target : Value) :
    (withRuntime host (callThrough host target [.reference id])).runOn t s =
      (cross host rt (.invoke target "invoke" [v])).runOn t s := by
  rw [withRuntime, runOn_bind, runOn_currentRuntime_of_handle _ attached.cached]
  dsimp only
  rw [callThrough, runOn_bind, allToHost, runOn_bind, toHost, runOn_reference_of_owned owns]
  rfl

section Reads

variable (attached : s.InMemory t rt) (ready : s.world.memory.Ready)

include attached ready

/-- A bound variable is resolved. -/
theorem runOn_resolve_of_binds (ns name : String) (binds : s.world.memory.Binds ns name) :
    ∃ f s', (resolve (hosts.host level) ns name).runOn t s = (.ok f, s') ∧
      s'.view f.inner = some (.var ns name) ∧ s.Gains s' := by
  obtain ⟨s₁, l, consults, resolved⟩ := runOn_resolve_inMemory level attached ready ns name
  rcases s.world.memory.lookup_cases ns name with ⟨-, unbound, -⟩ | ⟨-, unbound, -⟩ | ⟨-, -, found⟩
  · exact (unbound binds).elim
  · exact (unbound binds).elim
  rw [found] at resolved
  refine ⟨_, _, resolved, s₁.view_owning _, ?_⟩
  exact (consults.gains.trans (s₁.gains_owning _)).trans (State.gains_logged _ l)

private theorem runOn_readThrough {className : String}
    (entry : s.world.memory.entryClass = .ok (.text className)) (source : String) :
    ∃ r s', (readThrough (hosts.host level) className source).runOn t s = (r, s') ∧ s.Consults s' ∧
      ∀ v, r = .ok v ↔ Memory.Form.ofText source = .ok v := by
  obtain ⟨s₁, boxed, first⟩ := runOn_cross_of_tells level attached
    (World.tells_box ready s.consulted_shown (.text source))
  have finds := World.tells_entryClass ready first.shown entry
  have answered : ∃ r s', (invokeStatic (hosts.host level) rt (.text className) "read"
      [.text source]).runOn t s₁ = (r, s') ∧ s₁.Consults s' ∧
        ∀ v, r = .ok v ↔ Memory.Form.ofText source = .ok v := by
    cases forms : Memory.Form.ofText source with
    | ok v =>
      obtain ⟨s', called, second⟩ := runOn_invokeStatic_of_tells level (first.inMemory attached) finds
        (fun s₂ more => World.tells_read ready (first.trans more).shown forms)
      exact ⟨_, s', called, second, by simp⟩
    | error fault =>
      obtain ⟨fault', answers⟩ := World.answers_read_error ready forms
      obtain ⟨s', called, second⟩ := runOn_invokeStatic_of_answers level (first.inMemory attached) finds
        (fun s₂ more => answers _ (first.trans more).shown)
      exact ⟨_, s', called, second, by simp⟩
  obtain ⟨r, s', called, second, reads⟩ := answered
  refine ⟨r, s', ?_, first.trans second, reads⟩
  rw [readThrough, withRuntime, runOn_bind, runOn_currentRuntime_of_handle _ attached.cached]
  dsimp only
  rw [runOn_bind, box, boxed]
  exact called

end Reads

private theorem runOn_configured_of_read {access : Config.Access BridgeConfig}
    {r : Except Fault BridgeConfig} {store : Config.Store} (read : access.runOn s.store = (r, store)) :
    (configured access : Action Worlds _).runOn t s = (r, { s with store }) := by
  rw [runOn_configured]
  change ((access.runOn s.store).1, { s with store := (access.runOn s.store).2 }) = _
  rw [read]

private theorem runOn_readString_ok {config : BridgeConfig} {store : Config.Store}
    (configured : Config.Store.bridgeConfig.runOn s.store = (.ok config, store))
    (came : (readThrough (hosts.host level) config.entryClass source).runOn t { s with store } = (.ok v, s')) :
    (readString (hosts.host level) source).runOn t s = (.ok ⟨s'.owned.length⟩, s'.owning v) := by
  rw [readThrough] at came
  rw [readString, runOn_bind, runOn_configured_of_read configured]
  dsimp only
  rw [runOn_bind, runOn_onHostFault_ok came]
  rfl

/-- So a text that was read began with a form, which is owned now. -/
theorem of_runOn_readString (serves : s.ReadsAndPrints t rt)
    (read : (readString (hosts.host level) source).runOn t s = (.ok id, s')) :
    ∃ v, Memory.Form.ofText source = .ok v ∧ s'.view id = some v ∧ s'.ReadsAndPrints t rt ∧ s'.Settled := by
  cases configured : Config.Store.bridgeConfig.runOn s.store with
  | mk result store =>
  cases result with
  | error fault =>
    rw [readString, runOn_bind, runOn_configured_of_read configured] at read
    cases read
  | ok config =>
  obtain ⟨serves', settled⟩ := serves.configuring configured
  obtain ⟨r, s₁, came, consults, reads⟩ := runOn_readThrough level serves'.attached serves'.ready
    (serves.reader config store configured) source
  cases r with
  | error fault =>
    rw [readThrough] at came
    obtain ⟨fault', s₂, failed⟩ := runOn_onHostFault_error came
    rw [readString, runOn_bind, runOn_configured_of_read configured] at read
    dsimp only at read
    rw [runOn_bind, failed] at read
    cases read
  | ok v =>
    have ran := runOn_readString_ok level configured came
    rw [ran] at read
    cases read
    have gains := consults.gains.trans (s₁.gains_owning v)
    exact ⟨v, (reads v).mp rfl, s₁.view_owning v, gains.readsAndPrints serves', gains.settled settled⟩

/-- Where the configuration has been read, every text that begins with a form is read. -/
theorem runOn_readString_of_settled (serves : s.ReadsAndPrints t rt) (settled : s.Settled)
    (forms : Memory.Form.ofText source = .ok v) :
    ∃ id s', (readString (hosts.host level) source).runOn t s = (.ok id, s') ∧ s'.view id = some v ∧
      s.Gains s' := by
  obtain ⟨config, configured⟩ := settled
  obtain ⟨r, s₁, came, consults, reads⟩ := runOn_readThrough level serves.attached serves.ready
    (serves.reader config s.store configured) source
  cases (reads v).mpr forms
  have ran := runOn_readString_ok level configured came
  exact ⟨_, _, ran, s₁.view_owning v, consults.gains.trans (s₁.gains_owning v)⟩

private theorem runOn_printed (serves : s.ReadsAndPrints t rt) (owns : s.view id = some v) {text : String}
    (prints : ∀ view, Memory.print view v = .ok text) :
    ∃ id' s', (printed (hosts.host level) (.owner id)).runOn t s = (.ok id', s') ∧
      s'.view id' = some (.text text) ∧ s.Gains s' := by
  obtain ⟨f, s₂, resolved, target, second⟩ := runOn_resolve_of_binds level serves.attached serves.ready
    coreNamespace "pr-str" ⟨_, serves.printer⟩
  have serves₂ := second.readsAndPrints serves
  have converted : argumentsIn (.tuple [.owner id]) = .ok [.reference id] := rfl
  obtain ⟨s₃, called, third⟩ := runOn_cross_of_tells level serves₂.attached
    (World.tells_prStr serves₂.ready s₂.consulted_shown serves₂.printer prints)
  have came := runOn_callThrough_reference serves₂.attached (second.view owns) (hosts.host level)
    (.var coreNamespace "pr-str")
  refine ⟨⟨s₃.owned.length⟩, s₃.owning (.text text), ?_, s₃.view_owning _,
    (second.trans third.gains).trans (s₃.gains_owning _)⟩
  rw [printed, runOn_bind, resolved]
  exact runOn_invoke_ok converted target (came.trans called)

/-- The readable form of a value is what the printer makes of it (`pr_str`). -/
theorem runOn_prStr (serves : s.ReadsAndPrints t rt) (owns : s.view id = some v) {text : String}
    (prints : ∀ view, Memory.print view v = .ok text) :
    ∃ s', (prStr (hosts.host level) (.owner id)).runOn t s = (.ok (.text text), s') ∧ s.Gains s' := by
  obtain ⟨id', s₁, called, owns', first⟩ := runOn_printed level serves owns prints
  have attached := first.inMemory serves.attached
  obtain ⟨s', unboxed, second⟩ := runOn_cross_of_tells level attached
    (World.tells_unbox (first.readsAndPrints serves).ready s₁.consulted_shown text)
  have converted : (withRuntime (hosts.host level) fun rt => unbox (hosts.host level) rt (.text text)).runOn
      t s₁ = (.ok (.text text), s') := by
    rw [withRuntime, runOn_bind, runOn_currentRuntime_of_handle _ attached.cached]
    exact unboxed
  refine ⟨s', ?_, first.trans second.gains⟩
  rw [prStr, runOn_bind, called]
  dsimp only
  rw [runOn_toPrimitive_of_present _ owns' (by simp), converting, runOn_bind, runOn_outcome, converted]
  rfl

end Action

/-- On a thread that is attached to the in-memory host, with the reader and the printer in place, every value
that was read can be printed. What is printed is read again, as an equal value, and that is printed as the same
text. -/
theorem printed_forms_are_read_back (level : Nat) {s s₁ : State Worlds} {t : ThreadId} {rt : HandleId}
    (serves : s.ReadsAndPrints t rt) {source : String} {id : OpaqueId}
    (read : (Action.readString (hosts.host level) source).runOn t s = (.ok id, s₁)) :
    ∃ v text s₂ id' s₃ s₄, s₁.view id = some v ∧
      (Action.prStr (hosts.host level) (.owner id)).runOn t s₁ = (.ok (.text text), s₂) ∧
      (Action.readString (hosts.host level) text).runOn t s₂ = (.ok id', s₃) ∧
      s₃.view id' = some v ∧ v.equal v = true ∧
      (Action.prStr (hosts.host level) (.owner id')).runOn t s₃ = (.ok (.text text), s₄) := by
  obtain ⟨v, forms, owns, serves₁, settled⟩ := Action.of_runOn_readString level serves read
  have isForm := Memory.Form.isForm_of_ofText forms
  have prints := Memory.Form.print_of_isForm isForm
  obtain ⟨s₂, printed, first⟩ := Action.runOn_prStr level serves₁ owns prints
  obtain ⟨id', s₃, again, owns', second⟩ := Action.runOn_readString_of_settled level
    (first.readsAndPrints serves₁) (first.settled settled)
    (Memory.Form.ofText_printed isForm View.blank)
  have serves₃ := (first.trans second).readsAndPrints serves₁
  obtain ⟨s₄, printed', -⟩ := Action.runOn_prStr level serves₃ owns' prints
  exact ⟨v, _, s₂, id', s₃, s₄, owns, printed, again, owns',
    Memory.Form.equalAs_of_isForm isForm false, printed'⟩

/-- A configuration without files and variables, so that all settings have their defaults. -/
def defaultStore : Config.Store := .ofSettings (.dict []) []

/-- The main thread is attached to an in-memory host that is as it begins. -/
def readerState : State Worlds :=
  ((Operation.currentRuntime.run host).runOn .main
    { State.initial defaultStore ⟨.initial (.ok (.text Config.defaultEntryClass)), .idle⟩ with
      installed? := some Memory.firstBackend }).2

theorem readerState_configured : Config.Store.bridgeConfig.runOn readerState.store =
    (.ok ⟨Config.defaultEntryClass, [], none⟩, readerState.store) := rfl

/-- The reader and the printer of the in-memory host are in place. -/
theorem readerState_serves : readerState.ReadsAndPrints .main ⟨0⟩ where
  attached := ⟨rfl, ⟨Memory.firstBackend, .main, false⟩, rfl, rfl, rfl, by decide⟩
  ready := by
    refine ⟨rfl, .text Config.defaultEntryClass, rfl, ?_, ?_⟩
    · simp [Action.symbolClass, Config.defaultEntryClass]
    · simp [Action.namespaceClass, Config.defaultEntryClass]
  reader := by
    intro config store read
    rw [readerState_configured] at read
    cases read
    rfl
  printer := rfl

/-- A text that begins with a nested form, with escaped quotes, and an integer that could be shorter. -/
def nestedSource : String := "(a [007, \"say \\\"hi\\\"\"] \x7b:k nil\x7d) b"

/-- The form. -/
def nestedForm : Value :=
  .coll .list [.symbol "a", .coll .vector [.int 7, .text "say \"hi\""], .coll .map [.keyword "k", .nil]]

/-- The nested form is read, printed, and read again. -/
theorem printed_forms_are_read_back_nested :
    ∃ id s₁ text s₂ id' s₃, (Action.readString host nestedSource).runOn .main readerState = (.ok id, s₁) ∧
      s₁.view id = some nestedForm ∧
      (Action.prStr host (.owner id)).runOn .main s₁ = (.ok (.text text), s₂) ∧
      (Action.readString host text).runOn .main s₂ = (.ok id', s₃) ∧ s₃.view id' = some nestedForm := by
  have reads : Memory.Form.ofText nestedSource = .ok nestedForm := rfl
  obtain ⟨id, s₁, read, owns, -⟩ := Action.runOn_readString_of_settled nestingLimit readerState_serves
    ⟨_, readerState_configured⟩ reads
  obtain ⟨v, text, s₂, id', s₃, -, owns₁, printed, again, owns₃, -⟩ :=
    printed_forms_are_read_back nestingLimit readerState_serves read
  cases owns.symm.trans owns₁
  exact ⟨id, s₁, text, s₂, id', s₃, read, owns, printed, again, owns₃⟩

end HostBridge
