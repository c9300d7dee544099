import HostBridge.Proofs.Asking
import HostBridge.Proofs.Crossings
import HostBridge.Proofs.SettingsHistory

/-!
# Settings that reading does not depend on

Before a text is read, the configuration of the bridge is checked as a whole, but only the entry class is taken
from it. So the settings for booting a virtual machine matter only as far as they may be refused: among those
that are acceptable, none makes a difference to what reading gives, nor to what the host is asked meanwhile,
whatever it does and however deep it calls back.
-/

namespace HostBridge

/-! ### The configuration -/

namespace Config.Store

variable {α β : Type} {p : Access α} {store : Store}

private theorem ReadsFirst.outcome_bind (first : ReadsFirst p) {f : α → Access β} (rest : ∀ a, ReadsFirst (f a))
    (store : Store) :
    ((p >>= f).runOn store).1 = (p.runOn store).1.bind fun a => ((f a).runOn store).1 := by
  have left := first.store_eq store
  rw [ExceptT.runOn_bind]
  cases ran : p.runOn store with
  | mk result store₁ =>
  rw [ran] at left
  cases result with
  | error fault => rfl
  | ok a =>
    cases read : settings.runOn store with
    | mk found store' =>
    rw [read] at left
    cases left
    cases found with
    | error fault =>
      rw [first.fails store fault store₁ read] at ran
      cases ran
    | ok m => exact (congrArg Prod.fst ((rest a).again store m store₁ read)).symm

private theorem ReadsFirst.platform_eq (reads : ReadsFirst p) (store : Store) :
    (p.runOn store).2.platform = store.platform := by
  obtain ⟨filled, fills, left⟩ := fills_settings store
  rw [reads.store_eq, left]
  exact fills.platform

/-- The configuration is built from the three settings as each is found from the start. -/
theorem outcome_bridgeConfig (store : Store) :
    (bridgeConfig.runOn store).1 = (entryClass.runOn store).1.bind fun entry =>
      ((value "CLJBRIDGE_CLASSPATH" .nil).runOn store).1.bind fun classpath =>
        ((value "CLJBRIDGE_JVM_PATH" .nil).runOn store).1.bind fun jvmPath =>
          store.platform.build entry classpath jvmPath := by
  have built (entry classpath : Value) : ReadsFirst (do
      let jvmPath ← value "CLJBRIDGE_JVM_PATH" .nil
      MonadExcept.ofExcept ((← get).platform.build entry classpath jvmPath)) :=
    (readsFirst_value _ _).bind fun _ => leaves_lookup _
  have first : ReadsFirst entryClass := readsFirst_value _ _
  refine (first.outcome_bind (fun entry => (readsFirst_value _ _).bind fun classpath =>
    (built entry classpath).leaves) store).trans (congrArg _ (funext fun entry => ?_))
  refine ((readsFirst_value _ _).outcome_bind (built entry) store).trans
    (congrArg _ (funext fun classpath => ?_))
  have samePlatform := (readsFirst_value "CLJBRIDGE_JVM_PATH" .nil).platform_eq store
  rw [ExceptT.runOn_bind]
  cases ran : (value "CLJBRIDGE_JVM_PATH" .nil).runOn store with
  | mk result store' =>
  rw [ran] at samePlatform
  cases result with
  | error fault => rfl
  | ok jvmPath =>
    change store'.platform = store.platform at samePlatform
    rw [← samePlatform]
    exact congrArg Prod.fst (ExceptT.runOn_ofExcept _ store')

/-- The settings for booting a virtual machine can be found, and are ones that a configuration may have. -/
structure Bootable (store : Store) : Prop where
  classpath : ∃ v entries, ((value "CLJBRIDGE_CLASSPATH" .nil).runOn store).1 = .ok v ∧
    store.platform.classpathOf v = .ok entries
  jvmPath : ∃ v path?, ((value "CLJBRIDGE_JVM_PATH" .nil).runOn store).1 = .ok v ∧
    store.platform.libraryPath v = .ok path?

/-- The configuration is in order and has this entry class. -/
def Names (store : Store) (entry : String) : Prop :=
  ∃ config, (bridgeConfig.runOn store).1 = .ok config ∧ config.entryClass = entry

private theorem Names.again {entry : String} (names : store.Names entry) :
    (bridgeConfig.runOn store).2.Names entry := by
  obtain ⟨config, came, rfl⟩ := names
  have ran : bridgeConfig.runOn store = (.ok config, (bridgeConfig.runOn store).2) := Prod.ext came rfl
  exact ⟨config, by rw [bridgeConfig_again ran], rfl⟩

/-- With acceptable settings for booting, the configuration has the entry class that was found, if that is a text,
and is refused because of it otherwise. -/
theorem names_or_refused {entry : Value} (given : (entryClass.runOn store).1 = .ok entry)
    (bootable : store.Bootable) :
    match store.platform.checks.accept entry with
    | .ok name => store.Names name
    | .error problem => (bridgeConfig.runOn store).1 = .error (.invalid [⟨"entry_class", problem⟩]) := by
  obtain ⟨⟨classpath, entries, found, accepted⟩, jvmPath, path?, found', accepted'⟩ := bootable
  have came : (bridgeConfig.runOn store).1 = store.platform.checks.build entry (.ok entries) jvmPath := by
    rw [outcome_bridgeConfig, given, found, found', ← accepted]
    rfl
  unfold Names
  rw [came]
  change optionally store.platform.checks.accept jvmPath = .ok path? at accepted'
  cases named : store.platform.checks.accept entry with
  | ok name =>
    exact ⟨⟨name, entries, path?⟩, store.platform.checks.build_of_accepted entries named accepted', rfl⟩
  | error problem =>
    have refused := store.platform.checks.build_of_refused entry entries jvmPath
    rw [named, accepted'] at refused
    exact refused (List.cons_ne_nil _ _)

/-- Settings for booting that are not acceptable are refused. -/
theorem refused_of_not_bootable {entry : Value} (given : (entryClass.runOn store).1 = .ok entry)
    (unbootable : ¬ store.Bootable) : ∃ fault, (bridgeConfig.runOn store).1 = .error fault := by
  rw [outcome_bridgeConfig, given]
  cases found : ((value "CLJBRIDGE_CLASSPATH" .nil).runOn store).1 with
  | error fault => exact ⟨fault, rfl⟩
  | ok classpath =>
  cases found' : ((value "CLJBRIDGE_JVM_PATH" .nil).runOn store).1 with
  | error fault => exact ⟨fault, rfl⟩
  | ok jvmPath =>
  change ∃ fault, store.platform.checks.build entry (store.platform.classpathOf classpath) jvmPath = .error fault
  cases accepted : store.platform.classpathOf classpath with
  | error fault => exact store.platform.checks.build_of_fault entry fault jvmPath
  | ok entries =>
  cases accepted' : store.platform.libraryPath jvmPath with
  | error problem =>
    change optionally store.platform.checks.accept jvmPath = .error problem at accepted'
    refine ⟨_, store.platform.checks.build_of_refused entry entries jvmPath ?_⟩
    rw [accepted']
    exact List.append_ne_nil_of_right_ne_nil _ (List.cons_ne_nil _ _)
  | ok path? =>
    exact (unbootable ⟨⟨classpath, entries, found, accepted⟩, jvmPath, path?, found', accepted'⟩).elim

end Config.Store

/-! ### What does not look at the configuration -/

variable {ω α β : Type} {entry : String}

/-- Two states are the same but for the configuration, and the configuration of both has the entry class. -/
structure State.Agrees (entry : String) (s s' : State ω) : Prop where
  rest : s' = { s with store := s'.store }
  names : s.store.Names entry
  names' : s'.store.Names entry

/-- Where the configuration has the entry class, nothing else in it matters to the computation. -/
def Action.Heeds (entry : String) (p : Action ω α) : Prop :=
  ∀ t {s s' : State ω}, s.Agrees entry s' →
    (p.runOn t s').1 = (p.runOn t s).1 ∧ (p.runOn t s).2.Agrees entry (p.runOn t s').2

namespace Action.Heeds

private theorem of_blind {p : Action ω α} (blind : ∀ t (s : State ω) store,
    p.runOn t { s with store } = ((p.runOn t s).1, { (p.runOn t s).2 with store })) : Heeds entry p := by
  intro t s s' h
  have same := blind t s s.store
  have other := blind t s s'.store
  rw [← h.rest] at other
  have left : (p.runOn t s).2.store = s.store := congrArg (fun came => came.2.store) same
  rw [other]
  exact ⟨rfl, rfl, left ▸ h.names, h.names'⟩

/-- A row heeds what its parts heed. -/
theorem bind {p : Action ω α} {f : α → Action ω β} (first : Heeds entry p) (rest : ∀ a, Heeds entry (f a)) :
    Heeds entry (p >>= f) := by
  intro t s s' h
  obtain ⟨same, agrees⟩ := first t h
  rw [runOn_bind, runOn_bind]
  cases ran : p.runOn t s with
  | mk result e =>
  cases ran' : p.runOn t s' with
  | mk result' e' =>
  rw [ran, ran'] at same agrees
  cases same
  cases result with
  | ok a => exact rest a t agrees
  | error fault => exact ⟨rfl, agrees⟩

/-- What goes on from a state may look at anything else in it. -/
theorem get_bind {f : State ω → Action ω α} (blind : ∀ s store, f { s with store } = f s)
    (rest : ∀ s, Heeds entry (f s)) : Heeds entry (get >>= f) := by
  intro t s s' h
  rw [runOn_bind, runOn_bind, runOn_get, runOn_get]
  dsimp only
  rw [h.rest, blind]
  rw [← h.rest]
  exact rest s t h

/-- Giving a value does not look at the configuration. -/
theorem pure (a : α) : Heeds entry (Pure.pure a : Action ω α) := of_blind fun _ _ _ => rfl

theorem throw (fault : Fault) : Heeds entry (MonadExcept.throw fault : Action ω α) := of_blind fun _ _ _ => rfl

/-- Going on by an outcome heeds nothing more. -/
theorem outcome {p : Action ω α} (h : Heeds entry p) : Heeds entry (Action.outcome p) := by
  intro t s s' agrees
  rw [runOn_outcome, runOn_outcome, (h t agrees).1]
  exact ⟨rfl, (h t agrees).2⟩

private theorem entryClass :
    Heeds entry (Config.BridgeConfig.entryClass <$> configured Config.Store.bridgeConfig : Action ω String) := by
  intro t s s' h
  have read {s : State ω} (names : s.store.Names entry) :
      (Config.BridgeConfig.entryClass <$> configured Config.Store.bridgeConfig : Action ω String).runOn t s =
        (.ok entry, { s with store := (Config.Store.bridgeConfig.runOn s.store).2 }) := by
    obtain ⟨config, came, rfl⟩ := names
    rw [runOn_map, runOn_configured]
    exact congrArg (fun r => (Except.map _ r, _)) came
  rw [read h.names, read h.names']
  refine ⟨rfl, ?_, h.names.again, h.names'.again⟩
  rw [h.rest]

/-- The steps with which operations keep the books heed nothing but the entry class. -/
theorem stepwise : Stepwise (fun {α} => Heeds (ω := ω) entry (α := α)) where
  pure := pure
  reference id := get_bind (fun _ _ => rfl) fun s => by
    cases s.view id with
    | some v => exact pure v
    | none => exact throw _
  bind := bind
  throw := throw
  outcome := outcome
  log _ := of_blind fun _ _ _ => rfl
  getBackend := get_bind (fun _ _ => rfl) fun s => by
    cases s.installed? with
    | some b => exact pure b
    | none => exact bind (of_blind fun _ _ _ => rfl) fun _ => pure _

/-- The steps with what threads have attached, and with handles, do not look at the configuration. -/
theorem freehanded : Freehanded (fun {α} => Heeds (ω := ω) entry (α := α)) :=
  { stepwise with
    thread := of_blind fun _ _ _ => rfl
    attachment := of_blind fun _ _ _ => rfl
    updateAttachment := fun _ => of_blind fun _ _ _ => rfl
    newHandle := fun _ _ => of_blind fun _ _ _ => rfl
    checked := fun id => get_bind (fun _ _ => rfl) fun s => by
      cases s.handles[id.index]? with
      | none => exact throw _
      | some handle =>
        refine of_blind fun t s store => ?_
        by_cases detached : handle.detached = true
        · simp [detached]
        · by_cases own : handle.owner = t <;> simp [detached, own]
    markDetached := fun _ => of_blind fun _ _ _ => rfl
    forgotten := fun _ => of_blind fun _ _ _ => rfl }

/-- Operations keep their books alike whatever else is configured. -/
theorem bookkeeping : Bookkeeping Operation.Any (fun {α} => Heeds (ω := ω) entry (α := α)) :=
  { stepwise with
    entryClass := entryClass
    hasRuntime := of_blind fun _ _ _ => rfl
    setBackend := fun _ => of_blind fun _ _ _ => rfl
    own := fun _ => of_blind fun _ _ _ => rfl
    released := fun _ => of_blind fun _ _ _ => rfl
    release := fun _ _ => of_blind fun _ _ _ => rfl }

end Action.Heeds

/-! ### Hosts -/

open HostBridge.Action (Heeds)

namespace HostProgram

variable {answer : Request → Action ω Value} (program : HostProgram ω)

private theorem reply_run_heeds (answers : ∀ q, Heeds entry (answer q)) (reply : Reply ω Value) :
    Heeds entry (reply.run answer) := by
  induction reply with
  | answer w result => exact Heeds.bind (.of_blind fun _ _ _ => rfl) fun _ => Heeds.stepwise.ofExcept result
  | callBack w request resume ih =>
    refine Heeds.bind (.of_blind fun _ _ _ => rfl) fun _ => ?_
    refine Heeds.bind (Heeds.outcome (answers request)) fun result => ?_
    exact Heeds.get_bind (fun _ _ => rfl) fun s => ih result s.world

private theorem serve_heeds (answers : ∀ q, Heeds entry (answer q)) (level : Nat) (through? : Option HandleId)
    (b : BackendId) (call : Call) : Heeds entry (program.serve answer level through? b call) := by
  refine Heeds.bind (.of_blind fun _ _ _ => rfl) fun t => ?_
  refine Heeds.bind (.of_blind fun _ _ _ => rfl) fun _ => Heeds.get_bind (fun _ _ => rfl) fun s => ?_
  refine Heeds.bind (Heeds.outcome (reply_run_heeds answers _)) fun result => ?_
  exact Heeds.bind (.of_blind fun _ _ _ => rfl) fun _ => Heeds.stepwise.ofExcept result

private theorem carries_of_answers (answers : ∀ q, Heeds entry (answer q)) (level : Nat) :
    (program.serve answer level).Carries Operation.Any (fun {α} => Heeds entry (α := α)) :=
  Heeds.freehanded.carries (program.serve_heeds answers level) Heeds.bookkeeping

private theorem answers_heed (level : Nat) (q : Request) : Heeds entry (program.answers level q) := by
  induction level generalizing q with
  | zero =>
    cases q with
    | perform op => exact Heeds.throw _
    | turn u op => exact Heeds.throw _
    | log line => exact Heeds.bind (.of_blind fun _ _ _ => rfl) fun _ => Heeds.pure _
  | succ level ih =>
    have host : (program.host level).Carries Operation.Any (fun {α} => Heeds entry (α := α)) := by
      rw [program.host_eq_serve]
      exact program.carries_of_answers ih level
    cases q with
    | perform op => exact host.run op trivial
    | turn u op => exact fun _ _ _ h => host.run op trivial u h
    | log line => exact Heeds.bind (.of_blind fun _ _ _ => rfl) fun _ => Heeds.pure _

private theorem run_heeds (level : Nat) (op : Operation) : Heeds entry (op.run (program.host level)) := by
  rw [program.host_eq_serve]
  exact (program.carries_of_answers (program.answers_heed level) level).run op trivial

end HostProgram

/-! ### Reading -/

/-- The text that an operation reads, or the fault of fragments that are none. -/
def Operation.readText? : Operation → Option (Except Fault String)
  | .read text => some (.ok text)
  | .readForms forms => some ((Action.fragmentsIn forms).map Source.joinForms)
  | _ => none

/-- An operation that reads a text has it read and gives an opaque value. -/
theorem Operation.run_of_readText (host : Host ω) {op : Operation} {r : Except Fault String}
    (reads : op.readText? = some r) :
    op.run host = MonadExcept.ofExcept r >>= fun text => Value.owner <$> Action.readString host text := by
  cases op with
  | read text =>
    cases reads
    exact (map_eq_pure_bind _ _).symm
  | readForms forms =>
    cases reads
    rw [run, Action.readForms]
    cases Action.fragmentsIn forms with
    | ok texts => exact (map_eq_pure_bind _ _).symm
    | error fault => rfl
  | _ => cases reads

/-- Where the configuration is refused, reading ends with that. -/
theorem Action.runOn_readString_of_refused (host : Host ω) {s : State ω} {fault : Fault}
    (refused : (Config.Store.bridgeConfig.runOn s.store).1 = .error fault) (text : String) (t : ThreadId) :
    (readString host text).runOn t s =
      (.error fault, { s with store := (Config.Store.bridgeConfig.runOn s.store).2 }) := by
  have read : (configured Config.Store.bridgeConfig : Action ω Config.BridgeConfig).runOn t s =
      (.error fault, { s with store := (Config.Store.bridgeConfig.runOn s.store).2 }) :=
    (runOn_configured Config.Store.bridgeConfig t s).trans (congrArg (fun r => (r, _)) refused)
  rw [readString, runOn_bind, read]

/-- Two configurations on one platform that give the same entry class, read the same text in the same state: if the
settings for booting are acceptable in both, reading comes to the same, and leaves the same state but for the
configuration; if they are not acceptable in one, reading ends there with the fault that says so, and nothing
else happens. -/
theorem reading_takes_only_entry_class (program : HostProgram ω) (level : Nat) (a b : Config.Store)
    (samePlatform : b.platform = a.platform) (entry : Value) (given : (Config.Store.entryClass.runOn a).1 = .ok entry)
    (given' : (Config.Store.entryClass.runOn b).1 = .ok entry) (op : Operation) (r : Except Fault String)
    (reads : op.readText? = some r) (t : ThreadId) (s : State ω) :
    let came := (op.run (program.host level)).runOn t { s with store := a }
    let came' := (op.run (program.host level)).runOn t { s with store := b }
    (a.Bootable → b.Bootable → came'.1 = came.1 ∧ came'.2 = { came.2 with store := came'.2.store }) ∧
    (¬ a.Bootable → ∀ text, r = .ok text → ∃ fault,
      (Config.Store.bridgeConfig.runOn a).1 = .error fault ∧
        came = (.error fault, { s with store := came.2.store })) := by
  have run := Operation.run_of_readText (program.host level) reads
  have refused {store : Config.Store} {fault : Fault} {text : String} (same : r = .ok text)
      (came : (Config.Store.bridgeConfig.runOn store).1 = .error fault) :
      (op.run (program.host level)).runOn t { s with store } =
        (.error fault, { s with store := (Config.Store.bridgeConfig.runOn store).2 }) := by
    subst same
    rw [run, Action.runOn_bind, Action.runOn_ofExcept]
    dsimp only
    rw [Action.runOn_map, Action.runOn_readString_of_refused _ came]
    rfl
  refine ⟨fun bootable bootable' => ?_, fun unbootable text same => ?_⟩
  · have outcome := Config.Store.names_or_refused given bootable
    have outcome' := Config.Store.names_or_refused given' bootable'
    rw [samePlatform] at outcome'
    cases named : a.platform.checks.accept entry with
    | ok name =>
      rw [named] at outcome outcome'
      have both : State.Agrees name { s with store := a } { s with store := b } := ⟨rfl, outcome, outcome'⟩
      obtain ⟨same, agrees⟩ := program.run_heeds level op t both
      exact ⟨same, agrees.rest⟩
    | error problem =>
      rw [named] at outcome outcome'
      cases r with
      | error fault =>
        rw [run]
        exact ⟨rfl, rfl⟩
      | ok text =>
        rw [refused rfl outcome, refused rfl outcome']
        exact ⟨rfl, rfl⟩
  · obtain ⟨fault, came⟩ := Config.Store.refused_of_not_bootable given unbootable
    refine ⟨fault, came, ?_⟩
    rw [refused same came]

/-- A configuration in which nothing is set. -/
def bareStore : Config.Store := .ofSettings (.dict []) []

/-- A configuration with a class path and a library for booting. -/
def bootStore : Config.Store :=
  .ofSettings (.dict [(.text "CLJBRIDGE_CLASSPATH", .list [.text "app.jar"]),
    (.text "CLJBRIDGE_JVM_PATH", .text "libjvm.so")]) []

/-- A configuration with a truth value where the library belongs. -/
def flagStore : Config.Store := .ofSettings (.dict [(.text "CLJBRIDGE_JVM_PATH", .bool true)]) []

/-- What reading a text on the main thread of the obliging host comes to under a configuration. -/
def readUnder (store : Config.Store) : Except Fault Value × State Unit :=
  ((Operation.read "1").run (obligingHost.host nestingLimit)).runOn .main (.initial store ())

/-- The library for booting makes no difference to reading as long as it is a text. -/
theorem reading_takes_only_entry_class_booting :
    bareStore.Bootable ∧ bootStore.Bootable ∧ (readUnder bareStore).1 = .ok (.owner ⟨0⟩) ∧
      (readUnder bootStore).1 = .ok (.owner ⟨0⟩) := by
  have bare : bareStore.Bootable := ⟨⟨.nil, [], rfl, rfl⟩, .nil, none, rfl, rfl⟩
  have boot : bootStore.Bootable :=
    ⟨⟨.list [.text "app.jar"], ["app.jar"], rfl, rfl⟩, .text "libjvm.so", some "libjvm.so", rfl, rfl⟩
  have came : (readUnder bareStore).1 = .ok (.owner ⟨0⟩) := rfl
  obtain ⟨same, -⟩ := (reading_takes_only_entry_class obligingHost nestingLimit bareStore bootStore
    rfl (.text "clojure.java.api.Clojure") rfl rfl (.read "1") (.ok "1") rfl .main (.initial bareStore ())).1 bare boot
  exact ⟨bare, boot, came, same.trans came⟩

/-- A truth value where the library belongs makes a difference, though the entry class is the same: reading ends
before the host is asked. -/
theorem reading_minds_refused_settings :
    (Config.Store.entryClass.runOn flagStore).1 = (Config.Store.entryClass.runOn bareStore).1 ∧
      (readUnder bareStore).1 = .ok (.owner ⟨0⟩) ∧
      (readUnder flagStore).1 = .error (.invalid [⟨"jvm_path", .notText⟩]) ∧
      (readUnder flagStore).2.journal = [] ∧ (readUnder bareStore).2.journal ≠ [] :=
  ⟨rfl, rfl, rfl, rfl, nofun⟩

end HostBridge
