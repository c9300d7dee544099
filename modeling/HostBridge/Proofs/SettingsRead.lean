import HostBridge.Config.Store
import HostBridge.Proofs.Stateful

/-!
# Settings that have been read

Once the settings have been read they are kept. Whatever is asked of the configuration reads them first and
changes nothing but by that; so what was read from them is read again as it was.
-/

namespace HostBridge.Config.Store

variable {α β : Type} {p : Access α} {store store' : Store}

/-- Settings that have been read are kept. -/
theorem settings?_of_read {v : Value} (read : settings.runOn store = (.ok v, store')) :
    store'.settings? = some v := by
  cases kept : store.settings? with
  | some v' =>
    simp [settings, kept] at read
    obtain ⟨rfl, rfl⟩ := read
    exact kept
  | none =>
    simp only [settings, ExceptT.runOn_bind, ExceptT.runOn_get, kept] at read
    cases loaded : loadVariables.runOn store with
    | mk result store₁ =>
    cases result with
    | error fault => simp [loaded] at read
    | ok u =>
      cases found : store₁.readSettings with
      | error fault => simp [loaded, found] at read
      | ok v' =>
        simp [loaded, found] at read
        obtain ⟨rfl, rfl⟩ := read
        rfl

/-- Settings that are kept are given as they are. -/
theorem runOn_settings_of_kept {v : Value} (kept : store.settings? = some v) :
    settings.runOn store = (.ok v, store) := by
  simp [settings, kept]

/-! ### What leaves the store -/

/-- Where settings are kept, the computation changes nothing. -/
def Leaves (p : Access α) : Prop :=
  ∀ store m, store.settings? = some m → (p.runOn store).2 = store

private theorem Leaves.bind {f : α → Access β} (first : Leaves p) (rest : ∀ a, Leaves (f a)) : Leaves (p >>= f) := by
  intro store m kept
  have same := first store m kept
  rw [ExceptT.runOn_bind]
  cases ran : p.runOn store with
  | mk result store' =>
  rw [ran] at same
  cases same
  cases result with
  | error fault => rfl
  | ok a => exact rest a store' m kept

private theorem leaves_ofExcept (r : Except Fault α) : Leaves (MonadExcept.ofExcept r) := by
  intro store m _
  rw [ExceptT.runOn_ofExcept]

private theorem leaves_settings : Leaves settings := by
  intro store m kept
  rw [runOn_settings_of_kept kept]

/-- Looking something up in the store changes nothing. -/
theorem leaves_lookup (f : Store → Except Fault α) :
    Leaves (do let store ← get; MonadExcept.ofExcept (f store)) :=
  Leaves.bind (fun _ _ _ => rfl) fun _ => leaves_ofExcept _

private theorem leaves_value (key : String) (default : Value) : Leaves (value key default) :=
  leaves_settings.bind fun settings => leaves_lookup fun store =>
    getValue key settings store.environment store.registry.defaults (some default)

/-! ### What reads the settings first -/

/-- The computation reads the settings before anything else, and changes nothing but by that. -/
structure ReadsFirst (p : Access α) : Prop where
  fails : ∀ store fault store', settings.runOn store = (.error fault, store') →
    p.runOn store = (.error fault, store')
  again : ∀ store m store', settings.runOn store = (.ok m, store') → p.runOn store = p.runOn store'
  leaves : Leaves p

namespace ReadsFirst

/-- What goes on from such a computation without a change is one, too. -/
theorem bind {f : α → Access β} (first : ReadsFirst p) (rest : ∀ a, Leaves (f a)) :
    ReadsFirst (p >>= f) where
  fails store fault store' failed := by rw [ExceptT.runOn_bind, first.fails store fault store' failed]
  again store m store' read := by
    rw [ExceptT.runOn_bind, ExceptT.runOn_bind, first.again store m store' read]
  leaves := first.leaves.bind rest

/-- What reads the settings first leaves the store as reading them does. -/
theorem store_eq (reads : ReadsFirst p) (store : Store) : (p.runOn store).2 = (settings.runOn store).2 := by
  cases read : settings.runOn store with
  | mk result store' =>
  cases result with
  | error fault => rw [reads.fails store fault store' read]
  | ok m => rw [reads.again store m store' read, reads.leaves store' m (settings?_of_read read)]

/-- What it comes to, it comes to again. -/
theorem asked_again (reads : ReadsFirst p) {a : α} (ran : p.runOn store = (.ok a, store')) :
    p.runOn store' = (.ok a, store') := by
  have same := reads.store_eq store
  rw [ran] at same
  cases read : settings.runOn store with
  | mk result store₁ =>
  rw [read] at same
  cases same
  cases result with
  | error fault =>
    rw [reads.fails store fault store' read] at ran
    cases ran
  | ok m => rw [← reads.again store m store' read, ran]

end ReadsFirst

/-- Reading the settings reads them first. -/
theorem readsFirst_settings : ReadsFirst settings where
  fails _ _ _ failed := failed
  again store m store' read := by rw [read, runOn_settings_of_kept (settings?_of_read read)]
  leaves := leaves_settings

/-- Looking a value up, asking for the log level and asking for the configuration read them first. -/
theorem readsFirst_value (key : String) (default : Value) : ReadsFirst (value key default) :=
  readsFirst_settings.bind fun settings => leaves_lookup fun store =>
    getValue key settings store.environment store.registry.defaults (some default)

theorem readsFirst_logLevel : ReadsFirst logLevel :=
  (readsFirst_value _ _).bind fun _ => (leaves_ofExcept _).bind fun _ _ _ _ => rfl

theorem readsFirst_bridgeConfig : ReadsFirst bridgeConfig :=
  (readsFirst_value _ _).bind fun _ => (leaves_value _ _).bind fun _ => (leaves_value _ _).bind fun _ =>
    leaves_lookup _

/-- The log level is read again as it was. -/
theorem logLevel_again {level : String} (read : logLevel.runOn store = (.ok level, store')) :
    logLevel.runOn store' = (.ok level, store') :=
  readsFirst_logLevel.asked_again read

/-- The configuration of the bridge is read again as it was. -/
theorem bridgeConfig_again {config : BridgeConfig}
    (read : bridgeConfig.runOn store = (.ok config, store')) :
    bridgeConfig.runOn store' = (.ok config, store') :=
  readsFirst_bridgeConfig.asked_again read

end HostBridge.Config.Store
