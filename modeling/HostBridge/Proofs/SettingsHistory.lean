import HostBridge.Proofs.LoadedVariables
import HostBridge.Proofs.SettingsRead

/-!
# The configuration over whole runs

Settings are read when something is asked for the first time, and kept. Which mapping is in force after any
number of steps can be told from the steps: the latest one that was assigned or read, unless it was forgotten
since. Every value that is asked for comes from the first place that has one.
-/

namespace HostBridge.Config

/-! ### Questions -/

/-- What can be asked of the configuration. -/
inductive Query where
  | value (key : String) (default : Value)
  | settings
  | logLevel
  | entryClass
  | bridgeConfig

namespace Query

/-- What the answer is. -/
def Answer : Query → Type
  | .value .. | .settings | .entryClass => Value
  | .logLevel => String
  | .bridgeConfig => BridgeConfig

/-- Ask. -/
def run : (q : Query) → Access q.Answer
  | .value key default => Store.value key default
  | .settings => Store.settings
  | .logLevel => Store.logLevel
  | .entryClass => Store.entryClass
  | .bridgeConfig => Store.bridgeConfig

/-- Every question reads the settings first. -/
theorem readsFirst (q : Query) : Store.ReadsFirst q.run := by
  cases q with
  | value key default => exact Store.readsFirst_value key default
  | settings => exact Store.readsFirst_settings
  | logLevel => exact Store.readsFirst_logLevel
  | entryClass => exact Store.readsFirst_value _ _
  | bridgeConfig => exact Store.readsFirst_bridgeConfig

end Query

/-! ### Reading the files -/

namespace Store

variable {store store' : Store} {fault : Fault} {m : Value}

/-- The mapping that reading the files comes to, if nothing fails. -/
def loaded? (store : Store) : Option Value :=
  match loadVariables.runOn store with
  | (.ok _, _) => store.readSettings.toOption
  | (.error _, _) => none

/-- The settings file does not change when variables are loaded. -/
theorem Fills.readSettings_eq (fills : store.Fills store') : store'.readSettings = store.readSettings := by
  rw [readSettings, readSettings, fills.settingsFile?, fills.platform]

/-- Settings that are not kept are read: first the variables, then the settings file. -/
theorem runOn_settings_of_unread (unread : store.settings? = none) :
    settings.runOn store = match loadVariables.runOn store with
      | (.error fault, store') => (.error fault, store')
      | (.ok _, store') => match store.readSettings with
        | .error fault => (.error fault, store')
        | .ok m => (.ok m, { store' with settings? := some m }) := by
  have fills := fills_loadVariables store
  simp only [settings, ExceptT.runOn_bind, ExceptT.runOn_get, unread]
  cases ran : loadVariables.runOn store with
  | mk result store' =>
  cases result with
  | error fault => rfl
  | ok u =>
    rw [ran] at fills
    have same : store'.readSettings = store.readSettings := fills.readSettings_eq
    simp only [ExceptT.runOn_ofExcept, same]
    cases store.readSettings <;> rfl

/-- Reading the settings changes which mapping is kept, and fills gaps among the variables. -/
theorem fills_settings (store : Store) : ∃ store', store.Fills store' ∧
    (settings.runOn store).2 = { store' with settings? := store.settings?.or store.loaded? } := by
  cases kept : store.settings? with
  | some m =>
    refine ⟨store, .refl store, ?_⟩
    rw [runOn_settings_of_kept kept, Option.some_or, ← kept]
  | none =>
    have fills := fills_loadVariables store
    rw [runOn_settings_of_unread kept, loaded?]
    cases ran : loadVariables.runOn store with
    | mk result store' =>
    rw [ran] at fills
    refine ⟨store', fills, ?_⟩
    have unread : store'.settings? = none := fills.settings?.trans kept
    cases result with
    | error fault => simp [← unread]
    | ok u =>
      cases store.readSettings with
      | error fault => simp [Except.toOption, ← unread]
      | ok m => rfl

/-- If it succeeds, the variables have been loaded, and what the settings file holds is kept. -/
theorem of_runOn_settings (unread : store.settings? = none) (read : settings.runOn store = (.ok m, store')) :
    loadVariables.runOn store = (.ok (), store'.reset) ∧ store.readSettings = .ok m ∧
      store'.settings? = some m := by
  have fills := fills_loadVariables store
  rw [runOn_settings_of_unread unread] at read
  cases ran : loadVariables.runOn store with
  | mk result store₁ =>
  rw [ran] at read fills
  cases result with
  | error fault => cases read
  | ok u =>
    cases file : store.readSettings with
    | error fault =>
      simp only [file] at read
      cases read
    | ok m' =>
      simp only [file] at read
      cases read
      have forgotten : store₁.settings? = none := fills.settings?.trans unread
      refine ⟨?_, rfl, rfl⟩
      rw [reset, ← forgotten]

end Store

/-! ### Looking a value up -/

namespace Registry

variable {registry : Registry} {name : String}

end Registry

section Places

variable {entries : List (Value × Value)} {key : String} {vars : Variables}
  {defaults : List (String × Value)} {default : Value}

/-- A value that is present is the first of two. -/
theorem orElse_of_present {v : Value} (present : v ≠ .nil) (other : Option Value) : orElse v other = some v := by
  unfold orElse
  split
  · contradiction
  · rfl

private theorem getValue_of_decided {vacant : Bool} (decided : isVacant (entry entries key) = .ok vacant) {v : Value}
    (first : orElse (if vacant then .nil else entry entries key)
      (orElse (((vars.lookup key).map Value.text).getD .nil)
        (orElse ((defaults.lookup key).getD .nil) (some default))) = some v) :
    getValue key (.dict entries) vars defaults (some default) = .ok v := by
  simp only [getValue, settingsEntry, bind, Except.bind, decided, first]

/-- What the settings have is taken. -/
theorem getValue_of_present (decided : isVacant (entry entries key) = .ok false)
    (present : entry entries key ≠ .nil) :
    getValue key (.dict entries) vars defaults (some default) = .ok (entry entries key) :=
  getValue_of_decided decided (orElse_of_present present _)

/-- What they do not have is taken from the environment, if it is set there. -/
theorem getValue_of_set (decided : isVacant (entry entries key) = .ok true) {text : String}
    (set : vars.lookup key = some text) :
    getValue key (.dict entries) vars defaults (some default) = .ok (.text text) :=
  getValue_of_decided decided (by rw [set]; rfl)

end Places

/-- What can happen to the configuration of a process. -/
inductive Step where
  /-- Something is asked. -/
  | ask (q : Query)
  /-- The settings are forgotten. -/
  | reset
  /-- A mapping is assigned in place of the settings, or nothing. -/
  | assign (settings? : Option Value)
  /-- A setting is registered. -/
  | register (setting : Setting)
  /-- The settings file is written or removed. -/
  | writeSettings (text? : Option String)
  /-- A file of variables is written or removed. -/
  | writeVariables (file : String) (text? : Option String)
  /-- A variable is set in the environment. -/
  | setVariable (name value : String)
  /-- A variable is removed from the environment. -/
  | unsetVariable (name : String)

namespace Step

/-- What a step does. -/
def apply : Step → Store → Store
  | .ask q, store => (q.run.runOn store).2
  | .reset, store => store.reset
  | .assign settings?, store => { store with settings? }
  | .register setting, store => { store with registry := store.registry.register setting }
  | .writeSettings text?, store => { store with settingsFile? := text? }
  | .writeVariables file (some text), store =>
    { store with variablesFiles := Table.put store.variablesFiles file text }
  | .writeVariables file none, store =>
    { store with variablesFiles := Table.remove store.variablesFiles file }
  | .setVariable name value, store => { store with environment := Table.put store.environment name value }
  | .unsetVariable name, store => { store with environment := Table.remove store.environment name }

end Step

namespace Store

/-- The store after several steps, latest first. -/
def after (start : Store) : List Step → Store
  | [] => start
  | step :: earlier => step.apply (after start earlier)

/-- The settings that were registered in several steps, latest step first. -/
def registered : List Step → Registry
  | [] => []
  | .register setting :: earlier => registered earlier ++ [setting]
  | _ :: earlier => registered earlier

variable {start : Store} {steps : List Step}

end Store

end HostBridge.Config
