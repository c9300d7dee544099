import HostBridge.Config.Store
import HostBridge.Proofs.Stateful

/-!
# Loading variables from files

Files of variables only fill gaps: a variable that is set stays as it is, even if its value is the empty text.
Which names a file gives a value to does not depend on the environment that its references are resolved in. So
once the files have been loaded, loading them again changes nothing.
-/

namespace HostBridge.Config

variable {store store' store'' : Store}

namespace Store

/-- Variables that were not set may be set now; nothing else has changed. -/
structure Fills (store store' : Store) : Prop where
  registry : store'.registry = store.registry
  settings? : store'.settings? = store.settings?
  settingsFile? : store'.settingsFile? = store.settingsFile?
  variablesFiles : store'.variablesFiles = store.variablesFiles
  platform : store'.platform = store.platform
  kept : ∀ name value, store.environment.lookup name = some value →
    store'.environment.lookup name = some value

namespace Fills

/-- Nothing was set. -/
theorem refl (store : Store) : store.Fills store := ⟨rfl, rfl, rfl, rfl, rfl, fun _ _ set => set⟩

private theorem trans (first : store.Fills store') (second : store'.Fills store'') : store.Fills store'' :=
  ⟨second.registry.trans first.registry, second.settings?.trans first.settings?,
    second.settingsFile?.trans first.settingsFile?, second.variablesFiles.trans first.variablesFiles,
    second.platform.trans first.platform,
    fun name value set => second.kept name value (first.kept name value set)⟩

private theorem isSome (fills : store.Fills store') {name : String}
    (set : (store.environment.lookup name).isSome = true) :
    (store'.environment.lookup name).isSome = true := by
  obtain ⟨value, found⟩ := Option.isSome_iff_exists.mp set
  rw [fills.kept name value found]
  rfl

private theorem forM {α : Type} {f : α → Access Unit}
    (each : ∀ (a : α) (store : Store), store.Fills ((f a).runOn store).2) (items : List α) (store : Store) :
    store.Fills ((items.forM f).runOn store).2 := by
  induction items generalizing store with
  | nil => exact refl store
  | cons a items ih =>
    have first := each a store
    rw [ExceptT.runOn_forM_cons]
    cases ran : (f a).runOn store with
    | mk result store' =>
    rw [ran] at first
    cases result with
    | error fault => exact first
    | ok u => exact first.trans (ih store')

end Fills

/-! ### Files -/

variable {file text : String}

/-- What a computation comes to, and the environment after it. -/
def came (p : Access Unit) (store : Store) : Except Fault Unit × Variables :=
  ((p.runOn store).1, (p.runOn store).2.environment)

/-- The files are loaded one by one. -/
theorem runOn_loadVariables (store : Store) :
    loadVariables.runOn store =
      ((variablesFileNames store.environmentName).forM loadFile).runOn store := rfl

private theorem runOn_loadFile_of_none (absent : store.variablesFiles.lookup file = none) :
    (loadFile file).runOn store = (.ok (), store) := by
  rw [loadFile, ExceptT.runOn_bind, ExceptT.runOn_get]
  simp only [absent, ExceptT.runOn_pure]

private theorem runOn_loadFile_of_some (found : store.variablesFiles.lookup file = some text) :
    (loadFile file).runOn store = ((store.platform.loader.load text store.environment).1,
      { store with environment := (store.platform.loader.load text store.environment).2 }) := by
  rw [loadFile, ExceptT.runOn_bind, ExceptT.runOn_get]
  simp only [found]
  exact ExceptT.runOn_ofExcept _ _

/-- The bindings in a file are applied, where files are written as name and value. -/
theorem runOn_loadFile_posix {bindings : List VariablesFile.Binding} (posix : store.platform = .posix)
    (found : store.variablesFiles.lookup file = some text)
    (resolved : VariablesFile.resolve store.environment (VariablesFile.parse text) = bindings) :
    (loadFile file).runOn store = ((VariablesFile.applyBindings bindings store.environment).1,
      { store with environment := (VariablesFile.applyBindings bindings store.environment).2 }) := by
  rw [runOn_loadFile_of_some found, posix, ← resolved]
  rfl

/-- The value that a file gives a variable when it is loaded now. -/
def given? (name file : String) (store : Store) : Option String :=
  (store.variablesFiles.lookup file).bind fun text =>
    store.platform.loader.value? text store.environment name

/-- The values of a file fill gaps. -/
theorem fill_loadFile (file : String) (store : Store) :
    Fill (fun name => store.given? name file) store.environment (came (loadFile file) store) := by
  unfold given? came
  cases found : store.variablesFiles.lookup file with
  | none =>
    rw [runOn_loadFile_of_none found]
    exact .idle nofun
  | some text =>
    rw [runOn_loadFile_of_some found]
    exact store.platform.loader.fill text store.environment

/-- A file fills gaps. -/
theorem fills_loadFile (file : String) (store : Store) : store.Fills ((loadFile file).runOn store).2 := by
  have kept := (fill_loadFile file store).kept
  cases found : store.variablesFiles.lookup file with
  | none =>
    rw [runOn_loadFile_of_none found]
    exact .refl store
  | some text =>
    rw [came, runOn_loadFile_of_some found] at kept
    rw [runOn_loadFile_of_some found]
    exact ⟨rfl, rfl, rfl, rfl, rfl, kept⟩

/-- All variables that the file gives values to are set. -/
def Absorbed (store : Store) (file : String) : Prop :=
  ∀ name, (store.given? name file).isSome = true → (store.environment.lookup name).isSome = true

private theorem Fills.isSome_given? (fills : store.Fills store') (name file : String) :
    (store'.given? name file).isSome = (store.given? name file).isSome := by
  unfold given?
  rw [fills.variablesFiles, fills.platform]
  cases store.variablesFiles.lookup file with
  | none => rfl
  | some text => exact store.platform.loader.isSome_value? text _ _ name

private theorem Fills.absorbed (fills : store.Fills store') (absorbed : store.Absorbed file) :
    store'.Absorbed file := by
  intro name given
  rw [fills.isSome_given?] at given
  exact fills.isSome (absorbed name given)

private theorem runOn_loadFile_of_absorbed (absorbed : store.Absorbed file) :
    (loadFile file).runOn store = (.ok (), store) := by
  cases found : store.variablesFiles.lookup file with
  | none => exact runOn_loadFile_of_none found
  | some text =>
    have set (name : String) (given : (store.platform.loader.value? text store.environment name).isSome = true) :
        (store.environment.lookup name).isSome = true :=
      absorbed name (by rw [given?, found]; exact given)
    rw [runOn_loadFile_of_some found, store.platform.loader.load_of_set text store.environment set]

private theorem absorbed_of_loadFile {u : Unit} (ran : (loadFile file).runOn store = (.ok u, store')) :
    store'.Absorbed file := by
  have fills := fills_loadFile file store
  have filled := (fill_loadFile file store).filled
  rw [came, ran] at filled
  rw [ran] at fills
  intro name given
  rw [fills.isSome_given?] at given
  rw [filled rfl name, Option.isSome_or, given, Bool.or_true]

private theorem absorbed_of_loadFiles {files : List String} {u : Unit}
    (ran : (files.forM loadFile).runOn store = (.ok u, store')) : ∀ file ∈ files, store'.Absorbed file := by
  induction files generalizing store with
  | nil => exact fun file member => (List.not_mem_nil member).elim
  | cons file files ih =>
    obtain ⟨v, store₁, first, others⟩ := ExceptT.of_runOn_forM_cons ran
    have later := Fills.forM fills_loadFile files store₁
    rw [others] at later
    exact List.forall_mem_cons.mpr ⟨later.absorbed (absorbed_of_loadFile first), ih others⟩

private theorem runOn_loadFiles_of_absorbed {files : List String} (absorbed : ∀ file ∈ files, store.Absorbed file) :
    (files.forM loadFile).runOn store = (.ok (), store) := by
  induction files with
  | nil => rfl
  | cons file files ih =>
    obtain ⟨first, others⟩ := List.forall_mem_cons.mp absorbed
    rw [ExceptT.runOn_forM_cons, runOn_loadFile_of_absorbed first]
    exact ih others

/-- Loading the files fills gaps, whether it succeeds or not. -/
theorem fills_loadVariables (store : Store) : store.Fills (loadVariables.runOn store).2 := by
  rw [runOn_loadVariables]
  exact .forM fills_loadFile _ store

/-- Once the files have been loaded, loading them again does nothing, if the same files are chosen. -/
theorem loadVariables_again {u : Unit} (ran : loadVariables.runOn store = (.ok u, store'))
    (sameName : store'.environmentName = store.environmentName) :
    loadVariables.runOn store' = (.ok (), store') := by
  rw [runOn_loadVariables] at ran
  rw [runOn_loadVariables, sameName]
  exact runOn_loadFiles_of_absorbed (absorbed_of_loadFiles ran)

/-- The name of the environment can change only if it was not set before. -/
theorem Fills.environmentName_eq (fills : store.Fills store') {name : String}
    (set : store.environment.lookup "ENV" = some name) : store'.environmentName = store.environmentName := by
  rw [environmentName, environmentName, set, fills.kept "ENV" name set]

end Store

end HostBridge.Config
