import HostBridge.Proofs.LoadedVariables

/-!
# Which file a variable comes from

Files of variables are loaded in order, and each fills the gaps that the environment and the files before it
have left. So of the values that files give a variable the first one counts, where the environment has none;
what later, more specific files say of it is passed over.
-/

namespace HostBridge.Config

namespace Store

variable {store store' : Store}

/-! ### Files -/

/-- The values that files give a variable, in the order in which the files are loaded. -/
def valuesOf (name : String) : List String → Store → List String
  | [], _ => []
  | file :: files, store =>
    (store.given? name file).toList ++ valuesOf name files ((loadFile file).runOn store).2

/-- Files offer the first of the values that they give. -/
theorem fill_loadFiles (files : List String) (store : Store) :
    Fill (fun name => (store.valuesOf name files).head?) store.environment
      (came (files.forM loadFile) store) := by
  induction files generalizing store with
  | nil => exact .idle nofun
  | cons file files ih =>
    have first := fill_loadFile file store
    have values (name : String) : (store.valuesOf name (file :: files)).head? =
        (store.given? name file).or
          ((((loadFile file).runOn store).2).valuesOf name files).head? := by
      rw [valuesOf, List.head?_append, Option.head?_toList]
    simp only [values]
    unfold came at first ⊢
    rw [ExceptT.runOn_forM_cons]
    cases ran : (loadFile file).runOn store with
    | mk result store₁ =>
    rw [ran] at first
    cases result with
    | error fault => exact first.cutShort _
    | ok u => exact first.andThen (ih store₁)

/-- The values that the files of the environment give a variable, from the least to the most specific file. -/
def offered (store : Store) (name : String) : List String :=
  store.valuesOf name (variablesFileNames store.environmentName)

/-! ### Which variables are set -/

/-- A file gives a value to a variable, which does not depend on the environment. -/
def Gives (store : Store) (file name : String) : Prop :=
  ∃ text, store.variablesFiles.lookup file = some text ∧
    (store.platform.loader.value? text [] name).isSome = true

private theorem isSome_given? {name file : String} :
    (store.given? name file).isSome = true ↔ store.Gives file name := by
  unfold given? Gives
  cases store.variablesFiles.lookup file with
  | none => simp
  | some text =>
    rw [Option.bind_some, store.platform.loader.isSome_value? text store.environment [] name]
    simp

private theorem isSome_head?_valuesOf {name : String} {files : List String} :
    ((store.valuesOf name files).head?).isSome = true ↔ ∃ file ∈ files, store.Gives file name := by
  induction files generalizing store with
  | nil => simp [valuesOf]
  | cons file files ih =>
    have fills := fills_loadFile file store
    rw [valuesOf, List.head?_append, Option.head?_toList, Option.isSome_or, Bool.or_eq_true, isSome_given?, ih]
    simp [Gives, fills.variablesFiles, fills.platform]

/-- Once the files have been loaded, a variable is set if it was set before or one of them gives it a value. -/
theorem isSome_lookup_of_loadVariables {u : Unit} (ran : loadVariables.runOn store = (.ok u, store'))
    (name : String) : (store'.environment.lookup name).isSome = true ↔
      (store.environment.lookup name).isSome = true ∨
        ∃ file ∈ variablesFileNames store.environmentName, store.Gives file name := by
  rw [runOn_loadVariables] at ran
  have filled := (fill_loadFiles (variablesFileNames store.environmentName) store).filled
  rw [came, ran] at filled
  rw [filled rfl name, Option.isSome_or, Bool.or_eq_true, isSome_head?_valuesOf]

/-- Where the environment has no value, the first of the values counts that files give, and so the last one does
not count unless it is the same. Loading fails only over a value that would count but cannot be set, and then no
other value than one that would count has been set. -/
structure FirstCounts (store : Store) : Prop where
  fills : store.Fills (loadVariables.runOn store).2
  succeeds : (∃ store', loadVariables.runOn store = (.ok (), store')) ↔
    ∀ name value, store.environment.lookup name = none → (store.offered name).head? = some value →
      bindingFault? name value = none
  first : ∀ store', loadVariables.runOn store = (.ok (), store') → ∀ name,
    store'.environment.lookup name = (store.environment.lookup name).or (store.offered name).head?
  last : ∀ store', loadVariables.runOn store = (.ok (), store') → ∀ name,
    store.environment.lookup name = none → (store'.environment.lookup name = (store.offered name).getLast? ↔
      (store.offered name).head? = (store.offered name).getLast?)
  failing : ∀ fault store', loadVariables.runOn store = (.error fault, store') → ∀ name value,
    store'.environment.lookup name = some value →
      (store.environment.lookup name).or (store.offered name).head? = some value

/-- Earlier files win over later ones, and the environment over them all, whatever it holds and whatever stands
in the files. -/
theorem earlier_files_win (store : Store) : store.FirstCounts := by
  have fill : Fill (fun name => (store.offered name).head?) store.environment (came loadVariables store) :=
    fill_loadFiles _ store
  have loaded {result store'} (ran : loadVariables.runOn store = (result, store')) :
      Fill (fun name => (store.offered name).head?) store.environment (result, store'.environment) := by
    rw [came, ran] at fill
    exact fill
  refine ⟨fills_loadVariables store, ⟨?_, fun possible => ?_⟩, fun store' ran => (loaded ran).filled rfl, ?_,
    fun fault store' ran => (loaded ran).within⟩
  · rintro ⟨store', ran⟩
    exact (loaded ran).possible rfl
  · cases ran : loadVariables.runOn store with
    | mk result store' =>
    cases result with
    | ok u => exact ⟨store', rfl⟩
    | error fault =>
      obtain ⟨name, value, gap, needed, impossible⟩ := (loaded ran).failed fault rfl
      rw [possible name value gap needed] at impossible
      cases impossible
  · intro store' ran name gap
    rw [(loaded ran).filled rfl name, gap, Option.none_or]

/-- Two files disagree about a variable. -/
def disagreeing (environment : Variables) : Store :=
  { registry := Registry.builtin, settings? := none, environment, settingsFile? := none
    variablesFiles := [(".env", "A=1\n"), (".env.development", "A=2\n")] }

/-- The more specific file is passed over. -/
theorem earlier_files_win_disagreeing :
    ∃ store', loadVariables.runOn (disagreeing []) = (.ok (), store') ∧
      (disagreeing []).offered "A" = ["1", "2"] ∧ store'.environment.lookup "A" = some "1" := by
  have development : (disagreeing []).environmentName = "development" := rfl
  have files : variablesFileNames "development" = [".env", ".env.development", ".env.development.local"] := by
    decide
  have first : (loadFile ".env").runOn (disagreeing []) = (.ok (), disagreeing [("A", "1")]) := by
    have resolved : VariablesFile.resolve (disagreeing []).environment (VariablesFile.parse "A=1\n") =
        [("A", some "1")] := rfl
    have allowed : bindingFault? "A" "1" = none := by simp [bindingFault?]
    rw [runOn_loadFile_posix rfl rfl resolved, VariablesFile.applyBindings_cons_of_gap rfl, allowed]
    rfl
  have second : (loadFile ".env.development").runOn (disagreeing [("A", "1")]) =
      (.ok (), disagreeing [("A", "1")]) := by
    have resolved : VariablesFile.resolve (disagreeing [("A", "1")]).environment
        (VariablesFile.parse "A=2\n") = [("A", some "2")] := rfl
    rw [runOn_loadFile_posix rfl rfl resolved, VariablesFile.applyBindings_cons_of_set fun _ => rfl]
    rfl
  have ran : loadVariables.runOn (disagreeing []) = (.ok (), disagreeing [("A", "1")]) := by
    rw [runOn_loadVariables, development, files, ExceptT.runOn_forM_cons, first]
    dsimp only
    rw [ExceptT.runOn_forM_cons, second]
    rfl
  have offered : (disagreeing []).offered "A" = ["1", "2"] := by
    rw [Store.offered, development, files, valuesOf, first, valuesOf, second]
    rfl
  refine ⟨_, ran, offered, ?_⟩
  rw [(earlier_files_win (disagreeing [])).first _ ran, offered]
  rfl

end Store

end HostBridge.Config
