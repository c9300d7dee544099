import HostBridge.Proofs.SettingsHistory

/-!
# Reloading the configuration

Forgetting the settings and asking again reads the files again. That changes nothing any more once the files
have been read, unless reading them has changed which files are chosen: a file can set the name of the
environment, but only where there was none, so a second reading is always the last one that can change anything.
-/

namespace HostBridge.Config

namespace Store

variable {store store₁ store₂ : Store} {m : Value}

/-- Forget the settings and ask again, several times. -/
def reloading (store : Store) (queries : List Query) : Store :=
  queries.foldl (fun store q => (q.run.runOn store.reset).2) store

/-- Forgetting the settings and asking again leaves the store as it is, however often that is done, and comes to
the same answers. -/
def IsSteady (store : Store) : Prop :=
  ∀ queries : List Query, store.reloading queries = store ∧
    ∀ q : Query, q.run.runOn (store.reloading queries).reset = q.run.runOn store

/-- Reading the settings again comes to the same. -/
def Rereads (store : Store) : Prop :=
  ∃ m, settings.runOn store.reset = (.ok m, store)

private theorem Rereads.isSteady (rereads : store.Rereads) : store.IsSteady := by
  obtain ⟨m, read⟩ := rereads
  intro queries
  have same : store.reloading queries = store := by
    induction queries with
    | nil => rfl
    | cons q queries ih =>
      have once : (q.run.runOn store.reset).2 = store := by rw [q.readsFirst.store_eq, read]
      rw [reloading, List.foldl_cons, once]
      exact ih
  refine ⟨same, fun q => ?_⟩
  rw [same]
  exact q.readsFirst.again _ m _ read

/-- Whoever is given an answer has read the settings. -/
theorem settings_of_run {q : Query} {a : q.Answer} (answered : q.run.runOn store = (.ok a, store₁)) :
    ∃ m, settings.runOn store = (.ok m, store₁) := by
  have same := q.readsFirst.store_eq store
  rw [answered] at same
  cases read : settings.runOn store with
  | mk result store' =>
  cases result with
  | error fault =>
    rw [q.readsFirst.fails _ _ _ read] at answered
    cases answered
  | ok m =>
    rw [read] at same
    cases same
    exact ⟨m, rfl⟩

/-- Once the settings have been read, reading them again comes to the same if the same files are chosen. -/
theorem rereads_of_sameName (unread : store.settings? = none)
    (read : settings.runOn store = (.ok m, store₁)) (sameName : store₁.environmentName = store.environmentName) :
    store₁.Rereads := by
  obtain ⟨loaded, file, kept⟩ := of_runOn_settings unread read
  have fills := fills_loadVariables store
  rw [loaded] at fills
  have again : loadVariables.runOn store₁.reset = (.ok (), store₁.reset) := loadVariables_again loaded sameName
  have sameFile : store₁.reset.readSettings = .ok m := fills.readSettings_eq.trans file
  refine ⟨m, ?_⟩
  rw [runOn_settings_of_unread rfl, again]
  simp only [sameFile]
  rw [reset, ← kept]

/-- A second reading does not change which files are chosen. -/
theorem environmentName_of_second {m₂ : Value} (unread : store.settings? = none)
    (first : settings.runOn store = (.ok m, store₁)) (second : settings.runOn store₁.reset = (.ok m₂, store₂)) :
    store₂.environmentName = store₁.environmentName := by
  have fills₁ := fills_loadVariables store
  rw [(of_runOn_settings unread first).1] at fills₁
  have fills₂ := fills_loadVariables store₁.reset
  rw [(of_runOn_settings rfl second).1] at fills₂
  cases set : store₁.environment.lookup "ENV" with
  | some name => exact fills₂.environmentName_eq set
  | none =>
    -- The first reading has set no name, so the second one is already the same again.
    have unset : store.environment.lookup "ENV" = none := by
      cases before : store.environment.lookup "ENV" with
      | none => rfl
      | some name => cases set.symm.trans (fills₁.kept "ENV" name before)
    have sameName : store₁.environmentName = store.environmentName := by
      rw [environmentName, environmentName, set, unset]
    obtain ⟨m', again⟩ := rereads_of_sameName unread first sameName
    rw [again] at second
    cases second
    rfl

end Store

/-- Where nothing is kept and something is asked, with success, the files are read. If that does not change the
name of the environment, which says what files are chosen, then forgetting the settings and asking again
changes neither the environment nor any answer, however often it is done. In any case that holds once the
settings have been forgotten and asked for again with success. -/
theorem reloading_is_idempotent {store store₁ : Store} (unread : store.settings? = none) {first : Query}
    {a : first.Answer} (asked : first.run.runOn store = (.ok a, store₁)) :
    (store₁.environmentName = store.environmentName →
      store₁.IsSteady ∧ first.run.runOn store₁ = (.ok a, store₁)) ∧
    ∀ (second : Query) (b : second.Answer) (store₂ : Store),
      second.run.runOn store₁.reset = (.ok b, store₂) →
        store₂.IsSteady ∧ second.run.runOn store₂ = (.ok b, store₂) := by
  obtain ⟨m, read⟩ := Store.settings_of_run asked
  constructor
  · intro sameName
    exact ⟨(Store.rereads_of_sameName unread read sameName).isSteady, first.readsFirst.asked_again asked⟩
  · intro second b store₂ asked'
    obtain ⟨m₂, read'⟩ := Store.settings_of_run asked'
    have sameName : store₂.environmentName = store₁.environmentName :=
      Store.environmentName_of_second unread read read'
    exact ⟨(Store.rereads_of_sameName rfl read' sameName).isSteady, second.readsFirst.asked_again asked'⟩

/-! ### A file that names the environment -/

/-- A store with two files of variables, the first of which names the environment that the second one is for. -/
def staged (environment : Variables) (settings? : Option Value) : Store :=
  { registry := Registry.builtin, settings?, environment, settingsFile? := none
    variablesFiles := [(".env", "ENV=production\n"), (".env.production", "X=1\n")] }

/-- The first reading sets the name of the environment only. -/
theorem settings_staged : Store.settings.runOn (staged [] none) =
    (.ok (.dict []), staged [("ENV", "production")] (some (.dict []))) := by
  have named : (Store.loadFile ".env").runOn (staged [] none) =
      (.ok (), staged [("ENV", "production")] none) := by
    have resolved : VariablesFile.resolve (staged [] none).environment (VariablesFile.parse "ENV=production\n") =
        [("ENV", some "production")] := rfl
    have allowed : bindingFault? "ENV" "production" = none := by simp [bindingFault?]
    rw [Store.runOn_loadFile_posix rfl rfl resolved, VariablesFile.applyBindings_cons_of_gap rfl, allowed]
    rfl
  have loaded : Store.loadVariables.runOn (staged [] none) =
      (.ok (), staged [("ENV", "production")] none) := by
    have development : (staged [] none).environmentName = "development" := rfl
    have files : Store.variablesFileNames "development" =
        [".env", ".env.development", ".env.development.local"] := by decide
    rw [Store.runOn_loadVariables, development, files, ExceptT.runOn_forM_cons, named]
    rfl
  rw [Store.runOn_settings_of_unread rfl, loaded]
  rfl

/-- The second one sets the variable of the second file. -/
theorem settings_staged_again : Store.settings.runOn (staged [("ENV", "production")] none) =
    (.ok (.dict []), staged [("ENV", "production"), ("X", "1")] (some (.dict []))) := by
  have passed : (Store.loadFile ".env").runOn (staged [("ENV", "production")] none) =
      (.ok (), staged [("ENV", "production")] none) := by
    have resolved : VariablesFile.resolve (staged [("ENV", "production")] none).environment
        (VariablesFile.parse "ENV=production\n") = [("ENV", some "production")] := rfl
    rw [Store.runOn_loadFile_posix rfl rfl resolved, VariablesFile.applyBindings_cons_of_set fun _ => rfl]
    rfl
  have set : (Store.loadFile ".env.production").runOn (staged [("ENV", "production")] none) =
      (.ok (), staged [("ENV", "production"), ("X", "1")] none) := by
    have resolved : VariablesFile.resolve (staged [("ENV", "production")] none).environment
        (VariablesFile.parse "X=1\n") = [("X", some "1")] := rfl
    have allowed : bindingFault? "X" "1" = none := by simp [bindingFault?]
    rw [Store.runOn_loadFile_posix rfl rfl resolved, VariablesFile.applyBindings_cons_of_gap rfl, allowed]
    rfl
  have loaded : Store.loadVariables.runOn (staged [("ENV", "production")] none) =
      (.ok (), staged [("ENV", "production"), ("X", "1")] none) := by
    have production : (staged [("ENV", "production")] none).environmentName = "production" := rfl
    have files : Store.variablesFileNames "production" =
        [".env", ".env.production", ".env.production.local"] := by decide
    rw [Store.runOn_loadVariables, production, files, ExceptT.runOn_forM_cons, passed]
    dsimp only
    rw [ExceptT.runOn_forM_cons, set]
    rfl
  rw [Store.runOn_settings_of_unread rfl, loaded]
  rfl

/-- After the second reading nothing changes any more. -/
theorem reloading_is_idempotent_staged :
    Store.IsSteady (staged [("ENV", "production"), ("X", "1")] (some (.dict []))) := by
  have unread : (staged [] none).settings? = none := rfl
  have asked : (Query.run .settings).runOn (staged [] none) =
      (.ok (.dict []), staged [("ENV", "production")] (some (.dict []))) := settings_staged
  exact ((reloading_is_idempotent unread asked).2 .settings _ _ settings_staged_again).1

/-- The second reading changes an answer: the value of the variable is found only after the settings have been
forgotten. -/
theorem reloading_changes_staged :
    ∃ store₁ store₂ : Store, (Store.value "X" .nil).runOn (staged [] none) = (.ok .nil, store₁) ∧
      (Store.value "X" .nil).runOn store₁.reset = (.ok (.text "1"), store₂) := by
  refine ⟨staged [("ENV", "production")] (some (.dict [])),
    staged [("ENV", "production"), ("X", "1")] (some (.dict [])), ?_, ?_⟩
  · rw [Store.value, ExceptT.runOn_bind, settings_staged]
    rfl
  · have forgotten : (staged [("ENV", "production")] (some (.dict []))).reset =
        staged [("ENV", "production")] none := rfl
    rw [forgotten, Store.value, ExceptT.runOn_bind, settings_staged_again]
    rfl

end HostBridge.Config
