import HostBridge.Proofs.BootSettings
import HostBridge.Proofs.FileOrder
import HostBridge.Proofs.SettingsHistory
import HostBridge.Proofs.Splitting

/-!
# Two ways to write a class path

A class path is written as one text with separators or as a row of entries. Both ways come to the entries that are
not empty, in their order; and so it does not matter whether the row stands in the settings file or the text in the
environment. What comes of a class path can be written down again in the same way.
-/

namespace HostBridge.Config

variable {separator : Char} {platform : Platform} {entries : List String} {v : Value}

/-- The entries of a class path as one text. -/
def joinPath (separator : Char) (entries : List String) : String :=
  (String.singleton separator).intercalate entries

/-- The entries that are not empty. -/
def nonempty (entries : List String) : List String := entries.filter fun entry => !entry.isEmpty

/-- The class path of a configuration that is built from a class path alone. -/
def classpathGiven (platform : Platform) (v : Value) : Except Fault (List String) :=
  (platform.ofFields [("classpath", v)]).map (·.classpath)

/-! ### One text -/

private theorem isEmpty_ofList (cs : List Char) : (String.ofList cs).isEmpty = cs.isEmpty := by
  rw [Bool.eq_iff_iff, String.isEmpty_iff, List.isEmpty_iff, ← String.toList_inj, String.toList_ofList,
    String.toList_empty]

private theorem splitPath_eq (separator : Char) (s : String) :
    splitPath separator s = nonempty ((splitAt separator s.toList).map String.ofList) := by
  rw [splitPath, nonempty, List.filter_map]
  simp only [Function.comp_def, isEmpty_ofList]

/-- A path list that is put together at a separator has the entries of both parts. -/
theorem splitPath_append (separator : Char) (s t : String) :
    splitPath separator (s ++ String.singleton separator ++ t) = splitPath separator s ++ splitPath separator t := by
  rw [splitPath_eq, splitPath_eq, splitPath_eq, nonempty, nonempty, nonempty, ← List.filter_append,
    ← List.map_append, ← splitAt_append_cons]
  simp

/-- Entries without separators come back when they have been joined, unless they are empty. -/
theorem splitPath_joinPath (apart : ∀ entry ∈ entries, separator ∉ entry.toList) :
    splitPath separator (joinPath separator entries) = nonempty entries := by
  by_cases none : entries = []
  · subst none
    rfl
  · have pieces : splitAt separator (joinPath separator entries).toList = entries.map String.toList := by
      rw [joinPath, String.toList_intercalate, String.toList_singleton, ← Text.join_eq_intercalate]
      exact splitAt_join (List.forall_mem_map.mpr apart) (by simpa using none)
    rw [splitPath_eq, pieces, List.map_map]
    simp [Function.comp_def]

/-- No entry of a path list holds a separator. -/
theorem not_mem_of_mem_splitPath {s entry : String} (member : entry ∈ splitPath separator s) :
    separator ∉ entry.toList := by
  rw [splitPath_eq] at member
  obtain ⟨piece, inside, rfl⟩ := List.mem_map.mp (List.mem_filter.mp member).1
  rw [String.toList_ofList]
  exact not_mem_of_mem_splitAt inside

/-! ### A row of entries -/

private theorem mapM_shown_text (entries : List String) : (entries.map Value.text).mapM Value.shown = .ok entries := by
  induction entries with
  | nil => rfl
  | cons entry entries ih =>
    rw [List.map_cons, List.mapM_cons, ih]
    rfl

private theorem isVacant_list (entries : List String) : isVacant (.list (entries.map Value.text)) = .ok false := by
  have short : Value.anyShowsLongInteger (entries.map Value.text) = false := by
    induction entries with
    | nil => rfl
    | cons entry entries ih =>
      simpa [Value.anyShowsLongInteger, Value.showsLongInteger, Primitive.exceedsDigits] using ih
  have bracket (s : String) : ("[" ++ s).isEmpty = false := by
    rw [Bool.eq_false_iff, Ne, String.isEmpty_iff, ← String.toList_inj]
    simp
  have long : (Value.list (entries.map Value.text)).displaysLongInteger = false := short
  simp only [isVacant, Value.shown, long, Value.display, Value.literal, Bool.false_eq_true, if_false, Except.map,
    String.append_assoc, bracket]

/-- A row of texts has those entries that are not empty. -/
theorem classpathOf_list (separator : Char) (entries : List String) :
    classpathOf separator (.list (entries.map Value.text)) = .ok (nonempty entries) := by
  change (((entries.map Value.text).mapM Value.shown).map fun texts => texts.filter fun s => !s.isEmpty) = _
  rw [mapM_shown_text]
  rfl

/-- No class path has an empty entry. -/
theorem nonempty_of_classpathOf {path : List String} (given : classpathOf separator v = .ok path) :
    nonempty path = path := by
  have twice (entries : List String) : nonempty (nonempty entries) = nonempty entries := by
    simp [nonempty]
  unfold classpathOf at given
  split at given
  · cases given
    rfl
  · cases given
    rw [splitPath_eq, twice]
  · split at given
    next items _ =>
      cases texts : items.mapM Value.shown with
      | error fault =>
        rw [texts] at given
        cases given
      | ok entries =>
        rw [texts] at given
        cases given
        exact twice entries
    next => cases given

/-! ### The configuration -/

/-- The entry class and the library path of a configuration, checked. -/
def othersChecked (platform : Platform) (entryClass jvmPath : Value) : Except Fault Unit :=
  match fieldError "entry_class" (platform.checks.accept entryClass) ++
      fieldError "jvm_path" (platform.libraryPath jvmPath) with
  | [] => .ok ()
  | errors => .error (.invalid errors)

private theorem fieldError_eq_nil {α : Type} {field : String} {r : Except FieldProblem α}
    (none : fieldError field r = []) : ∃ a, r = .ok a := by
  cases r with
  | error problem => cases none
  | ok a => exact ⟨a, rfl⟩

private theorem classpath_build {entries : List String} (given : platform.classpathOf v = .ok entries)
    (entryClass jvmPath : Value) : (platform.build entryClass v jvmPath).map (·.classpath) =
      (othersChecked platform entryClass jvmPath).map fun _ => entries := by
  rw [Platform.build, given, othersChecked, Platform.libraryPath]
  cases errors : fieldError "entry_class" (platform.checks.accept entryClass) ++
      fieldError "jvm_path" (optionally platform.checks.accept jvmPath) with
  | nil =>
    obtain ⟨noEntry, noPath⟩ := List.append_eq_nil_iff.mp errors
    obtain ⟨name, named⟩ := fieldError_eq_nil noEntry
    obtain ⟨path?, accepted⟩ := fieldError_eq_nil noPath
    rw [platform.checks.build_of_accepted entries named accepted]
    rfl
  | cons error others =>
    rw [platform.checks.build_of_refused entryClass entries jvmPath (errors ▸ List.cons_ne_nil _ _), errors]
    rfl

/-- A configuration that is built from a class path alone is not refused for any other reason. -/
theorem classpathGiven_eq_ok_iff {path : List String} :
    classpathGiven platform v = .ok path ↔ platform.classpathOf v = .ok path := by
  have others : othersChecked platform (.text defaultEntryClass) .nil = .ok () := by
    simp [othersChecked, platform.checks.accept_text, fieldError, Platform.libraryPath, optionally]
  have built : platform.ofFields [("classpath", v)] = platform.build (.text defaultEntryClass) v .nil := rfl
  rw [classpathGiven, built]
  cases given : platform.classpathOf v with
  | ok entries =>
    rw [classpath_build given, others]
    exact Iff.rfl
  | error fault =>
    obtain ⟨fault', refused⟩ := platform.checks.build_of_fault (.text defaultEntryClass) fault .nil
    rw [Platform.build, given, refused]
    exact ⟨nofun, nofun⟩

/-! ### Two outcomes that a check does not tell apart -/

/-- Two outcomes are the same, or both of them are texts. -/
def Alike (r r' : Except Fault Value) : Prop :=
  r = r' ∨ ∃ s s', r = .ok (.text s) ∧ r' = .ok (.text s')

private theorem othersChecked_congr {e e' j j' : Value} (sameEntry : Alike (.ok e) (.ok e'))
    (samePath : Alike (.ok j) (.ok j')) : othersChecked platform e j = othersChecked platform e' j' := by
  have entry : fieldError "entry_class" (platform.checks.accept e) =
      fieldError "entry_class" (platform.checks.accept e') := by
    rcases sameEntry with same | ⟨s, s', isText, isText'⟩
    · cases same
      rfl
    · cases isText
      cases isText'
      rw [platform.checks.accept_text, platform.checks.accept_text]
      rfl
  have path : fieldError "jvm_path" (platform.libraryPath j) =
      fieldError "jvm_path" (platform.libraryPath j') := by
    rcases samePath with same | ⟨s, s', isText, isText'⟩
    · cases same
      rfl
    · cases isText
      cases isText'
      simp only [Platform.libraryPath, optionally, platform.checks.accept_text]
      rfl
  rw [othersChecked, othersChecked, entry, path]

private theorem Alike.eq_error {r' : Except Fault Value} {fault : Fault} (alike : Alike (.error fault) r') :
    r' = .error fault := by
  rcases alike with same | ⟨s, s', isText, -⟩
  · exact same.symm
  · cases isText

private theorem Alike.exists_ok {r' : Except Fault Value} {v : Value} (alike : Alike (.ok v) r') :
    ∃ v', r' = .ok v' := by
  rcases alike with same | ⟨s, s', -, isText⟩
  · exact ⟨v, same.symm⟩
  · exact ⟨_, isText⟩

private theorem others_congr {e e' j j' : Except Fault Value} (sameEntry : Alike e e') (samePath : Alike j j') :
    (e.bind fun e => j.bind fun j => othersChecked platform e j) =
      e'.bind fun e => j'.bind fun j => othersChecked platform e j := by
  cases e with
  | error fault => rw [sameEntry.eq_error]; rfl
  | ok v =>
  obtain ⟨v', rfl⟩ := sameEntry.exists_ok
  cases j with
  | error fault => rw [samePath.eq_error]; rfl
  | ok w =>
  obtain ⟨w', rfl⟩ := samePath.exists_ok
  exact othersChecked_congr sameEntry samePath

private theorem getValue_alike {found found' : List (Value × Value)} {key : String} {vars vars' : Variables}
    {defaults : List (String × Value)} {default : Value} (same : entry found' key = entry found key)
    (set : (vars'.lookup key).isSome = (vars.lookup key).isSome) :
    Alike (getValue key (.dict found) vars defaults (some default))
      (getValue key (.dict found') vars' defaults (some default)) := by
  simp only [getValue, settingsEntry, same, bind, Except.bind]
  cases isVacant (entry found key) with
  | error fault => exact .inl rfl
  | ok vacant =>
  dsimp only
  generalize (if vacant = true then Value.nil else entry found key) = first
  cases here : vars.lookup key with
  | none =>
    rw [here] at set
    have unset : vars'.lookup key = none := Option.not_isSome_iff_eq_none.mp (by simp [set])
    rw [unset]
    exact .inl rfl
  | some s =>
    rw [here] at set
    obtain ⟨s', here'⟩ := Option.isSome_iff_exists.mp set
    rw [here']
    by_cases absent : first = .nil
    · subst absent
      exact .inr ⟨s, s', rfl, rfl⟩
    · rw [orElse_of_present absent, orElse_of_present absent]
      exact .inl rfl

namespace Store

variable {store store' listed joined read read' : Store} {m m' : Value}

/-! ### Where the class path is found -/

/-- The setting that holds the class path. -/
def classpathKey : String := "CLJBRIDGE_CLASSPATH"

private theorem outcome_value (read : settings.runOn store = (.ok m, store')) (key : String) (default : Value) :
    ((value key default).runOn store).1 =
      getValue key m store'.environment store'.registry.defaults (some default) := by
  rw [value, ExceptT.runOn_bind, read]
  exact congrArg Prod.fst (ExceptT.runOn_ofExcept _ store')

private theorem registry_of_read (read : settings.runOn store = (.ok m, store')) :
    store'.registry = store.registry := by
  obtain ⟨filled, fills, left⟩ := fills_settings store
  rw [read] at left
  exact (congrArg Store.registry left).trans fills.registry

/-- The settings for the other two fields are found and in order. -/
def othersInOrder (store : Store) : Except Fault Unit :=
  (entryClass.runOn store).1.bind fun entry =>
    ((value "CLJBRIDGE_JVM_PATH" .nil).runOn store).1.bind fun jvmPath =>
      othersChecked store.platform entry jvmPath

/-- The class path is the one that is found, if the other fields are in order. -/
theorem outcome_classpath {v : Value} {entries : List String}
    (found : ((value classpathKey .nil).runOn store).1 = .ok v) (given : store.platform.classpathOf v = .ok entries) :
    (classpath.runOn store).1 = store.othersInOrder.map fun _ => entries := by
  have taken : (classpath.runOn store).1 = (bridgeConfig.runOn store).1.map (·.classpath) := by
    rw [classpath, bind_pure_comp, ExceptT.runOn_map]
  rw [classpathKey] at found
  rw [taken, outcome_bridgeConfig, found, othersInOrder]
  cases (entryClass.runOn store).1 with
  | error fault => rfl
  | ok entry =>
  cases ((value "CLJBRIDGE_JVM_PATH" .nil).runOn store).1 with
  | error fault => rfl
  | ok jvmPath => exact classpath_build given entry jvmPath

/-- Entries of a class path stand as a row in the settings of one store, and as one text in the environment of
another one. The two stores differ in nothing else that can be asked for. -/
structure WrittenBothWays (entries : List String) (listed joined : Store) : Prop where
  apart : ∀ entry ∈ entries, listed.platform.pathSeparator ∉ entry.toList
  platform : joined.platform = listed.platform
  registry : joined.registry = listed.registry
  variablesFiles : joined.variablesFiles = listed.variablesFiles
  environment : ∀ name, name ≠ classpathKey →
    joined.environment.lookup name = listed.environment.lookup name
  kept : joined.settings?.isSome = listed.settings?.isSome
  reads : ∃ found found' read read', settings.runOn listed = (.ok (.dict found), read) ∧
    settings.runOn joined = (.ok (.dict found'), read') ∧
    entry found classpathKey = .list (entries.map Value.text) ∧ entry found' classpathKey = .nil ∧
    read'.environment.lookup classpathKey = some (joinPath listed.platform.pathSeparator entries) ∧
    ∀ key, key ≠ classpathKey → entry found' key = entry found key

namespace WrittenBothWays

private theorem sameSet (both : WrittenBothWays entries listed joined) (ran : settings.runOn listed = (.ok m, read))
    (ran' : settings.runOn joined = (.ok m', read')) {name : String} (other : name ≠ classpathKey) :
    (read'.environment.lookup name).isSome = (read.environment.lookup name).isSome := by
  have kept := both.kept
  cases keeps : listed.settings? with
  | some m =>
    rw [keeps] at kept
    obtain ⟨m', keeps'⟩ := Option.isSome_iff_exists.mp kept
    -- Nothing is loaded, so the variables are as they were.
    rw [runOn_settings_of_kept keeps] at ran
    rw [runOn_settings_of_kept keeps'] at ran'
    cases ran
    cases ran'
    rw [both.environment name other]
  | none =>
    rw [keeps] at kept
    have unread' : joined.settings? = none := Option.not_isSome_iff_eq_none.mp (by simp [kept])
    -- A file may refer to the class path, so the texts of other variables may differ, but not which are set.
    have loaded := isSome_lookup_of_loadVariables (of_runOn_settings keeps ran).1 name
    have loaded' := isSome_lookup_of_loadVariables (of_runOn_settings unread' ran').1 name
    have sameName : joined.environmentName = listed.environmentName := by
      rw [environmentName, environmentName, both.environment "ENV" (by decide)]
    simp only [Gives] at loaded loaded'
    rw [both.environment name other, sameName, both.variablesFiles, both.platform] at loaded'
    exact Bool.eq_iff_iff.mpr (loaded'.trans loaded.symm)

private theorem alike (both : WrittenBothWays entries listed joined) {key : String} (other : key ≠ classpathKey) :
    Alike ((value key .nil).runOn listed).1 ((value key .nil).runOn joined).1 := by
  obtain ⟨found, found', read, read', ran, ran', -, -, -, rest⟩ := both.reads
  rw [outcome_value ran, outcome_value ran', registry_of_read ran, registry_of_read ran', both.registry]
  exact getValue_alike (rest key other) (both.sameSet ran ran' other)

private theorem othersInOrder_eq (both : WrittenBothWays entries listed joined) :
    joined.othersInOrder = listed.othersInOrder := by
  have ofEntry : "CLJBRIDGE_ENTRY_CLASS" ≠ classpathKey := by decide
  have ofPath : "CLJBRIDGE_JVM_PATH" ≠ classpathKey := by decide
  rw [othersInOrder, both.platform]
  exact (others_congr (both.alike ofEntry) (both.alike ofPath)).symm

/-- The row is found in the settings. -/
theorem found_listed (both : WrittenBothWays entries listed joined) :
    ((value classpathKey .nil).runOn listed).1 = .ok (.list (entries.map Value.text)) := by
  obtain ⟨found, found', read, read', ran, -, row, -⟩ := both.reads
  have decided : isVacant (entry found classpathKey) = .ok false := by
    rw [row]
    exact isVacant_list entries
  rw [outcome_value ran, getValue_of_present decided (by rw [row]; nofun), row]

/-- The text is found in the environment. -/
theorem found_joined (both : WrittenBothWays entries listed joined) :
    ((value classpathKey .nil).runOn joined).1 =
      .ok (.text (joinPath listed.platform.pathSeparator entries)) := by
  obtain ⟨found, found', read, read', -, ran', -, absent, set, -⟩ := both.reads
  have decided : isVacant (entry found' classpathKey) = .ok true := by rw [absent]; rfl
  rw [outcome_value ran', getValue_of_set decided set]

end WrittenBothWays

end Store

/-- A class path may be written as a row of entries or as one text. Where no entry holds a separator, both come to
the entries that are not empty. A text that is put together at a separator has the entries of both parts. A
class path that was accepted has no empty entry and stands for itself as a row, and if it was a text, none of its
entries holds a separator and it stands for itself as a text. So a row in the settings file and a text in the
environment give the same class path, unless the configuration is refused for another reason, which is the same. -/
theorem classpath_notations_agree (platform : Platform) :
    (∀ entries : List String, (∀ entry ∈ entries, platform.pathSeparator ∉ entry.toList) →
      classpathGiven platform (.list (entries.map Value.text)) = .ok (nonempty entries) ∧
        classpathGiven platform (.text (joinPath platform.pathSeparator entries)) = .ok (nonempty entries)) ∧
    (∀ s t : String, ∃ first second, classpathGiven platform (.text s) = .ok first ∧
      classpathGiven platform (.text t) = .ok second ∧
        classpathGiven platform (.text (s ++ String.singleton platform.pathSeparator ++ t)) =
          .ok (first ++ second)) ∧
    (∀ v path, classpathGiven platform v = .ok path → "" ∉ path ∧
      classpathGiven platform (.list (path.map Value.text)) = .ok path ∧
      ∀ s, v = .text s → (∀ entry ∈ path, platform.pathSeparator ∉ entry.toList) ∧
        classpathGiven platform (.text (joinPath platform.pathSeparator path)) = .ok path) ∧
    ∀ entries listed joined, Store.WrittenBothWays entries listed joined →
      (Store.classpath.runOn listed).1 = listed.othersInOrder.map (fun _ => nonempty entries) ∧
        (Store.classpath.runOn joined).1 = (Store.classpath.runOn listed).1 := by
  have row (entries : List String) :
      classpathGiven platform (.list (entries.map Value.text)) = .ok (nonempty entries) :=
    classpathGiven_eq_ok_iff.mpr (classpathOf_list platform.pathSeparator entries)
  have text (s : String) : classpathGiven platform (.text s) = .ok (splitPath platform.pathSeparator s) :=
    classpathGiven_eq_ok_iff.mpr rfl
  refine ⟨fun entries apart => ⟨row entries, ?_⟩,
    fun s t => ⟨splitPath platform.pathSeparator s, splitPath platform.pathSeparator t, text s, text t, ?_⟩,
    fun v path given => ?_, fun entries listed joined both => ?_⟩
  · rw [text, splitPath_joinPath apart]
  · rw [text, splitPath_append]
  · have same : nonempty path = path := nonempty_of_classpathOf (classpathGiven_eq_ok_iff.mp given)
    refine ⟨fun member => ?_, (row path).trans (congrArg _ same), ?_⟩
    · rw [← same] at member
      simpa using (List.mem_filter.mp member).2
    · rintro s rfl
      rw [text] at given
      cases given
      have apart : ∀ entry ∈ splitPath platform.pathSeparator s, platform.pathSeparator ∉ entry.toList :=
        fun _ => not_mem_of_mem_splitPath
      exact ⟨apart, by rw [text, splitPath_joinPath apart, same]⟩
  · have listed_eq := Store.outcome_classpath both.found_listed (classpathOf_list _ entries)
    have split : joined.platform.classpathOf (.text (joinPath listed.platform.pathSeparator entries)) =
        .ok (nonempty entries) := by
      rw [both.platform]
      exact congrArg Except.ok (splitPath_joinPath both.apart)
    have joined_eq := Store.outcome_classpath both.found_joined split
    exact ⟨listed_eq, by rw [joined_eq, listed_eq, both.othersInOrder_eq]⟩

/-- A class path with an empty entry comes to the same from the settings and from the environment. -/
theorem classpath_notations_agree_gap :
    (Store.classpath.runOn (.ofSettings (.dict [(.text "CLJBRIDGE_CLASSPATH",
      .list [.text "a.jar", .text "", .text "b.jar"])]) [])).1 = .ok ["a.jar", "b.jar"] ∧
    (Store.classpath.runOn (.ofSettings (.dict []) [("CLJBRIDGE_CLASSPATH", "a.jar::b.jar")])).1 =
      .ok ["a.jar", "b.jar"] ∧
    classpathGiven .posix (.text "a.jar::b.jar") = .ok ["a.jar", "b.jar"] ∧
    classpathGiven .posix (.list [.text "a.jar", .text "b.jar"]) = .ok ["a.jar", "b.jar"] := by
  obtain ⟨alone, -, again, stored⟩ := classpath_notations_agree .posix
  have apart : ∀ entry ∈ ["a.jar", "", "b.jar"], Platform.posix.pathSeparator ∉ entry.toList := by decide
  have both : Store.WrittenBothWays ["a.jar", "", "b.jar"]
      (.ofSettings (.dict [(.text "CLJBRIDGE_CLASSPATH", .list [.text "a.jar", .text "", .text "b.jar"])]) [])
      (.ofSettings (.dict []) [("CLJBRIDGE_CLASSPATH", "a.jar::b.jar")]) := {
    apart
    platform := rfl
    registry := rfl
    variablesFiles := rfl
    environment := fun name other => by
      have differ : (name == "CLJBRIDGE_CLASSPATH") = false := beq_eq_false_iff_ne.mpr other
      simp [Store.ofSettings, List.lookup_cons, differ]
    kept := rfl
    reads := ⟨_, _, _, _, rfl, rfl, rfl, rfl, rfl, fun key other => by
      have differ : ("CLJBRIDGE_CLASSPATH" == key) = false := beq_eq_false_iff_ne.mpr (Ne.symm other)
      simp [entry, differ]⟩ }
  obtain ⟨listed, joined⟩ := stored _ _ _ both
  have text := (alone _ apart).2
  exact ⟨listed, joined.trans listed, text, (again _ _ text).2.1⟩

end HostBridge.Config
