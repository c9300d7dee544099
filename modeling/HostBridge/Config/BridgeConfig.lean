import HostBridge.Config.Lookup
import HostBridge.Value.Text

/-!
# The configuration of the bridge

Three fields, checked when the configuration is built. The class path may be written as one text with
separators or as a row of entries; both lose their empty entries.
-/

namespace HostBridge.Config

/-- A checked configuration. -/
structure BridgeConfig where
  /-- The class that reads source text. -/
  entryClass : String
  /-- Class path entries for booting a virtual machine. -/
  classpath : List String
  /-- Library path for booting a virtual machine. -/
  jvmPath : Option String
deriving DecidableEq, Repr

/-- Split a text at a character; there is always at least one piece. -/
def splitAt (separator : Char) : List Char → List (List Char)
  | [] => [[]]
  | c :: rest =>
    if c = separator then [] :: splitAt separator rest
    else match splitAt separator rest with
      | [] => [[c]]
      | piece :: others => (c :: piece) :: others

/-- The entries of a path list, without empty ones. -/
def splitPath (separator : Char) (s : String) : List String :=
  ((splitAt separator s.toList).filter fun piece => !piece.isEmpty).map String.ofList

/-- The class path that a value stands for (`split_classpath`). Entries of a row are shown as texts. -/
def classpathOf (separator : Char) (v : Value) : Except Fault (List String) :=
  match v.plain with
  | .nil => .ok []
  | .text s => .ok (splitPath separator s)
  | _ => match v.items? with
    | some items => (items.mapM Value.shown).map fun texts => texts.filter fun s => !s.isEmpty
    | none => .error v.notIterable

/-- A field that may be absent, by what is accepted where it is present. -/
def optionally (accept : Value → Except FieldProblem String) : Value → Except FieldProblem (Option String)
  | .nil => .ok none
  | v => (accept v).map some

/-- What is wrong with a field, if it is not accepted. -/
def fieldError {α : Type} (field : String) : Except FieldProblem α → List FieldError
  | .error problem => [⟨field, problem⟩]
  | .ok _ => []

/-- What checks the fields of a configuration when it is built. Texts are accepted where a text belongs; of the
class path it is told what splitting it came to. -/
structure FieldChecks where
  /-- The text that a value is accepted as. -/
  accept : Value → Except FieldProblem String
  /-- Build a configuration from its entry class, its class path and its library path. -/
  build (entryClass : Value) (classpath : Except Fault (List String)) (jvmPath : Value) :
    Except Fault BridgeConfig
  /-- Texts are themselves. -/
  accept_text : ∀ s, accept (.text s) = .ok s
  /-- Fields that are all accepted make up the configuration. -/
  build_of_accepted : ∀ {entryClass jvmPath name path?} entries, accept entryClass = .ok name →
    optionally accept jvmPath = .ok path? → build entryClass (.ok entries) jvmPath = .ok ⟨name, entries, path?⟩
  /-- Fields that are not accepted are reported together, whatever the class path is. -/
  build_of_refused : ∀ entryClass entries jvmPath,
    fieldError "entry_class" (accept entryClass) ++ fieldError "jvm_path" (optionally accept jvmPath) ≠ [] →
      build entryClass (.ok entries) jvmPath = .error (.invalid (fieldError "entry_class" (accept entryClass) ++
        fieldError "jvm_path" (optionally accept jvmPath)))
  /-- A class path that cannot be split is refused. -/
  build_of_fault : ∀ entryClass fault jvmPath, ∃ fault', build entryClass (.error fault) jvmPath = .error fault'

namespace FieldChecks

/-- Accept texts, and bytes that spell one. -/
def acceptText (v : Value) : Except FieldProblem String :=
  match v.plain with
  | .text s => .ok s
  | .bytes data => match String.fromUTF8? (ByteArray.mk data.toArray) with
    | some s => .ok s
    | none => .error .notUnicode
  | _ => .error .notText

/-- Build a configuration. A class path without parts is refused before the other fields are looked at; one that
is refused for what it holds is reported with the other fields. -/
def buildReporting (entryClass : Value) (classpath : Except Fault (List String)) (jvmPath : Value) :
    Except Fault BridgeConfig :=
  let entry := acceptText entryClass
  let path := optionally acceptText jvmPath
  match classpath with
  | .error (.standard .value message) => .error (.invalid (fieldError "entry_class" entry ++
      ⟨"classpath", .rejected message⟩ :: fieldError "jvm_path" path))
  | .error fault => .error fault
  | .ok classpath => match entry, path with
    | .ok entryClass, .ok jvmPath => .ok { entryClass, classpath, jvmPath }
    | entry, path => .error (.invalid (fieldError "entry_class" entry ++ fieldError "jvm_path" path))

/-- The checks of the package that the bridge uses. -/
def reporting : FieldChecks where
  accept := acceptText
  build := buildReporting
  accept_text _ := rfl
  build_of_accepted _ entry path := by simp only [buildReporting, entry, path]
  build_of_refused := by
    intro entryClass _ jvmPath refused
    simp only [buildReporting]
    cases entry : acceptText entryClass with
    | error problem => rfl
    | ok name =>
    cases path : optionally acceptText jvmPath with
    | error problem => rfl
    | ok path? =>
      rw [entry, path] at refused
      exact absurd rfl refused
  build_of_fault _ fault _ := by
    unfold buildReporting
    split
    · exact ⟨_, rfl⟩
    · exact ⟨_, rfl⟩
    · next came => cases came

end FieldChecks

/-- The entry class when none is given. -/
def defaultEntryClass : String := "clojure.java.api.Clojure"

end HostBridge.Config
