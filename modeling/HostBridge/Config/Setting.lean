import HostBridge.Value

/-!
# Registered settings

Packages register the settings they read, with a default each. The registry keeps them in order; when a
name is registered more than once, the latest default counts.
-/

namespace HostBridge.Config

/-- A registered setting. -/
structure Setting where
  /-- The package that registers it. -/
  package : String
  /-- The name of the setting, which is also that of its environment variable. -/
  variableName : String
  /-- The group it is listed under. -/
  group : String
  /-- What it is for. -/
  description : String
  /-- Its default, if any. -/
  default : Value
  /-- Its possible values, if they are limited. -/
  choices : Value

/-- The registered settings, in order of registration. -/
abbrev Registry := List Setting

namespace Registry

/-- The settings of the bridge itself. -/
def builtin : Registry :=
  [ { package := "cljbridge", variableName := "CLJBRIDGE_LOG_LEVEL", group := "Logging"
      description := "Log level of the cljbridge logger tree"
      default := .text "INFO"
      choices := .list (["DEBUG", "INFO", "WARNING", "ERROR", "CRITICAL"].map Value.text) },
    { package := "cljbridge", variableName := "CLJBRIDGE_ENTRY_CLASS", group := "Runtime"
      description := "Fully qualified name of the JVM class exposing the static \x60read\x60 " ++
        "entry point of the hosted Clojure runtime."
      default := .text "clojure.java.api.Clojure"
      choices := .nil },
    { package := "cljbridge", variableName := "CLJBRIDGE_CLASSPATH", group := "JVM"
      description := "Classpath (os.pathsep separated) holding Clojure and the namespaces to load. " ++
        "The bridge never starts a JVM itself; the test suite uses this to boot one."
      default := .nil
      choices := .nil },
    { package := "cljbridge", variableName := "CLJBRIDGE_JVM_PATH", group := "JVM"
      description := "Path to libjvm used when the test suite boots a JVM; " ++
        "JPype's default lookup otherwise"
      default := .nil
      choices := .nil } ]

/-- Add a setting after the ones registered before (`register_setting`). -/
def register (registry : Registry) (setting : Setting) : Registry :=
  registry ++ [setting]

/-- The default of a setting: that of its latest registration. -/
def default? (registry : Registry) (name : String) : Option Value :=
  (registry.reverse.find? (·.variableName == name)).map (·.default)

/-- The names of the registered settings, each once, in order of first registration. -/
def names (registry : Registry) : List String :=
  registry.foldl (fun seen s => if seen.contains s.variableName then seen else seen ++ [s.variableName]) []

/-- All defaults, by name (`get_setting_defaults`). -/
def defaults (registry : Registry) : List (String × Value) :=
  registry.names.map fun name => (name, (registry.default? name).getD .nil)

end Registry

end HostBridge.Config
