import HostBridge.Config.Setting
import HostBridge.Config.Platform
import HostBridge.Text.Uppercase

/-!
# The configuration store

What a process knows about its configuration: the registered settings, the environment, the files that
may be read, and the settings read last. Settings are read on first use and kept until they are
forgotten; a reading that fails keeps nothing but the variables that it has set.
-/

namespace HostBridge.Config

/-- The configuration of a process. -/
structure Store where
  /-- The registered settings. -/
  registry : Registry
  /-- The settings read last, unless they have been forgotten. -/
  settings? : Option Value
  /-- The environment. -/
  environment : Variables
  /-- The text of the settings file, if there is one. -/
  settingsFile? : Option String
  /-- The files of variables in the working directory, by name. -/
  variablesFiles : List (String × String)
  /-- What files are read with and fields are checked with. -/
  platform : Platform := .posix

/-- A computation that reads and changes the configuration and may fail. -/
abbrev Access := ExceptT Fault (StateM Store)

namespace Store

/-- A store without files whose settings are given. -/
def ofSettings (settings : Value) (environment : Variables) : Store :=
  { registry := Registry.builtin, settings? := some settings, environment
    settingsFile? := none, variablesFiles := [] }

/-- The files of variables for an environment, in the order they are read. -/
def variablesFileNames (environment : String) : List String :=
  [".env", ".env." ++ environment, ".env." ++ environment ++ ".local"]

/-- The name of the environment that the process runs in. -/
def environmentName (store : Store) : String :=
  (store.environment.lookup "ENV").getD "development"

/-- Set the variables of a file, if it is there, except those that are set already. -/
def loadFile (file : String) : Access Unit := do
  let store ← get
  match store.variablesFiles.lookup file with
  | some text =>
    let (result, environment) := store.platform.loader.load text store.environment
    set { store with environment }
    MonadExcept.ofExcept result
  | none => return

/-- Set the variables of all files (`load_dotenv_files`). Earlier files win, and the environment wins over them all. -/
def loadVariables : Access Unit := do
  (variablesFileNames (← get).environmentName).forM loadFile

/-- The settings in the settings file (`load_settings`). A missing file and one without content hold none. -/
def readSettings (store : Store) : Except Fault Value :=
  match store.settingsFile? with
  | none => .ok (.dict [])
  | some text => (store.platform.document text).map fun v => if v.truthy then v else .dict []

/-- Forget the settings read last (`Environment.reset`). -/
def reset (store : Store) : Store := { store with settings? := none }

/-- The settings, read if need be (`get_settings`). -/
def settings : Access Value := do
  match (← get).settings? with
  | some settings => return settings
  | none =>
    loadVariables
    let settings ← MonadExcept.ofExcept (← get).readSettings
    modify fun store => { store with settings? := some settings }
    return settings

/-- The value of a setting; `default` where it has none. -/
def value (key : String) (default : Value) : Access Value := do
  let settings ← settings
  let store ← get
  MonadExcept.ofExcept (getValue key settings store.environment store.registry.defaults (some default))

/-- The log level, in capitals (`get_log_level`). -/
def logLevel : Access String := do
  let level ← value "CLJBRIDGE_LOG_LEVEL" (.text "INFO")
  return Text.upper (← MonadExcept.ofExcept level.shown)

/-- The class that reads source text (`get_entry_class`). -/
def entryClass : Access Value := value "CLJBRIDGE_ENTRY_CLASS" .nil

/-- The configuration of the bridge, checked (`get_bridge_config`). -/
def bridgeConfig : Access BridgeConfig := do
  let entryClass ← entryClass
  let classpath ← value "CLJBRIDGE_CLASSPATH" .nil
  let jvmPath ← value "CLJBRIDGE_JVM_PATH" .nil
  MonadExcept.ofExcept ((← get).platform.build entryClass classpath jvmPath)

/-- The class path for booting a virtual machine (`get_classpath`). The configuration is checked as a whole. -/
def classpath : Access (List String) := return (← bridgeConfig).classpath

end Store

end HostBridge.Config
