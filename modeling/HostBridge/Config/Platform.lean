import HostBridge.Config.BridgeConfig
import HostBridge.Config.Document.Content
import HostBridge.Config.VariablesFile

/-!
# What the configuration is built on

How path lists are written, how files are read and how fields are checked is not up to the configuration: it
takes that from its platform, and relies only on what the platform is known to keep to. One such platform is
given here. Its settings files hold one document each: reading one gives the value of the document, an empty
file gives the absent value, and a file that is not made of readable characters is malformed.
-/

namespace HostBridge.Config

/-- What the configuration takes from elsewhere. -/
structure Platform where
  /-- The character between the entries of a path list. -/
  pathSeparator : Char
  /-- The value that a settings file holds. -/
  document : String → Except Fault Value
  /-- How files of variables are loaded. -/
  loader : Loader
  /-- How fields are checked. -/
  checks : FieldChecks

namespace Platform

variable (platform : Platform)

/-- The class path that a value stands for. -/
def classpathOf (v : Value) : Except Fault (List String) := Config.classpathOf platform.pathSeparator v

/-- A library path, which may be absent. -/
def libraryPath (v : Value) : Except FieldProblem (Option String) := optionally platform.checks.accept v

/-- Build a configuration (`BridgeConfig`). -/
def build (entryClass classpath jvmPath : Value) : Except Fault BridgeConfig :=
  platform.checks.build entryClass (platform.classpathOf classpath) jvmPath

/-- Build a configuration from named fields; fields that are not given have defaults, unknown ones are
passed over. -/
def ofFields (fields : List (String × Value)) : Except Fault BridgeConfig :=
  platform.build ((fields.lookup "entry_class").getD (.text defaultEntryClass))
    ((fields.lookup "classpath").getD .nil) ((fields.lookup "jvm_path").getD .nil)

end Platform

namespace SettingsFile

/-- Every way to end a line counts as a line feed. -/
def unifyNewlines : List Char → List Char
  | '\r' :: '\n' :: rest => '\n' :: unifyNewlines rest
  | '\r' :: rest => '\n' :: unifyNewlines rest
  | c :: rest => c :: unifyNewlines rest
  | [] => []

/-- May the character occur in a settings file? -/
def isAllowed (c : Char) : Bool :=
  ['\t', '\n', '\r', '\x85'].contains c || (' ' ≤ c && c ≤ '~') ||
    ('\u00a0' ≤ c && c != '\ufffe' && c != '\uffff')

/-- Read a settings file. -/
def parse (text : String) : Except Fault Value := do
  let cs := unifyNewlines text.toList
  if !cs.all isAllowed then throw .malformed
  match ← Document.Node.ofText cs with
  | some node => node.value cs.length
  | none => return .nil

end SettingsFile

/-- A platform with colons in path lists. -/
def Platform.posix : Platform where
  pathSeparator := ':'
  document := SettingsFile.parse
  loader := VariablesFile.loader
  checks := .reporting

end HostBridge.Config
