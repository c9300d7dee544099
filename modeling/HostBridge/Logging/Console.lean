import HostBridge.Config.Store
import HostBridge.Logging.LineFormat
import HostBridge.Value.Equality

/-!
# Logging to the console

The loggers of the package form a tree of their own, which writes to the console once it is configured.
Records of other loggers, and those of the package before it is configured, are written bare if they are
warnings or worse.

A configuration that asks for the level in force changes nothing. A configuration that is refused may
leave its level behind.
-/

namespace HostBridge.Logging

/-- Where the tree writes. -/
structure Handler where
  /-- The least level that it writes. -/
  level : Level
  /-- How it lays out lines; without a format it writes bare messages. -/
  format? : Option LineFormat
deriving DecidableEq, Repr

/-- The template of lines in black and white. -/
def Console.plainTemplate : String :=
  "%(asctime)s | %(levelname)s | %(name)s | %(threadName)s | %(message)s"

/-- The pattern for dates. -/
def Console.datePattern : String := "%Y-%m-%d %H:%M:%S"

/-- The layout of lines that is used when none is asked for. -/
structure Preset where
  /-- The template, where lines are not in colour. -/
  template : String
  /-- The pattern for dates. -/
  datePattern : String
deriving DecidableEq, Repr

/-- The preset of a package that is loaded in an environment. What the environment says later does not
change it. -/
def Preset.ofVariables (environment : Config.Variables) : Preset :=
  { template := (environment.lookup "CLJBRIDGE_LOG_FORMAT").getD Console.plainTemplate
    datePattern := (environment.lookup "CLJBRIDGE_LOG_DATEFMT").getD Console.datePattern }

/-- The state of logging. -/
structure Console where
  /-- The layout that is used when none is asked for. -/
  preset : Preset
  /-- The level asked for last, and false before that. -/
  configured : Value
  /-- The level of the tree. -/
  level : Level
  /-- Do records of the tree go on to the root of all loggers? -/
  propagates : Bool
  /-- Where the tree writes, in order of creation. -/
  handlers : List Handler
  /-- The level of the logger of the virtual machine bridge. -/
  machineLevel : Level
  /-- Is the console a terminal? It may be impossible to tell. -/
  terminal? : Option Bool
  /-- The configuration of the process. -/
  store : Config.Store
  /-- What has been written. -/
  written : String

/-- A computation that changes the state of logging and may fail. -/
abbrev Configuring := ExceptT Fault (StateM Console)

namespace Console

/-- Nothing is configured yet. The package was loaded in an environment, by default one without variables. -/
def fresh (store : Config.Store) (terminal? : Option Bool) (loadedIn : Config.Variables := []) : Console :=
  { preset := .ofVariables loadedIn, configured := .bool false, level := .unset, propagates := true
    handlers := [], machineLevel := .unset, terminal?, store, written := "" }

/-- The template of lines in colour. -/
def colourTemplate : String :=
  "\x1b[90m%(asctime)s\x1b[0m | %(levelname_color)s | \x1b[36m%(name)s\x1b[0m | %(threadName)s | %(message)s"

/-- Is a variable of the environment set? -/
def hasVariable (c : Console) (name : String) : Bool :=
  (c.store.environment.lookup name).isSome

/-- Colours are used on terminals, unless the environment forbids them (`_supports_color`). -/
def supportsColour (c : Console) : Bool :=
  c.terminal?.getD false && !c.hasVariable "NO_COLOR"

/-- The template to use when none is given. -/
def defaultTemplate (c : Console) (coloured : Bool) : String :=
  if coloured && !c.hasVariable "CLJBRIDGE_LOG_FORMAT" then colourTemplate else c.preset.template

/-- Give the first handler that has a format a new level. If there is none, a handler without a format is
added. Says which handler it was. -/
def prepareHandler (level : Level) : List Handler → Nat × List Handler
  | [] => (0, [{ level, format? := none }])
  | h :: rest =>
    if h.format?.isSome then (0, { h with level } :: rest)
    else
      let (index, rest) := prepareHandler level rest
      (index + 1, h :: rest)

/-- The level that a configuration asks for. -/
def requestedLevel (level : Value) : Configuring Value :=
  match level.plain with
  | .text s => return .text (Text.upper s)
  | .nil => fun c =>
    let (r, store) := Config.Store.logLevel c.store
    (r.map Value.text, { c with store })
  | _ => return level

/-- Is the level the one asked for last? Before anything was asked for, no level is. -/
def isInForce (c : Console) (level : Value) : Bool :=
  c.configured.truthy && c.configured.equal level

/-- The layout of lines that a configuration asks for. -/
def layout (c : Console) (template? datePattern? : Option String) : Except Fault LineFormat :=
  LineFormat.make (template?.getD (c.defaultTemplate c.supportsColour))
    (some (datePattern?.getD c.preset.datePattern)) c.supportsColour

/-- Configure the tree (`configure_logging`). -/
def configure (level : Value) (template? datePattern? : Option String) : Configuring Value := do
  let level ← requestedLevel level
  if (← get).isInForce level then
    return level
  modify fun c => { c with configured := level }
  let admitted ← MonadExcept.ofExcept (Level.ofValue level)
  modify fun c => { c with level := admitted }
  let (index, handlers) := prepareHandler admitted (← get).handlers
  modify fun c => { c with handlers }
  let format ← MonadExcept.ofExcept ((← get).layout template? datePattern?)
  modify fun c =>
    { c with
      handlers := c.handlers.modify index fun h => { h with format? := some format }
      propagates := false
      machineLevel := .warning }
  return level

/-- The name of a logger; the root of all loggers is also found under the empty name. -/
def loggerName (name : String) : String :=
  if name.isEmpty then "root" else name

/-- Obtain a logger, configuring the tree first (`get_logger`). -/
def logger (name : String) : Configuring String := do
  discard <| configure .nil none none
  return loggerName name

/-- Is it a logger of the package? -/
def isInTree (name : String) : Bool :=
  name == "cljbridge" || "cljbridge.".isPrefixOf name

/-- The level that decides about records of a logger. -/
def effectiveLevel (c : Console) (name : String) : Int :=
  let own := if isInTree name then c.level
    else if name == "jpype" || "jpype.".isPrefixOf name then c.machineLevel
    else .unset
  if own.toInt = 0 then Level.warning.toInt else own.toInt

/-- Write a line. -/
def write (c : Console) (line : String) : Console :=
  { c with written := c.written ++ line ++ "\n" }

/-- Write a record through a handler. A record that cannot be laid out is not written. -/
def handle (r : Record) (level : Int) (c : Console) (h : Handler) : Console :=
  if level < h.level.toInt then c
  else match (match h.format? with
      | some format => format.format r
      | none => r.message) with
    | .ok line => c.write line
    | .error _ => c

/-- Log a record of the logger `name`: every handler of the tree gets it; without any handler it is written
bare if it is a warning or worse. -/
def dispatch (c : Console) (r : Record) (name : String) (level : Int) : Console :=
  if isInTree name && !c.handlers.isEmpty then c.handlers.foldl (handle r level) c
  else if Level.warning.toInt ≤ level then handle r level c { level := .warning, format? := none }
  else c

/-- The second at which records are made, and where. -/
structure Clock where
  /-- The time in seconds. -/
  now : Number.Binary64
  /-- Its milliseconds. -/
  milliseconds : Number.Binary64
  /-- The place. -/
  place : Time.Place := .universal

/-- Log a message. Levels that are not positive are never logged. -/
def log (clock : Clock) (thread : ThreadId) (level : Value) (name : String) (template : Value)
    (arguments : List Value) : Configuring Unit :=
  match level.plain with
  | .int _ | .bool _ => do
    let level ← MonadExcept.ofExcept (Level.ofValue level)
    let n := level.toInt
    let name := loggerName name
    if 0 < n && (← get).effectiveLevel name ≤ n then
      let levelName ← MonadExcept.ofExcept level.recordName
      modify fun c => c.dispatch
        { logger := .text name, levelName := .text levelName, level := level.toValue, template
          arguments := Record.argumentsOf arguments, thread := .text thread.label
          created := .float clock.now, milliseconds := .float clock.milliseconds
          others := Record.unknown, place := clock.place } name n
  | _ => throw (.misuse .type "level must be an integer")

end Console

end HostBridge.Logging
