import HostBridge.Text.Template
import HostBridge.Logging.Level
import HostBridge.Time.Pattern

/-!
# Log records

What was logged, where, and when, by named attributes. The message is the text of what was logged, filled
with the arguments; without arguments it is that text as it stands.
-/

namespace HostBridge.Logging

/-- A log record. -/
structure Record where
  /-- The logger. -/
  logger : Value
  /-- The name of the level. -/
  levelName : Value
  /-- The level. -/
  level : Value
  /-- What was logged: the template of the message. -/
  template : Value
  /-- The values for the template: a row, or a mapping that is not empty. -/
  arguments : Value
  /-- The thread. -/
  thread : Value
  /-- The time in seconds. -/
  created : Value
  /-- The milliseconds of the time. -/
  milliseconds : Value
  /-- The other attributes. -/
  others : List (String × Value)
  /-- The text of what was thrown, where something was. -/
  trace? : Option String := none
  /-- Where the time is told. -/
  place : Time.Place := .universal

namespace Record

/-- The attributes of a record of which nothing else is known. -/
def unknown : List (String × Value) :=
  [("pathname", .text ""), ("filename", .text ""), ("module", .text ""), ("exc_info", .nil),
    ("exc_text", .nil), ("stack_info", .nil), ("lineno", .int 0), ("funcName", .nil),
    ("processName", .text "MainProcess")]

/-- A record with these attributes and arguments. -/
def ofAttributes (given : List (String × Value)) (arguments : List Value) : Record :=
  let get (name : String) (default : Value) : Value := (given.lookup name).getD default
  { logger := get "name" .nil, levelName := get "levelname" (.text "Level None")
    level := get "levelno" .nil, template := get "msg" (.text "")
    arguments := .tuple arguments, thread := get "threadName" (.text "MainThread")
    created := get "created" (.int 0), milliseconds := get "msecs" (.int 0)
    others := given ++ unknown }

/-- An attribute that is neither the place nor the content of the message. -/
def other (r : Record) (name : String) : Value := (r.others.lookup name).getD .nil

/-- The arguments that a call passes: a single mapping stands for its entries. -/
def argumentsOf : List Value → Value
  | [.dict (e :: entries)] => .dict (e :: entries)
  | row => .tuple row

/-- The entry of a mapping with texts as keys. -/
def named (entries : List (Value × Value)) (name : String) : Option Value :=
  (entries.find? fun e => match e.1.plain with
    | .text s => s == name
    | _ => false).map (·.2)

/-- The message. A mapping as argument gives values by name. -/
def message (r : Record) : Except Fault String := do
  let template ← r.template.shown
  match r.arguments with
  | .tuple [] => .ok template
  | .tuple row => Text.Template.fill template row
  | .dict entries => Text.Template.fillFrom template (.dict entries) (named entries)
  | v => Text.Template.fill template [v]

end Record

end HostBridge.Logging
