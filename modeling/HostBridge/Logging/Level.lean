import HostBridge.Value.Text

/-!
# Log levels

A level is a number, or a truth value that counts as one or zero. Some levels have names.
-/

namespace HostBridge.Logging

/-- A level. -/
inductive Level where
  | number (n : Int)
  | flag (b : Bool)
deriving DecidableEq, Repr

namespace Level

/-- The names of levels. -/
def names : List (String × Int) :=
  [("CRITICAL", 50), ("FATAL", 50), ("ERROR", 40), ("WARN", 30), ("WARNING", 30), ("INFO", 20),
    ("DEBUG", 10), ("NOTSET", 0)]

/-- The number of a level. -/
def toInt : Level → Int
  | .number n => n
  | .flag b => if b then 1 else 0

/-- The level as a value. -/
def toValue : Level → Value
  | .number n => .int n
  | .flag b => .bool b

/-- The level that a value denotes: a number, a truth value or a name. -/
def ofValue (v : Value) : Except Fault Level :=
  match v.plain with
  | .int n => .ok (.number n)
  | .bool b => .ok (.flag b)
  | .text name => match names.lookup name with
    | some n => .ok (.number n)
    | none => .error (.standard .value ("Unknown level: " ++ Text.quote name))
  | _ => .error (.misuse .type s!"Level not an integer or a valid string: {v.typeName}")

/-- The level of warnings. -/
def warning : Level := .number 30

/-- No level of its own. -/
def unset : Level := .number 0

/-- The name that records carry for a level. A level without a name is called by its number, if that can be
shown. -/
def recordName : Level → Except Fault String
  | .number 50 => .ok "CRITICAL"
  | .number 40 => .ok "ERROR"
  | .number 30 => .ok "WARNING"
  | .number 20 => .ok "INFO"
  | .number 10 => .ok "DEBUG"
  | .number 0 => .ok "NOTSET"
  | .number n => (Value.int n).shown.map ("Level " ++ ·)
  | .flag true => .ok "Level True"
  | .flag false => .ok "NOTSET"

end Level

end HostBridge.Logging
