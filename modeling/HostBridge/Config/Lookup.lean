import HostBridge.Value.Text

/-!
# Looking up a configuration value

A value comes from the first place that has one: the settings mapping, the process environment, the
registered defaults, the caller's default. In the settings an empty text counts as absent; in the
environment it counts as a value.
-/

namespace HostBridge.Config

/-- The environment variables of a process, each name once. -/
abbrev Variables := List (String × String)

/-- The value under a key of a mapping; the absent value if there is none. -/
def entry (entries : List (Value × Value)) (key : String) : Value :=
  match entries.find? fun e => match e.1.plain with
      | .text s => s == key
      | _ => false with
  | some e => e.2
  | none => .nil

/-- The value under a key of the settings. Settings that are no mapping have no entries to ask for. -/
def settingsEntry (settings : Value) (key : String) : Except Fault Value :=
  match settings with
  | .dict entries => .ok (entry entries key)
  | other => .error (other.lacks "get")

/-- An absent value or one that shows as the empty text. -/
def isVacant (v : Value) : Except Fault Bool :=
  match v with
  | .nil => .ok true
  | v => v.shown.map (·.isEmpty)

/-- The first of two values that is present. -/
def orElse (v : Value) (other : Option Value) : Option Value :=
  match v with
  | .nil => other
  | v => some v

/-- The text of the fault for a setting that is nowhere to be found. -/
def missingMessage (key : String) : String :=
  "Missing required setting: " ++ key

/-- Look a value up (`get_value`). Without a default of the caller's a value has to be found. -/
def getValue (key : String) (settings : Value) (vars : Variables) (defaults : List (String × Value))
    (default? : Option Value) : Except Fault Value := do
  let fromSettings ← settingsEntry settings key
  let found := if ← isVacant fromSettings then .nil else fromSettings
  let fromVariables := ((vars.lookup key).map Value.text).getD .nil
  let registered := (defaults.lookup key).getD .nil
  match orElse found (orElse fromVariables (orElse registered default?)) with
  | some v => .ok v
  | none => .error (.standard .key (missingMessage key))

end HostBridge.Config
