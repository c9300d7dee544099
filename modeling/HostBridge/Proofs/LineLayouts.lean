import HostBridge.Proofs.OneHandler

/-!
# The layout of lines in force

A configuration lays lines out anew unless the level that it asks for is in force already: then the layout
stays, whatever was asked for. A template and a pattern for dates that are not given are preset, as the
environment had them when the package was loaded. What the environment says later does not count, except that a
template in it keeps lines black and white.
-/

namespace HostBridge.Logging

namespace LineFormat

/-- The template that lines are laid out by: an empty one stands for the message alone. -/
def filled (template : String) : String := if template.isEmpty then messageOnly else template

private theorem eq_of_make {template : String} {datePattern? : Option String} {coloured : Bool} {format : LineFormat}
    (made : make template datePattern? coloured = .ok format) :
    format = ⟨filled template, datePattern?, coloured⟩ := by
  change (if namesField (filled template).toList then _ else _) = Except.ok format at made
  split at made
  · cases made
    rfl
  · cases made

end LineFormat

namespace Console

variable {c c' d d' start : Console} {template? datePattern? : Option String} {format format' : LineFormat}

/-! ### The handler of the tree -/

/-- The handler that configurations change: the first one with a layout. -/
def handler? (c : Console) : Option Handler := c.handlers.find? Handler.isLaidOut

/-- The layout in force. -/
def format? (c : Console) : Option LineFormat := c.handler?.bind Handler.format?

private theorem find?_prepareHandler (level : Level) (handlers : List Handler) :
    (prepareHandler level handlers).2.find? Handler.isLaidOut =
      (handlers.find? Handler.isLaidOut).map fun h => { h with level } := by
  induction handlers with
  | nil => rfl
  | cons h rest ih =>
    cases laidOut : h.isLaidOut with
    | true =>
      have still : Handler.isLaidOut { h with level } = true := laidOut
      rw [prepareHandler_cons_of_laidOut laidOut, List.find?_cons_of_pos still, List.find?_cons_of_pos laidOut]
      rfl
    | false =>
      have bare : ¬ h.isLaidOut = true := by simp [laidOut]
      rw [prepareHandler_cons_of_bare laidOut, List.find?_cons_of_neg bare, List.find?_cons_of_neg bare, ih]

private theorem find?_handlersWith (level : Level) (format : LineFormat) (handlers : List Handler) :
    (handlersWith level format handlers).find? Handler.isLaidOut = some ⟨level, some format⟩ := by
  induction handlers with
  | nil => rfl
  | cons h rest ih =>
    unfold handlersWith at ih ⊢
    cases laidOut : h.isLaidOut with
    | true =>
      rw [prepareHandler_cons_of_laidOut laidOut, List.modify_zero_cons]
      exact List.find?_cons_of_pos rfl
    | false =>
      have bare : ¬ h.isLaidOut = true := by simp [laidOut]
      rw [prepareHandler_cons_of_bare laidOut, List.modify_succ_cons, List.find?_cons_of_neg bare, ih]

/-! ### The layout that is due -/

/-- The template that is due when this one is asked for, or none. -/
inductive IsDue (c : Console) : Option String → String → Prop
  | given (template : String) : IsDue c (some template) template
  | coloured (supported : c.supportsColour = true) (unset : c.hasVariable "CLJBRIDGE_LOG_FORMAT" = false) :
      IsDue c none colourTemplate
  | preset (plain : c.supportsColour = false ∨ c.hasVariable "CLJBRIDGE_LOG_FORMAT" = true) :
      IsDue c none c.preset.template

/-- The format lays lines out as it is due. -/
structure Lays (c : Console) (template? datePattern? : Option String) (format : LineFormat) : Prop where
  template : ∃ due, c.IsDue template? due ∧ format.template = LineFormat.filled due
  datePattern : format.datePattern? = some (datePattern?.getD c.preset.datePattern)
  coloured : format.coloured = c.supportsColour

/-- A layout that is not refused is the one that is due. -/
theorem lays_of_layout (layout : c.layout template? datePattern? = .ok format) :
    c.Lays template? datePattern? format := by
  rw [LineFormat.eq_of_make layout]
  refine ⟨⟨_, ?_, rfl⟩, rfl, rfl⟩
  cases template? with
  | some template => exact .given template
  | none =>
    rw [Option.getD_none, defaultTemplate]
    split
    next coloured =>
      simp only [Bool.and_eq_true, Bool.not_eq_true'] at coloured
      exact .coloured coloured.1 coloured.2
    next plain =>
      refine .preset ?_
      cases supported : c.supportsColour with
      | false => exact .inl rfl
      | true => simpa [supported] using plain

/-- What is due depends on the preset, the terminal and the environment at that moment. -/
theorem Lays.eq (lays : c.Lays template? datePattern? format) (lays' : d.Lays template? datePattern? format')
    (preset : d.preset = c.preset) (terminal : d.terminal? = c.terminal?)
    (environment : d.store.environment = c.store.environment) : format' = format := by
  have looked (name : String) : d.hasVariable name = c.hasVariable name := by
    rw [hasVariable, environment, hasVariable]
  have colours : d.supportsColour = c.supportsColour := by
    rw [supportsColour, terminal, looked, supportsColour]
  obtain ⟨⟨due, isDue, template⟩, datePattern, coloured⟩ := lays
  obtain ⟨⟨due', isDue', template'⟩, datePattern', coloured'⟩ := lays'
  have same : due' = due := by
    cases isDue with
    | given => cases isDue' with | given => rfl
    | coloured supported unset =>
      cases isDue' with
      | coloured => rfl
      | preset plain => simp [colours, looked, supported, unset] at plain
    | preset plain =>
      cases isDue' with
      | coloured supported unset => simp [← colours, ← looked, supported, unset] at plain
      | preset => rw [preset]
  cases format
  cases format'
  simp_all

/-! ### Calls and what they change -/

/-- A call that configures the tree: the state that it is made in, and what it asks for. -/
structure Asking where
  /-- The state that it is made in. -/
  before : Console
  /-- The level. -/
  level : Value
  /-- The template. -/
  template? : Option String
  /-- The pattern for dates. -/
  datePattern? : Option String

namespace Asking

/-- The level that the call gives the tree, if it gives it one: the level asked for can be read, it is not in
force, and it is a level. -/
def admitted? (k : Asking) : Option Level :=
  match ((requestedLevel k.level).runOn k.before).1 with
  | .error _ => none
  | .ok requested =>
    if k.before.isInForce requested then none
    else match Level.ofValue requested with
      | .error _ => none
      | .ok admitted => some admitted

/-- The state once the level asked for has been read, which may have loaded the configuration of the process. -/
def ready (k : Asking) : Console := ((requestedLevel k.level).runOn k.before).2

/-- The layout that the call gives the tree, if it gives it one: it gives it a level, and the layout asked for
is not refused. -/
def laidOut? (k : Asking) : Option LineFormat :=
  match k.admitted?, k.ready.layout k.template? k.datePattern? with
  | some _, .ok format => some format
  | _, _ => none

/-- Reading the level leaves the preset. -/
theorem preset_ready (k : Asking) : k.ready.preset = k.before.preset := by
  obtain ⟨store, read⟩ := runOn_requestedLevel_snd k.level k.before
  rw [ready, read]

/-- The layout that a call gives the tree is the one that is due. -/
theorem lays_of_laidOut {k : Asking} (laidOut : k.laidOut? = some format) :
    k.ready.Lays k.template? k.datePattern? format := by
  rw [laidOut?] at laidOut
  split at laidOut
  next layout =>
    cases laidOut
    exact lays_of_layout layout
  next => cases laidOut

end Asking

/-- The calls lead from one state to another, as far as the tree goes: it has the level and the layout that the
last of them has given it that gave it one, and so has its handler. The preset stays. -/
structure LeadsTo (start : Console) (calls : List Asking) (c : Console) : Prop where
  preset : c.preset = start.preset
  level : c.level = (calls.findSome? Asking.admitted?).getD start.level
  format : c.format? = (calls.findSome? Asking.laidOut?).or start.format?
  handler : ∀ level, calls.findSome? Asking.admitted? = some level → ∀ h, c.handler? = some h → h.level = level
  kept : calls.findSome? Asking.admitted? = none → c.handlers = start.handlers

namespace LeadsTo

variable {earlier later : List Asking}

private theorem outside (c : Console) (store : Config.Store) (terminal? : Option Bool) (written : String) :
    c.LeadsTo [] { c with store, terminal?, written } :=
  ⟨rfl, rfl, rfl, nofun, fun _ => rfl⟩

private theorem trans (first : start.LeadsTo earlier d) (second : d.LeadsTo later c) :
    start.LeadsTo (later ++ earlier) c where
  preset := second.preset.trans first.preset
  level := by
    rw [second.level, first.level, List.findSome?_append]
    cases later.findSome? Asking.admitted? <;> rfl
  format := by rw [second.format, first.format, List.findSome?_append, Option.or_assoc]
  handler level admitted h found := by
    rw [List.findSome?_append] at admitted
    cases last : later.findSome? Asking.admitted? with
    | some level' =>
      rw [last] at admitted
      cases admitted
      exact second.handler level last h found
    | none =>
      -- The later calls left the handlers, so the level is still the one that the earlier ones gave.
      rw [last, Option.none_or] at admitted
      rw [handler?, second.kept last] at found
      exact first.handler level admitted h found
  kept none := by
    rw [List.findSome?_append, Option.or_eq_none_iff] at none
    rw [second.kept none.1, first.kept none.2]

end LeadsTo

private theorem LeadsTo.of_none {k : Asking} (none : k.admitted? = none) (preset : c'.preset = k.before.preset)
    (level : c'.level = k.before.level) (handlers : c'.handlers = k.before.handlers) :
    k.before.LeadsTo [k] c' := by
  have bare : k.laidOut? = .none := by rw [Asking.laidOut?, none]
  constructor <;> simp [none, bare, preset, level, handlers, format?, handler?]

private theorem leadsTo_configure (k : Asking) :
    k.before.LeadsTo [k] ((configure k.level k.template? k.datePattern?).runOn k.before).2 := by
  cases went : (configure k.level k.template? k.datePattern?).runOn k.before with
  | mk result c' =>
  cases ends went with
  | unread unread => exact .of_none (by simp [Asking.admitted?, unread]) rfl rfl rfl
  | inForce read inForce => exact .of_none (by simp [Asking.admitted?, read, inForce]) rfl rfl rfl
  | noLevel read new noLevel => exact .of_none (by simp [Asking.admitted?, read, noLevel]) rfl rfl rfl
  | @noLayout _ _ admitted _ read new admits noLayout =>
    have given : k.admitted? = some admitted := by simp [Asking.admitted?, read, new, admits]
    have bare : k.laidOut? = none := by simp [Asking.laidOut?, Asking.ready, given, read, noLayout]
    -- The level goes through before the layout is refused.
    refine ⟨rfl, by simp [given], ?_, ?_, by simp [given]⟩
    · have kept : ((prepareHandler admitted k.before.handlers).2.find? Handler.isLaidOut).bind Handler.format? =
          k.before.format? := by
        rw [find?_prepareHandler, format?, handler?]
        cases k.before.handlers.find? Handler.isLaidOut <;> rfl
      simpa [bare, format?, handler?] using kept
    · simp [given, handler?, find?_prepareHandler]
  | @laidOut _ _ admitted format read new admits layout =>
    have given : k.admitted? = some admitted := by simp [Asking.admitted?, read, new, admits]
    have laid : k.laidOut? = some format := by simp [Asking.laidOut?, Asking.ready, given, read, layout]
    constructor <;> simp [given, laid, format?, handler?, find?_handlersWith]

/-- A configuration that goes through at a level that is not in force lays lines out as is due then. -/
theorem lays_of_configured {asked answer : Value}
    (through : (configure asked template? datePattern?).runOn c = (.ok answer, c'))
    (new : c.isInForce answer = false) :
    ∃ format, c'.format? = some format ∧ c'.Lays template? datePattern? format := by
  cases ends through with
  | inForce read inForce =>
    rw [new] at inForce
    cases inForce
  | @laidOut _ store admitted format read _ admits layout =>
    refine ⟨format, ?_, ?_⟩
    · simp [format?, handler?, find?_handlersWith]
    · have same : Console.layout { c with
          store
          configured := answer
          level := admitted
          handlers := handlersWith admitted format c.handlers
          propagates := false
          machineLevel := .warning } template? datePattern? = .ok format := layout
      exact lays_of_layout same

/-- The states that a process reaches from one by configuring the tree and obtaining loggers, with the calls
that it has made on the way, the last one first. Some of them may have been refused. Between calls, the
configuration of the process and its terminal may change, and anything may be written. -/
inductive Runs (start : Console) : List Asking → Console → Prop
  | start : Runs start [] start
  | outside {calls : List Asking} {c : Console} (before : Runs start calls c) (store : Config.Store)
      (terminal? : Option Bool) (written : String) : Runs start calls { c with store, terminal?, written }
  | configured {calls : List Asking} {c : Console} (before : Runs start calls c) (asked : Value)
      (template? datePattern? : Option String) :
      Runs start (⟨c, asked, template?, datePattern?⟩ :: calls)
        ((configure asked template? datePattern?).runOn c).2
  | obtained {calls : List Asking} {c : Console} (before : Runs start calls c) (name : String) :
      Runs start (⟨c, .nil, none, none⟩ :: calls) ((logger name).runOn c).2

namespace Runs

variable {calls : List Asking} {store : Config.Store} {terminal? : Option Bool} {loadedIn : Config.Variables}
  {asked answer : Value}

/-- The calls of a run lead to where it ends. -/
theorem leadsTo (runs : Runs start calls c) : start.LeadsTo calls c := by
  induction runs with
  | start => exact .outside start start.store start.terminal? start.written
  | outside _ store terminal? written ih => exact ih.trans (.outside _ store terminal? written)
  | configured _ asked template? datePattern? ih =>
    exact ih.trans (leadsTo_configure ⟨_, asked, template?, datePattern?⟩)
  | obtained _ name ih =>
    rw [runOn_logger_snd]
    exact ih.trans (leadsTo_configure ⟨_, .nil, none, none⟩)

/-- Every call was made in a state that the calls before it have led to. -/
theorem before {later earlier : List Asking} {k : Asking} (runs : Runs start calls c)
    (split : calls = later ++ k :: earlier) : Runs start earlier k.before := by
  induction runs generalizing later with
  | start => simp at split
  | outside _ _ _ _ ih => exact ih split
  | configured before _ _ _ ih | obtained before _ ih =>
    cases later with
    | nil =>
      cases split
      exact before
    | cons _ later => exact ih (List.cons.inj split).2

/-- A configuration leaves the preset of the environment that the package was loaded in. -/
theorem preset_of_configured (runs : Runs (fresh store terminal? loadedIn) calls c)
    {result : Except Fault Value} (went : (configure asked template? datePattern?).runOn c = (result, c')) :
    c'.preset = .ofVariables loadedIn := by
  have leads := (runs.configured asked template? datePattern?).leadsTo.preset
  rw [went] at leads
  exact leads

/-- A configuration that goes through at the level in force leaves the layout that the last call has given that
gave one. -/
theorem format?_of_inForce (runs : Runs (fresh store terminal? loadedIn) calls c)
    (through : (configure asked template? datePattern?).runOn c = (.ok answer, c'))
    (inForce : c.isInForce answer = true) : c'.format? = calls.findSome? Asking.laidOut? := by
  have before : c.format? = calls.findSome? Asking.laidOut? := runs.leadsTo.format.trans Option.or_none
  cases ends through with
  | inForce read _ => exact before
  | laidOut read new admits layout =>
    rw [inForce] at new
    cases new

end Runs

/-- The layout in force is the one that was asked for only if it was asked for together with a level that was
not in force. After a configuration that goes through at the level in force, it is the one that was due when an
earlier call gave it, whatever this one asks for. After one that goes through at another level, it is the one
that is due then: what is not given is preset by the environment that the package was loaded in, whatever the
environment says meanwhile. Earlier calls do not matter to it: in another run of a package loaded in the same
environment, a call that asks for the same layout gets it if terminal and environment are the same. -/
theorem layout_is_given_or_preset {calls : List Asking} {store : Config.Store} {terminal? : Option Bool}
    {loadedIn : Config.Variables} {asked answer : Value} (runs : Runs (fresh store terminal? loadedIn) calls c)
    (through : (configure asked template? datePattern?).runOn c = (.ok answer, c')) :
    c'.preset = .ofVariables loadedIn ∧
    (c.isInForce answer = true → c'.format? = calls.findSome? Asking.laidOut?) ∧
    (∀ k ∈ calls, ∀ format, k.laidOut? = some format →
      k.ready.preset = .ofVariables loadedIn ∧ k.ready.Lays k.template? k.datePattern? format) ∧
    (c.isInForce answer = false →
      ∃ format, c'.format? = some format ∧ c'.Lays template? datePattern? format ∧
        ∀ store' terminal?' calls' d asked' answer' d', Runs (fresh store' terminal?' loadedIn) calls' d →
          (configure asked' template? datePattern?).runOn d = (.ok answer', d') → d.isInForce answer' = false →
          d'.terminal? = c'.terminal? → d'.store.environment = c'.store.environment →
          d'.format? = some format) := by
  have preset := runs.preset_of_configured through
  refine ⟨preset, runs.format?_of_inForce through, fun k member format laidOut => ?_, fun new => ?_⟩
  · obtain ⟨later, earlier, split⟩ := List.append_of_mem member
    exact ⟨k.preset_ready.trans (runs.before split).leadsTo.preset, Asking.lays_of_laidOut laidOut⟩
  · obtain ⟨format, inForce, lays⟩ := lays_of_configured through new
    refine ⟨format, inForce, lays, ?_⟩
    intro store' terminal?' calls' d asked' answer' d' runs' through' new' terminal environment
    obtain ⟨format', inForce', lays'⟩ := lays_of_configured through' new'
    have preset' := runs'.preset_of_configured through'
    rw [inForce', lays.eq lays' (preset'.trans preset.symm) terminal environment]

/-- Details have been asked for. -/
def detailed : Console :=
  { untouched with
    configured := .text "DEBUG", level := .number 10, propagates := false, machineLevel := .warning
    handlers := [⟨.number 10, some ⟨plainTemplate, some datePattern, false⟩⟩] }

/-- Bare messages have been asked for as well. -/
def insisted : Console := ((configure (.text "DEBUG") (some "%(message)s") none).runOn detailed).2

/-- Details are in force, and then the environment gives a template. -/
def instructed : Console :=
  { detailed with store := .ofSettings .nil [("CLJBRIDGE_LOG_FORMAT", "%(levelname)s %(message)s")] }

/-- Another level is asked for while the environment gives a template. -/
def calmed : Console := ((configure (.text "INFO") none none).runOn instructed).2

/-- Bare messages are not laid out, since details were in force already. Nor is the template of the environment
used, since the package was loaded without it. -/
theorem layout_is_given_or_preset_instructed :
    insisted.format? = some ⟨plainTemplate, some datePattern, false⟩ ∧
      calmed.format? = some ⟨plainTemplate, some datePattern, false⟩ := by
  have begun : (configure (.text "DEBUG") none none).runOn untouched = (.ok (.text "DEBUG"), detailed) := rfl
  have first : Runs (fresh (.ofSettings .nil []) none) [⟨untouched, .text "DEBUG", none, none⟩]
      ((configure (.text "DEBUG") none none).runOn untouched).2 := Runs.start.configured (.text "DEBUG") none none
  rw [begun] at first
  constructor
  · have inForce : detailed.isInForce (.text "DEBUG") = true := by
      rw [isInForce, detailed, Value.equal_text]
      decide
    have asked : (requestedLevel (.text "DEBUG")).runOn detailed = (.ok (.text "DEBUG"), detailed) := rfl
    have ignored : (configure (.text "DEBUG") (some "%(message)s") none).runOn detailed =
        (.ok (.text "DEBUG"), detailed) := runOn_configure_of_inForce asked inForce
    have kept : insisted = detailed := by rw [insisted, ignored]
    rw [kept, (layout_is_given_or_preset first ignored).2.1 inForce]
    rfl
  · have later : Runs (fresh (.ofSettings .nil []) none) _ instructed :=
      first.outside instructed.store detailed.terminal? detailed.written
    have new : instructed.isInForce (.text "INFO") = false := by
      rw [isInForce, instructed, detailed, Value.equal_text]
      decide
    have asked : (requestedLevel (.text "INFO")).runOn instructed = (.ok (.text "INFO"), instructed) := rfl
    have layout : instructed.layout none none = .ok ⟨plainTemplate, some datePattern, false⟩ := rfl
    have through := runOn_configure_of_layout asked new rfl layout
    have same : (configure (.text "INFO") none none).runOn instructed = (.ok (.text "INFO"), calmed) := by
      rw [calmed, through]
    obtain ⟨-, -, -, laysOut⟩ := layout_is_given_or_preset later same
    obtain ⟨format, laidOut, lays, -⟩ := laysOut new
    rw [calmed, through] at lays
    rw [laidOut, lays.eq (lays_of_layout layout) rfl rfl rfl]

end Console

end HostBridge.Logging
