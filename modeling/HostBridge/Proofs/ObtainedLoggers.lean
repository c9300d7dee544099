import HostBridge.Proofs.LineLayouts

/-!
# What obtaining loggers does to a configuration

Obtaining a logger asks for the level that the configuration of the process has then. If that is the level asked
for last, the tree stays as it was configured. If it is another one, it overrules what was configured: level and
layout go with it, the layout being what is due when none is asked for.
-/

namespace HostBridge

private theorem Value.eq_text_of_equal {v w : Value} (equal : v.equal w = true) (s : String) :
    v.plain = .text s ↔ w.plain = .text s := by
  have same (p q : Primitive) (equal : p.equal q = true) : p = .text s ↔ q = .text s := by
    cases p <;> cases q <;> simp_all [Primitive.equal, Primitive.integer?]
  unfold Value.equal at equal
  cases v <;> cases w <;> simp_all [equalAs, plain] <;> exact same _ _ equal

namespace Logging

namespace Console

variable {c₀ c c' start : Console} {s : String} {asked requested : Value} {template? datePattern? : Option String}

/-- The level that the configuration of the process asks for, unless it cannot be read. -/
def advice? (c : Console) : Option String :=
  match (Config.Store.logLevel.runOn c.store).1 with
  | .error _ => none
  | .ok level => some level

private theorem isInForce_text : c.isInForce (.text s) = true ↔ c.configured.plain = .text s ∧ s ≠ "" := by
  rw [isInForce, Bool.and_eq_true]
  constructor
  · rintro ⟨truthy, equal⟩
    have same : c.configured.plain = .text s := (Value.eq_text_of_equal equal s).mpr rfl
    refine ⟨same, ?_⟩
    -- The empty text counts as nothing asked for, even where it was.
    rintro rfl
    rw [Value.truthy, same] at truthy
    cases truthy
  · rintro ⟨same, filled⟩
    refine ⟨by simpa [Value.truthy, same] using filled, ?_⟩
    cases configured : c.configured <;> simp_all [Value.plain, Value.equal, Value.equalAs, Primitive.equal]

private theorem requested_eq_text_iff (read : (requestedLevel asked).runOn c = (.ok requested, c')) (s : String) :
    requested.plain = .text s ↔ requested = .text s := by
  unfold requestedLevel at read
  split at read
  · cases read
    exact Iff.rfl
  · change (requestedLevel .nil).runOn c = _ at read
    rw [runOn_requestedLevel_nil] at read
    cases found : (Config.Store.logLevel.runOn c.store).1 with
    | error fault =>
      rw [found] at read
      cases read
    | ok level =>
      rw [found] at read
      cases read
      exact Iff.rfl
  next other _ =>
    cases read
    exact ⟨fun same => (other s same).elim, fun same => by rw [same, Value.plain_prim]⟩

private theorem configured_eq_text_iff
    (through : (configure asked template? datePattern?).runOn c = (.ok requested, c')) (s : String) :
    c'.configured.plain = .text s ↔ requested = .text s := by
  cases ends through with
  | inForce read inForce =>
    rw [isInForce, Bool.and_eq_true] at inForce
    rw [Value.eq_text_of_equal inForce.2 s, requested_eq_text_iff read]
  | laidOut read new admits layout => exact requested_eq_text_iff read s

/-! ### Calls that ask for nothing -/

private theorem requestedLevel_nil_cases (c : Console) :
    (∃ fault store, c.advice? = none ∧ (requestedLevel .nil).runOn c = (.error fault, { c with store })) ∨
      ∃ s store, c.advice? = some s ∧ (requestedLevel .nil).runOn c = (.ok (.text s), { c with store }) := by
  rw [runOn_requestedLevel_nil, advice?]
  cases (Config.Store.logLevel.runOn c.store).1 with
  | error fault => exact .inl ⟨fault, _, rfl, rfl⟩
  | ok s => exact .inr ⟨s, _, rfl, rfl⟩

private theorem configured_of_nothing {r : Except Fault Value} (went : (configure .nil none none).runOn c = (r, c')) :
    c'.configured.plain = c.advice?.elim c.configured.plain .text := by
  obtain ⟨fault, store, none, unread⟩ | ⟨s, store, some, read⟩ := requestedLevel_nil_cases c
  · rw [runOn_configure_of_unread unread] at went
    cases went
    rw [none]
    rfl
  · rw [some]
    cases ends went with
    | unread unread =>
      rw [read] at unread
      cases unread
    | inForce read' inForce =>
      rw [read] at read'
      cases read'
      exact (isInForce_text.mp inForce).1
    | noLevel read' _ _ | noLayout read' _ _ _ | laidOut read' _ _ _ =>
      rw [read] at read'
      cases read'
      rfl

namespace Asking

/-- The call asks for nothing, as it is made when a logger is obtained. -/
structure IsObtaining (k : Asking) : Prop where
  level : k.level = .nil
  template : k.template? = none
  datePattern : k.datePattern? = none

/-- A call that asks for nothing gives the tree the level of the configuration of the process, unless that was
asked for last. -/
theorem IsObtaining.admitted_iff {k : Asking} (obtaining : k.IsObtaining) (level : Level) :
    k.admitted? = some level ↔ ∃ s, k.before.advice? = some s ∧ Level.ofValue (.text s) = .ok level ∧
      k.before.configured.plain ≠ .text s := by
  rw [admitted?, obtaining.level]
  obtain ⟨fault, store, none, unread⟩ | ⟨s, store, some, read⟩ := requestedLevel_nil_cases k.before
  · simp [none, unread]
  · rw [some, read]
    cases admits : Level.ofValue (.text s) with
    | error fault => simp [admits]
    | ok admitted =>
      have filled : s ≠ "" := by
        rintro rfl
        cases admits
      have inForce : k.before.isInForce (.text s) = true ↔ k.before.configured.plain = .text s := by
        simp [isInForce_text, filled]
      by_cases same : k.before.configured.plain = .text s
      · simp [inForce.mpr same, same]
      · have new := Bool.eq_false_iff.mpr (mt inForce.mp same)
        simp [new, same, admits]

/-- A call that asks for nothing and gives the tree a level gives it the layout that is due then, unless that is
refused. -/
theorem IsObtaining.laidOut_cases {k : Asking} (obtaining : k.IsObtaining) {level : Level}
    (admitted : k.admitted? = some level) :
    (∃ format, k.laidOut? = some format ∧ k.ready.Lays none none format) ∨
      (k.laidOut? = none ∧ ∃ fault, k.ready.layout none none = .error fault) := by
  rw [laidOut?, admitted, obtaining.template, obtaining.datePattern]
  cases layout : k.ready.layout none none with
  | error fault => exact .inr ⟨rfl, fault, rfl⟩
  | ok format => exact .inl ⟨format, rfl, lays_of_layout layout⟩

end Asking

/-- The level that was asked for last, when one was configured and calls that ask for nothing have followed. -/
def lastAsked (requested : Value) (calls : List Asking) : Value :=
  (calls.findSome? fun k => k.before.advice?).elim requested .text

private theorem lastAsked_cons (requested : Value) (k : Asking) (calls : List Asking) :
    lastAsked requested (k :: calls) = k.before.advice?.elim (lastAsked requested calls) .text := by
  unfold lastAsked
  cases advice : k.before.advice? <;> simp [advice]

/-- If all of them ask for the level that was configured, it is that one. -/
theorem lastAsked_eq_self {calls : List Asking}
    (agrees : ∀ k ∈ calls, ∀ s, k.before.advice? = some s → requested = .text s) :
    lastAsked requested calls = requested := by
  induction calls with
  | nil => rfl
  | cons k calls ih =>
    obtain ⟨here, rest⟩ := List.forall_mem_cons.mp agrees
    rw [lastAsked_cons]
    cases advice : k.before.advice? with
    | none => exact ih rest
    | some s => exact (here s advice).symm

namespace Runs

variable {calls : List Asking}

private theorem remembers (through : (configure asked template? datePattern?).runOn c₀ = (.ok requested, start))
    (runs : Runs start calls c) (obtaining : ∀ k ∈ calls, k.IsObtaining) (s : String) :
    c.configured.plain = .text s ↔ lastAsked requested calls = .text s := by
  have step {calls : List Asking} {c c' : Console} {r : Except Fault Value}
      (went : (configure .nil none none).runOn c = (r, c'))
      (ih : c.configured.plain = .text s ↔ lastAsked requested calls = .text s) :
      c'.configured.plain = .text s ↔ lastAsked requested (⟨c, .nil, none, none⟩ :: calls) = .text s := by
    -- A call whose level cannot be read is not remembered, and does not count.
    rw [configured_of_nothing went, lastAsked_cons]
    dsimp only
    cases c.advice? with
    | none => exact ih
    | some s' => exact Iff.rfl
  induction runs with
  | start => exact configured_eq_text_iff through s
  | outside _ _ _ _ ih => exact ih obtaining
  | configured _ asked template? datePattern? ih =>
    obtain ⟨⟨rfl, rfl, rfl⟩, rest⟩ := List.forall_mem_cons.mp obtaining
    exact step (Prod.eta _).symm (ih rest)
  | obtained _ name ih =>
    rw [runOn_logger_snd]
    exact step (Prod.eta _).symm (ih fun k member => obtaining k (List.mem_cons_of_mem _ member))

/-- A call gives the tree a level if it asks for one that was not asked for last. -/
theorem admitted_iff (through : (configure asked template? datePattern?).runOn c₀ = (.ok requested, start))
    (runs : Runs start calls c) (obtaining : ∀ k ∈ calls, k.IsObtaining) {later earlier : List Asking}
    {k : Asking} (split : calls = later ++ k :: earlier) (level : Level) :
    k.admitted? = some level ↔ ∃ s, k.before.advice? = some s ∧ Level.ofValue (.text s) = .ok level ∧
      lastAsked requested earlier ≠ .text s := by
  subst split
  obtain ⟨-, here, before⟩ : (∀ k ∈ later, k.IsObtaining) ∧ k.IsObtaining ∧ ∀ k ∈ earlier, k.IsObtaining := by
    simpa only [List.forall_mem_append, List.forall_mem_cons] using obtaining
  rw [here.admitted_iff]
  simp only [ne_eq, remembers through (runs.before rfl) before]

end Runs

/-- A configuration stands until a logger is obtained while the configuration of the process asks for another
level. However many loggers are obtained, and whatever changes meanwhile, the tree has the level and the layout
that the last call to overrule it has given, or those that were configured. A call overrules them just if the
level that it finds is a level and not the one asked for last; then the layout goes, too, if the one that is due
without one being asked for is not refused. So what was configured stays as long as the configuration of the
process asks for that very level. -/
theorem obtaining_overrules_configuration {calls : List Asking}
    (through : (configure asked template? datePattern?).runOn c₀ = (.ok requested, start))
    (runs : Runs start calls c) (obtaining : ∀ k ∈ calls, k.IsObtaining) :
    start.LeadsTo calls c ∧
    (∀ later k earlier, calls = later ++ k :: earlier → ∀ level,
      k.admitted? = some level ↔ ∃ s, k.before.advice? = some s ∧ Level.ofValue (.text s) = .ok level ∧
        lastAsked requested earlier ≠ .text s) ∧
    (∀ k ∈ calls, ∀ level, k.admitted? = some level →
      (∃ format, k.laidOut? = some format ∧ k.ready.Lays none none format) ∨
        (k.laidOut? = none ∧ ∃ fault, k.ready.layout none none = .error fault)) ∧
    ((∀ k ∈ calls, ∀ s, k.before.advice? = some s → requested = .text s) →
      c.level = start.level ∧ c.handlers = start.handlers) := by
  refine ⟨runs.leadsTo, fun later k earlier split => runs.admitted_iff through obtaining split,
    fun k member level => (obtaining k member).laidOut_cases, fun agrees => ?_⟩
  have none : calls.findSome? Asking.admitted? = none := by
    rw [List.findSome?_eq_none_iff]
    intro k member
    rw [Option.eq_none_iff_forall_ne_some]
    intro level admitted
    obtain ⟨later, earlier, split⟩ := List.append_of_mem member
    obtain ⟨s, advice, -, new⟩ := (runs.admitted_iff through obtaining split level).mp admitted
    apply new
    rw [← agrees k member s advice]
    apply lastAsked_eq_self
    intro k' among
    apply agrees
    rw [split]
    exact List.mem_append_right later (List.mem_cons_of_mem k among)
  exact ⟨by rw [runs.leadsTo.level, none, Option.getD_none], runs.leadsTo.kept none⟩

/-- Nothing is configured, and the configuration of the process says nothing. -/
def unadvised : Console := fresh (.ofSettings (.dict []) []) none

/-- Details have been asked for, as bare messages. -/
def terse : Console := ((configure (.text "DEBUG") (some "%(message)s") (some "%H")).runOn unadvised).2

/-- A logger is obtained after details were asked for. -/
def overruled : Console := ((logger "cljbridge.demo").runOn terse).2

/-- The logger is obtained at the usual level, and bare messages are no longer laid out. -/
theorem obtaining_overrules_configuration_terse :
    (terse.level = .number 10 ∧ terse.format? = some ⟨"%(message)s", some "%H", false⟩) ∧
      overruled.level = .number 20 ∧ overruled.format? = some ⟨plainTemplate, some datePattern, false⟩ := by
  have through : (configure (.text "DEBUG") (some "%(message)s") (some "%H")).runOn unadvised =
      (.ok (.text "DEBUG"), terse) := rfl
  have runs : Runs terse [⟨terse, .nil, none, none⟩] overruled := Runs.start.obtained "cljbridge.demo"
  have obtaining : ∀ k ∈ [(⟨terse, .nil, none, none⟩ : Asking)], k.IsObtaining :=
    List.forall_mem_singleton.mpr ⟨rfl, rfl, rfl⟩
  obtain ⟨leads, overrules, layouts, -⟩ := obtaining_overrules_configuration through runs obtaining
  have advice : terse.advice? = some "INFO" := rfl
  have admitted : Asking.admitted? ⟨terse, .nil, none, none⟩ = some (.number 20) :=
    (overrules [] _ [] rfl _).mpr ⟨"INFO", advice, rfl, by simp [lastAsked]⟩
  refine ⟨⟨rfl, rfl⟩, by simp [leads.level, admitted], ?_⟩
  have plain : terse.supportsColour = false := rfl
  have preset : terse.preset = .ofVariables [] := rfl
  have ready : Asking.ready ⟨terse, .nil, none, none⟩ = terse := rfl
  have layout : terse.layout none none = .ok ⟨plainTemplate, some datePattern, false⟩ := by
    rw [Console.layout, plain, Option.getD_none, Option.getD_none, defaultTemplate, Bool.false_and, preset]
    rfl
  rcases layouts _ List.mem_cons_self _ admitted with ⟨format, laidOut, lays⟩ | ⟨-, fault, refused⟩
  · rw [ready] at lays
    simp [leads.format, laidOut, lays.eq (lays_of_layout layout) rfl rfl rfl]
  · rw [ready, layout] at refused
    cases refused

end Console

end Logging

end HostBridge
