import HostBridge.Proofs.Configuring

/-!
# What refused configurations leave behind

A configuration that is refused leaves the tree as it was only if nothing was written before the refusal,
or only what was there already. What it has left shows later: repeated, the call may be taken for one that
is in force, and a handler that never got its layout stays beside the one that does the work.
-/

namespace HostBridge.Logging

/-- Has a handler got a layout? -/
def Handler.isLaidOut (h : Handler) : Bool := h.format?.isSome

namespace Console

/-! ### The handler that is prepared -/

variable {level : Level} {h : Handler} {rest : List Handler}

/-- A handler with a layout is the one that is prepared. -/
theorem prepareHandler_cons_of_laidOut (laidOut : h.isLaidOut = true) :
    prepareHandler level (h :: rest) = (0, { h with level } :: rest) := by
  rw [Handler.isLaidOut] at laidOut
  simp only [prepareHandler, laidOut, if_true]

/-- A handler without one is passed over. -/
theorem prepareHandler_cons_of_bare (bare : h.isLaidOut = false) :
    prepareHandler level (h :: rest) =
      ((prepareHandler level rest).1 + 1, h :: (prepareHandler level rest).2) := by
  rw [Handler.isLaidOut] at bare
  simp only [prepareHandler, bare, Bool.false_eq_true, if_false]

private theorem prepareHandler_snd_eq_self_iff (level : Level) (handlers : List Handler) :
    (prepareHandler level handlers).2 = handlers ↔
      ∃ h, handlers.find? Handler.isLaidOut = some h ∧ h.level = level := by
  induction handlers with
  | nil => simp [prepareHandler]
  | cons h rest ih =>
    cases laidOut : h.isLaidOut with
    | true =>
      rw [prepareHandler_cons_of_laidOut laidOut, List.find?_cons_of_pos laidOut]
      constructor
      · intro same
        refine ⟨h, rfl, ?_⟩
        rw [← (List.cons.inj same).1]
      · rintro ⟨h', found, rfl⟩
        cases found
        rfl
    | false =>
      rw [prepareHandler_cons_of_bare laidOut, List.find?_cons_of_neg (by rw [laidOut]; decide), ← ih]
      exact ⟨fun same => (List.cons.inj same).2, fun same => congrArg (h :: ·) same⟩

/-! ### Handlers with and without a layout -/

/-- How many handlers have no layout. -/
def bareCount (handlers : List Handler) : Nat := handlers.countP fun h => !h.isLaidOut

/-- How many handlers have one. -/
def laidOutCount (handlers : List Handler) : Nat := handlers.countP Handler.isLaidOut

private theorem counts_cons_of_laidOut (laidOut : h.isLaidOut = true) (rest : List Handler) :
    bareCount (h :: rest) = bareCount rest ∧ laidOutCount (h :: rest) = laidOutCount rest + 1 := by
  constructor
  · exact List.countP_cons_of_neg (by rw [laidOut]; decide)
  · exact List.countP_cons_of_pos laidOut

private theorem counts_cons_of_bare (bare : h.isLaidOut = false) (rest : List Handler) :
    bareCount (h :: rest) = bareCount rest + 1 ∧ laidOutCount (h :: rest) = laidOutCount rest := by
  constructor
  · exact List.countP_cons_of_pos (by rw [bare]; rfl)
  · exact List.countP_cons_of_neg (by rw [bare]; decide)

/-- A handler either has a layout or not. -/
theorem length_eq_counts (handlers : List Handler) :
    handlers.length = bareCount handlers + laidOutCount handlers := by
  induction handlers with
  | nil => rfl
  | cons h rest ih =>
    cases laidOut : h.isLaidOut with
    | true =>
      obtain ⟨bares, laidOuts⟩ := counts_cons_of_laidOut laidOut rest
      rw [List.length_cons, ih, bares, laidOuts]
      omega
    | false =>
      obtain ⟨bares, laidOuts⟩ := counts_cons_of_bare laidOut rest
      rw [List.length_cons, ih, bares, laidOuts]
      omega

private theorem counts_prepareHandler (level : Level) (handlers : List Handler) :
    bareCount (prepareHandler level handlers).2 =
        bareCount handlers + (if laidOutCount handlers = 0 then 1 else 0) ∧
      laidOutCount (prepareHandler level handlers).2 = laidOutCount handlers := by
  induction handlers with
  | nil => exact ⟨rfl, rfl⟩
  | cons h rest ih =>
    cases laidOut : h.isLaidOut with
    | true =>
      obtain ⟨bares, laidOuts⟩ := counts_cons_of_laidOut laidOut rest
      have still : Handler.isLaidOut { h with level } = true := laidOut
      rw [prepareHandler_cons_of_laidOut laidOut, bares, laidOuts,
        (counts_cons_of_laidOut still _).1, (counts_cons_of_laidOut still _).2]
      exact ⟨rfl, rfl⟩
    | false =>
      obtain ⟨bares, laidOuts⟩ := counts_cons_of_bare laidOut rest
      rw [prepareHandler_cons_of_bare laidOut, bares, laidOuts, (counts_cons_of_bare laidOut _).1,
        (counts_cons_of_bare laidOut _).2, ih.1, ih.2]
      exact ⟨Nat.add_right_comm _ _ _, rfl⟩

/-- A handler that gets its layout adds no bare one, and is the only one with a layout if there was none
before. -/
theorem counts_handlersWith (level : Level) (format : LineFormat) (handlers : List Handler) :
    bareCount (handlersWith level format handlers) = bareCount handlers ∧
      laidOutCount (handlersWith level format handlers) = max 1 (laidOutCount handlers) := by
  induction handlers with
  | nil => exact ⟨rfl, rfl⟩
  | cons h rest ih =>
    unfold handlersWith at ih ⊢
    cases laidOut : h.isLaidOut with
    | true =>
      obtain ⟨bares, laidOuts⟩ := counts_cons_of_laidOut laidOut rest
      rw [prepareHandler_cons_of_laidOut laidOut, List.modify_zero_cons, bares, laidOuts,
        (counts_cons_of_laidOut rfl _).1, (counts_cons_of_laidOut rfl _).2]
      exact ⟨rfl, by omega⟩
    | false =>
      obtain ⟨bares, laidOuts⟩ := counts_cons_of_bare laidOut rest
      rw [prepareHandler_cons_of_bare laidOut, List.modify_succ_cons, bares, laidOuts,
        (counts_cons_of_bare laidOut _).1, (counts_cons_of_bare laidOut _).2, ih.1, ih.2]
      exact ⟨rfl, rfl⟩

/-! ### What a refusal leaves -/

variable {c c' c₁ : Console} {asked requested : Value} {template? datePattern? : Option String}

/-- The tree is as it was: what was asked for last, its level, where its records go, and its handlers. -/
structure SameTree (c c' : Console) : Prop where
  configured : c'.configured = c.configured
  level : c'.level = c.level
  propagates : c'.propagates = c.propagates
  handlers : c'.handlers = c.handlers

/-- A refusal that asked for this level leaves nothing new: either the level could not even be read, or it
is the one asked for last and, if it is a level at all, the tree and its handler have it already. -/
def LeavesNothing (c : Console) (asked : Value) : Prop :=
  match ((requestedLevel asked).runOn c).1 with
  | .error _ => True
  | .ok requested => c.configured = requested ∧ ∀ admitted, Level.ofValue requested = .ok admitted →
    c.level = admitted ∧ ∃ h, c.handlers.find? Handler.isLaidOut = some h ∧ h.level = admitted

/-- A refused configuration leaves the tree as it was just if it leaves nothing new. -/
theorem sameTree_iff_leavesNothing {fault : Fault}
    (refused : (configure asked template? datePattern?).runOn c = (.error fault, c')) :
    c.SameTree c' ↔ c.LeavesNothing asked := by
  cases ends refused with
  | unread unread =>
    rw [LeavesNothing, unread]
    exact ⟨fun _ => trivial, fun _ => ⟨rfl, rfl, rfl, rfl⟩⟩
  | noLevel read new noLevel =>
    rw [LeavesNothing, read]
    constructor
    · intro same
      refine ⟨same.configured.symm, ?_⟩
      intro admitted admits
      rw [noLevel] at admits
      cases admits
    · rintro ⟨rfl, -⟩
      exact ⟨rfl, rfl, rfl, rfl⟩
  | noLayout read new admits noLayout =>
    rw [LeavesNothing, read]
    constructor
    · intro same
      refine ⟨same.configured.symm, ?_⟩
      intro admitted' admits'
      rw [admits] at admits'
      cases admits'
      exact ⟨same.level.symm, (prepareHandler_snd_eq_self_iff _ _).mp same.handlers⟩
    · rintro ⟨rfl, all⟩
      obtain ⟨level, prepared⟩ := all _ admits
      exact ⟨rfl, level.symm, rfl, (prepareHandler_snd_eq_self_iff _ _).mpr prepared⟩

private theorem configured_of_refused {fault : Fault}
    (read : (requestedLevel asked).runOn c = (.ok requested, c₁))
    (refused : (configure asked template? datePattern?).runOn c = (.error fault, c')) :
    c'.configured = requested ∧ c'.store = c₁.store := by
  cases ends refused with
  | unread unread =>
    rw [read] at unread
    cases unread
  | noLevel read' new noLevel =>
    rw [read] at read'
    cases read'
    exact ⟨rfl, rfl⟩
  | noLayout read' new admits noLayout =>
    rw [read] at read'
    cases read'
    exact ⟨rfl, rfl⟩

/-- A refused configuration whose level could be read is refused again just if its level is one that no
configuration finds in force. -/
theorem refused_again_iff {fault : Fault}
    (read : (requestedLevel asked).runOn c = (.ok requested, c₁))
    (refused : (configure asked template? datePattern?).runOn c = (.error fault, c')) :
    (∃ fault' c'', (configure asked template? datePattern?).runOn c' = (.error fault', c'')) ↔
      (requested.truthy && requested.equal requested) = false := by
  obtain ⟨configured, store⟩ := configured_of_refused read refused
  have again := requestedLevel_again read store
  have inForce : c'.isInForce requested = (requested.truthy && requested.equal requested) := by
    rw [isInForce, configured]
  rw [← inForce]
  constructor
  · rintro ⟨fault', c'', refused'⟩
    cases taken : c'.isInForce requested with
    | false => rfl
    | true =>
      rw [runOn_configure_of_inForce again taken] at refused'
      cases refused'
  · intro new
    cases ends refused with
    | unread unread =>
      rw [read] at unread
      cases unread
    | noLevel read' before noLevel =>
      cases configured
      exact ⟨_, _, runOn_configure_of_noLevel again new noLevel⟩
    | noLayout read' before admits noLayout =>
      cases configured
      exact ⟨_, _, runOn_configure_of_noLayout again new admits noLayout⟩

/-! ### Handlers that stay without a layout -/

/-- Is it a call whose layout of lines is refused while no handler has one? -/
def strays (c : Console) (asked : Value) (template? datePattern? : Option String) : Bool :=
  match (requestedLevel asked).runOn c with
  | (.error _, _) => false
  | (.ok requested, c₁) =>
    !c₁.isInForce requested && (Level.ofValue requested).isOk &&
      !(c₁.layout template? datePattern?).isOk && laidOutCount c.handlers == 0

/-- A call leaves one more handler without a layout if it strays, and gives one a layout only if there was
none with one. -/
theorem counts_configure {r : Except Fault Value}
    (went : (configure asked template? datePattern?).runOn c = (r, c')) :
    bareCount c'.handlers =
        bareCount c.handlers + (if c.strays asked template? datePattern? then 1 else 0) ∧
      laidOutCount c'.handlers ≤ max 1 (laidOutCount c.handlers) := by
  cases ends went with
  | unread unread =>
    refine ⟨?_, Nat.le_max_right _ _⟩
    simp [strays, unread]
  | @inForce requested store read inForce =>
    refine ⟨?_, Nat.le_max_right _ _⟩
    have inForce : Console.isInForce { c with store } requested = true := inForce
    simp [strays, read, inForce]
  | noLevel read new noLevel =>
    refine ⟨?_, Nat.le_max_right _ _⟩
    simp [strays, read, noLevel, Except.isOk, Except.toBool]
  | @noLayout requested store admitted _ read new admits noLayout =>
    obtain ⟨bares, laidOuts⟩ := counts_prepareHandler admitted c.handlers
    refine ⟨bares.trans ?_, Nat.le_trans (Nat.le_of_eq laidOuts) (Nat.le_max_right _ _)⟩
    have new : Console.isInForce { c with store } requested = false := new
    simp [strays, read, new, admits, noLayout, Except.isOk, Except.toBool]
  | @laidOut _ _ admitted format read new admits layout =>
    obtain ⟨bares, laidOuts⟩ := counts_handlersWith admitted format c.handlers
    refine ⟨bares.trans ?_, Nat.le_of_eq laidOuts⟩
    simp [strays, read, layout, Except.isOk, Except.toBool]

/-- A call that goes through leaves a handler with a layout, and no more of those without. -/
theorem counts_of_configured {r : Value} (read : (requestedLevel asked).runOn c = (.ok requested, c₁))
    (new : c₁.isInForce requested = false)
    (through : (configure asked template? datePattern?).runOn c = (.ok r, c')) :
    bareCount c'.handlers = bareCount c.handlers ∧
      laidOutCount c'.handlers = max 1 (laidOutCount c.handlers) := by
  cases ends through with
  | inForce read' inForce =>
    rw [read] at read'
    cases read'
    exact absurd inForce (ne_true_of_eq_false new)
  | laidOut read' new admits layout => exact counts_handlersWith _ _ c.handlers

/-- Obtaining a logger configures the tree without a level of its own. -/
theorem runOn_logger_snd (name : String) (c : Console) :
    ((logger name).runOn c).2 = ((configure .nil none none).runOn c).2 := by
  cases went : (configure .nil none none).runOn c with
  | mk result c' => cases result <;> simp [logger, went, Except.map]

/-- The states that a process reaches by configuring the tree and obtaining loggers, with the number of calls
that strayed on the way. The package was loaded in any environment; the configuration of the process and its
terminal may change. -/
inductive Reached (store : Config.Store) (terminal? : Option Bool) (loadedIn : Config.Variables) :
    Nat → Console → Prop
  | fresh : Reached store terminal? loadedIn 0 (fresh store terminal? loadedIn)
  | outside {n : Nat} {c : Console} (before : Reached store terminal? loadedIn n c) (store' : Config.Store)
      (terminal?' : Option Bool) (written : String) :
      Reached store terminal? loadedIn n { c with store := store', terminal? := terminal?', written }
  | configured {n : Nat} {c : Console} (before : Reached store terminal? loadedIn n c) (asked : Value)
      (template? datePattern? : Option String) :
      Reached store terminal? loadedIn (n + if c.strays asked template? datePattern? then 1 else 0)
        ((configure asked template? datePattern?).runOn c).2
  | obtained {n : Nat} {c : Console} (before : Reached store terminal? loadedIn n c) (name : String) :
      Reached store terminal? loadedIn (n + if c.strays .nil none none then 1 else 0)
        ((logger name).runOn c).2

/-- Every call that strayed has left a handler without a layout, and there is at most one with. -/
theorem Reached.counts {store : Config.Store} {terminal? : Option Bool} {loadedIn : Config.Variables} {n : Nat}
    {c : Console} (reached : Reached store terminal? loadedIn n c) :
    bareCount c.handlers = n ∧ laidOutCount c.handlers ≤ 1 := by
  induction reached with
  | fresh => exact ⟨rfl, Nat.zero_le 1⟩
  | outside _ store' terminal?' written ih => exact ih
  | @configured n c _ asked template? datePattern? ih =>
    obtain ⟨bares, laidOuts⟩ := counts_configure (c := c) (Prod.eta _).symm
    refine ⟨by rw [bares, ih.1], Nat.le_trans laidOuts ?_⟩
    exact Nat.max_le.mpr ⟨Nat.le_refl 1, ih.2⟩
  | @obtained n c _ name ih =>
    obtain ⟨bares, laidOuts⟩ := counts_configure (c := c) (Prod.eta _).symm
    rw [runOn_logger_snd]
    refine ⟨by rw [bares, ih.1], Nat.le_trans laidOuts ?_⟩
    exact Nat.max_le.mpr ⟨Nat.le_refl 1, ih.2⟩

/-- What refused configurations leave. In whatever state one is refused, the tree is as before just if the
refusal leaves nothing new; repeated, it is refused again just if its level is never found in force. In
the states that a process reaches, every call that strayed has left a handler without a layout, so that the
next one to go through leaves one handler more than calls have strayed. -/
theorem refused_configurations_leave_traces (c : Console) (asked : Value)
    (template? datePattern? : Option String) :
    (∀ fault c', (configure asked template? datePattern?).runOn c = (.error fault, c') →
      (c.SameTree c' ↔ c.LeavesNothing asked) ∧
      ∀ requested c₁, (requestedLevel asked).runOn c = (.ok requested, c₁) →
        ((∃ fault' c'', (configure asked template? datePattern?).runOn c' = (.error fault', c'')) ↔
          (requested.truthy && requested.equal requested) = false)) ∧
    ∀ store terminal? loadedIn n, Reached store terminal? loadedIn n c →
      c.handlers.length = n + laidOutCount c.handlers ∧ laidOutCount c.handlers ≤ 1 ∧
      ∀ requested c₁ r c',
        (requestedLevel asked).runOn c = (.ok requested, c₁) → c₁.isInForce requested = false →
        (configure asked template? datePattern?).runOn c = (.ok r, c') →
        c'.handlers.length = n + 1 := by
  constructor
  · intro fault c' refused
    refine ⟨sameTree_iff_leavesNothing refused, ?_⟩
    intro requested c₁ read
    exact refused_again_iff read refused
  · intro store terminal? loadedIn n reached
    obtain ⟨bares, laidOuts⟩ := reached.counts
    refine ⟨by rw [length_eq_counts, bares], laidOuts, ?_⟩
    intro requested c₁ r c' read new through
    obtain ⟨stillBares, someLaidOut⟩ := counts_of_configured read new through
    rw [length_eq_counts, stillBares, someLaidOut, bares, Nat.max_eq_left laidOuts]

/-- Nothing has been configured yet. -/
def untouched : Console := fresh (.ofSettings .nil []) none

/-- What is no level has been asked for. -/
def misnamed : Console := ((configure (.text "FOO") none none).runOn untouched).2

/-- A layout without any field has been asked for. -/
def misled : Console := ((configure (.text "INFO") (some "bad") none).runOn untouched).2

/-- What is no level is accepted when it is asked for again. A layout that is refused leaves a bare
handler, next to which the following configuration puts another one. -/
theorem refused_configurations_leave_traces_untouched :
    ¬ untouched.SameTree misnamed ∧
    (¬ ∃ fault c', (configure (.text "FOO") none none).runOn misnamed = (.error fault, c')) ∧
    ((configure (.text "DEBUG") none none).runOn misled).2.handlers.length = 2 := by
  obtain ⟨same, again⟩ :=
    (refused_configurations_leave_traces untouched (.text "FOO") none none).1 _ misnamed rfl
  refine ⟨?_, ?_, ?_⟩
  · rw [same]
    rintro ⟨configured, -⟩
    cases configured
  · rw [again (.text "FOO") untouched rfl, Value.equal_text]
    decide
  · have reached : Reached (.ofSettings .nil []) none [] 1 misled :=
      Reached.fresh.configured (.text "INFO") (some "bad") none
    have asked : misled.configured = .text "INFO" := by rfl
    have new : misled.isInForce (.text "DEBUG") = false := by
      rw [isInForce, asked, Value.equal_text]
      decide
    have layout : misled.layout none none = .ok ⟨plainTemplate, some datePattern, false⟩ := by rfl
    have read : (requestedLevel (.text "DEBUG")).runOn misled = (.ok (.text "DEBUG"), misled) := by rfl
    have through := runOn_configure_of_layout read new rfl layout
    obtain ⟨-, -, handlers⟩ :=
      (refused_configurations_leave_traces misled (.text "DEBUG") none none).2 _ _ _ 1 reached
    rw [through]
    exact handlers _ _ _ _ read new through

end Console

end HostBridge.Logging
