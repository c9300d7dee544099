import HostBridge.Proofs.FailedDetaches
import HostBridge.Proofs.OneHandle

/-!
# Handles that threads retain

A thread retains the handle that was opened for it until it is told to detach. What it has cached is that handle,
whatever happens to the handle itself.
-/

namespace HostBridge

variable {ω : Type}

/-! ### Retaining -/

/-- What has happened since a thread was last told to detach, latest first. -/
def sinceDetach (t : ThreadId) (journal : List Event) : List Event :=
  journal.takeWhile fun e => !e.forgets t

namespace State

/-- The handle is there, and it is the thread's. -/
def Owns (s : State ω) (t : ThreadId) (id : HandleId) : Prop :=
  ∃ h, s.handles[id.index]? = some h ∧ h.owner = t

/-- The handle was opened for the thread, which has not been told to detach since. -/
def Retains (s : State ω) (t : ThreadId) (id : HandleId) : Prop :=
  s.Owns t id ∧ .opened id ∈ sinceDetach t s.journal

/-- What threads have cached are the handles that they retain, and a thread that attaches has nothing else. -/
structure Caches (s : State ω) : Prop where
  cached : ∀ t id, (s.attachments t).handle? = some id ↔ s.Retains t id
  busy : ∀ t, (s.attachments t).attaching = true → s.attachments t = .busy

/-- No handle that is retained was detached. -/
def Alive (s : State ω) : Prop := ∀ t id, s.Retains t id → ¬ s.Detached id

variable {s s' : State ω} {t u : ThreadId} {id : HandleId}

private theorem Owns.unique (owns : s.Owns t id) (owns' : s.Owns u id) : t = u := by
  obtain ⟨h, found, owner⟩ := owns
  obtain ⟨h', found', owner'⟩ := owns'
  rw [found] at found'
  cases found'
  exact owner.symm.trans owner'

private theorem owns_opening (s : State ω) (b : BackendId) (u t : ThreadId) (id : HandleId) :
    (s.opening b u).Owns t id ↔ s.Owns t id ∨ t = u ∧ id = ⟨s.handles.length⟩ := by
  obtain ⟨i⟩ := id
  unfold Owns opening
  dsimp only
  rcases Nat.lt_trichotomy i s.handles.length with older | rfl | beyond
  · rw [List.getElem?_append_left older]
    have other : (⟨i⟩ : HandleId) ≠ ⟨s.handles.length⟩ := by
      intro same
      cases same
      exact Nat.lt_irrefl _ older
    simp [other]
  · simp [eq_comm]
  · have other : (⟨i⟩ : HandleId) ≠ ⟨s.handles.length⟩ := by
      intro same
      cases same
      exact Nat.lt_irrefl _ beyond
    have absent : s.handles[i]? = none := List.getElem?_eq_none (Nat.le_of_lt beyond)
    have later : (s.handles ++ [⟨b, u, false⟩])[i]? = none :=
      List.getElem?_eq_none (by simp only [List.length_append, List.length_singleton]; omega)
    simp [absent, later, other]

private theorem owns_closing (s : State ω) (closed : HandleId) (t : ThreadId) (id : HandleId) :
    (s.closing closed).Owns t id ↔ s.Owns t id := by
  unfold Owns closing
  by_cases same : closed.index = id.index
  · simp [same]
  · simp [same]

private theorem retains_noting {e : Event} (opens : e ≠ .opened id) (forgets : e.forgets t = false) :
    (s.noting e).Retains t id ↔ s.Retains t id := by
  have other : Event.opened id ≠ e := opens.symm
  simp [Retains, Owns, sinceDetach, forgets, other]

private theorem not_retains_forgotten (s : State ω) (t : ThreadId) (id : HandleId) :
    ¬ (s.noting (.forgotten t)).Retains t id := by
  simp [Retains, sinceDetach, Event.forgets]

private theorem retains_of_eq (handles : s'.handles = s.handles) (journal : s'.journal = s.journal) :
    s'.Retains t id ↔ s.Retains t id := by
  unfold Retains Owns
  rw [handles, journal]

private theorem retains_closing (s : State ω) (closed : HandleId) (t : ThreadId) (id : HandleId) :
    (s.closing closed).Retains t id ↔ s.Retains t id :=
  and_congr (s.owns_closing closed t id) Iff.rfl

/-- A thread retains a handle that is opened for it, and what it has retained. -/
theorem retains_opening (s : State ω) (b : BackendId) (u t : ThreadId) (id : HandleId) :
    ((s.opening b u).noting (.opened ⟨s.handles.length⟩)).Retains t id ↔
      s.Retains t id ∨ t = u ∧ id = ⟨s.handles.length⟩ := by
  have kept : ((Event.opened ⟨s.handles.length⟩).forgets t) = false := rfl
  have owns : ((s.opening b u).noting (.opened ⟨s.handles.length⟩)).Owns t id ↔
      s.Owns t id ∨ t = u ∧ id = ⟨s.handles.length⟩ := s.owns_opening b u t id
  have since : .opened id ∈ sinceDetach t ((s.opening b u).noting (.opened ⟨s.handles.length⟩)).journal ↔
      id = ⟨s.handles.length⟩ ∨ .opened id ∈ sinceDetach t s.journal := by
    simp [sinceDetach, kept, opening]
  rw [Retains, owns, since]
  constructor
  · rintro ⟨before | here, now | earlier⟩
    · -- The new handle was nobody's before.
      subst now
      obtain ⟨h, found, -⟩ := before
      rw [List.getElem?_eq_none (Nat.le_refl _)] at found
      cases found
    · exact .inl ⟨before, earlier⟩
    · exact .inr here
    · exact .inr here
  · rintro (⟨owned, earlier⟩ | ⟨here, now⟩)
    · exact ⟨.inl owned, .inr earlier⟩
    · exact ⟨.inr ⟨here, now⟩, .inl now⟩

private theorem of_detached_closing {closed : HandleId} (detached : (s.closing closed).Detached id) :
    id = closed ∨ s.Detached id := by
  obtain ⟨h, found, isDetached⟩ := detached
  by_cases same : closed.index = id.index
  · cases id
    cases closed
    cases same
    exact .inl rfl
  · exact .inr ⟨h, by simpa [closing, same] using found, isDetached⟩

namespace Caches

/-- At the start nothing is cached, and no handle was opened. -/
theorem initial (store : Config.Store) (world : ω) : (State.initial store world).Caches where
  cached t id := by simp [State.initial, Attachment.none, Retains, sinceDetach]
  busy t h := by simp [State.initial, Attachment.none] at h

private theorem of_eq (h : s.Caches) (attachments : s'.attachments = s.attachments)
    (retains : ∀ t id, s'.Retains t id ↔ s.Retains t id) : s'.Caches where
  cached t id := by rw [attachments, retains, h.cached]
  busy t := by
    rw [attachments]
    exact h.busy t

private theorem setting (h : s.Caches) {a : Attachment} (set : s'.attachments = (s.setAttachment t a).attachments)
    (others : ∀ u, u ≠ t → ∀ id, s'.Retains u id ↔ s.Retains u id)
    (cached : ∀ id, a.handle? = some id ↔ s'.Retains t id) (busy : a.attaching = true → a = .busy) :
    s'.Caches where
  cached u id := by
    rw [set]
    by_cases here : u = t
    · subst here
      rw [attachments_setAttachment_self, cached]
    · rw [attachments_setAttachment_other _ _ here, others u here, h.cached]
  busy u := by
    rw [set]
    by_cases here : u = t
    · subst here
      rw [attachments_setAttachment_self]
      exact busy
    · rw [attachments_setAttachment_other _ _ here]
      exact h.busy u

/-- A thread retains one handle. -/
theorem unique (h : s.Caches) {id' : HandleId} (retains : s.Retains t id) (retains' : s.Retains t id') :
    id = id' :=
  Option.some.inj (((h.cached t id).mpr retains).symm.trans ((h.cached t id').mpr retains'))

/-- A thread with a handle is not attaching. -/
theorem not_attaching (h : s.Caches) (retains : s.Retains t id) : (s.attachments t).attaching = false := by
  have cached := (h.cached t id).mpr retains
  cases attaching : (s.attachments t).attaching with
  | false => rfl
  | true =>
    rw [h.busy t attaching] at cached
    cases cached

/-- A thread that retains nothing has nothing cached. -/
theorem uncached (h : s.Caches) (nothing : ∀ id, ¬ s.Retains t id) : (s.attachments t).handle? = none := by
  cases cached : (s.attachments t).handle? with
  | none => rfl
  | some id => exact (nothing id ((h.cached t id).mp cached)).elim

end Caches

end State

/-! ### What everything keeps -/

/-- What is cached goes on being what is retained, and what is not retained never will be. Unless handles are
detached by themselves, those that are retained stay alive. -/
structure Tracks (direct : Prop) (s s' : State ω) : Prop where
  attending : Attending s s'
  owns : ∀ t id, s.Owns t id → s'.Owns t id
  unretained : ∀ t id, s.Owns t id → ¬ s.Retains t id → ¬ s'.Retains t id
  caches : s.Caches → s'.Caches
  alive : ¬ direct → s.Alive → s'.Alive

namespace Tracks

open HostBridge.Action (Keeps)

variable {direct : Prop} {s s' : State ω}

private theorem of_iff (attachments : s'.attachments = s.attachments) (owns : ∀ t id, s.Owns t id → s'.Owns t id)
    (retains : ∀ t id, s'.Retains t id ↔ s.Retains t id) (detached : ∀ id, s'.Detached id → s.Detached id) :
    Tracks direct s s' where
  attending t busy := by
    rw [attachments]
    exact busy
  owns := owns
  unretained t id _ := (not_congr (retains t id)).mpr
  caches h := h.of_eq attachments retains
  alive _ h t id retained detached' := h t id ((retains t id).mp retained) (detached id detached')

instance : Course (Tracks (ω := ω) direct) where
  silent silent :=
    of_iff silent.attachments (fun _ _ => by simp only [State.Owns, silent.handles, imp_self])
      (fun _ _ => State.retains_of_eq silent.handles silent.journal)
      fun _ => by simp only [State.Detached, silent.handles, imp_self]
  trans first second :=
    ⟨Course.trans first.attending second.attending, fun t id owns => second.owns t id (first.owns t id owns),
      fun t id owns none => second.unretained t id (first.owns t id owns) (first.unretained t id owns none),
      fun h => second.caches (first.caches h), fun spared h => second.alive spared (first.alive spared h)⟩

/-- Events that neither open a handle nor tell a thread to detach may be noted. -/
theorem noting (s : State ω) {e : Event} (opens : ∀ id, e ≠ .opened id) (forgets : ∀ t, e.forgets t = false) :
    Tracks direct s (s.noting e) :=
  of_iff rfl (fun _ _ owns => owns) (fun t id => State.retains_noting (opens id) (forgets t))
    fun _ detached => detached

private theorem closing (s : State ω) {id : HandleId} {t : ThreadId} (owns : s.Owns t id)
    (released : ¬ direct → ¬ s.Retains t id) : Tracks direct s (s.closing id) where
  attending _ busy := busy
  owns u other := (s.owns_closing id u other).mpr
  unretained u other _ := (not_congr (s.retains_closing id u other)).mpr
  caches h := h.of_eq rfl (s.retains_closing id)
  alive spared h u other retained detached := by
    have before := (s.retains_closing id u other).mp retained
    obtain rfl | already := State.of_detached_closing detached
    · obtain rfl := before.1.unique owns
      exact released spared before
    · exact h u other before already

variable {allowed : Operation → Prop} {program : HostProgram ω} {answer : Request → Action ω Value} {level : Nat}

private theorem serve (answers : Answers allowed (Tracks direct) answer) (uses : program.Uses allowed)
    (through? : Option HandleId) (b : BackendId) (call : Call) :
    Keeps (Tracks direct) (program.serve answer level through? b call) := by
  intro t s
  obtain ⟨result, e, worked, served⟩ := program.runOn_serve_keeps level answers through? b call t s
    (uses s.view t b call s.world)
  rw [served]
  have called : Tracks direct s (s.noting (.called ⟨t, b, call, through?, level⟩)) :=
    noting s nofun fun _ => rfl
  have returned : Tracks direct e
      (e.noting (.returned ⟨t, b, call, through?, level⟩ (Fault.of? result))) :=
    noting e nofun fun _ => rfl
  exact Course.trans called (Course.trans worked returned)

private theorem detachHandle (answers : Answers allowed (Tracks direct) answer) (uses : program.Uses allowed)
    {t : ThreadId} {id : HandleId} {s : State ω} (released : ¬ direct → ¬ s.Retains t id) :
    Tracks direct s ((Action.detachHandle (program.serve answer level) id).runOn t s).2 := by
  have same := Action.state_of_runOn_checked id t s
  cases passed : (Action.checked id).runOn t s with
  | mk result s' =>
  rw [passed] at same
  subst same
  cases result with
  | error fault =>
    rw [Action.runOn_detachHandle_error _ passed]
    exact Course.refl s'
  | ok b =>
    obtain ⟨-, h, found, live, own, rfl⟩ := Action.live_of_runOn_checked passed
    have called : Tracks direct s'
        ((program.serve answer level (some id) h.backend .detach).runOn t s').2 :=
      serve answers uses (some id) h.backend .detach t s'
    cases served : (program.serve answer level (some id) h.backend .detach).runOn t s' with
    | mk result e =>
    rw [served] at called
    cases result with
    | error fault =>
      rw [Action.runOn_detachHandle_of_failed passed served]
      exact called
    | ok v =>
      obtain ⟨l, ran⟩ := Action.runOn_detachHandle_ok passed served
      rw [ran]
      have owns : s'.Owns t id := ⟨h, found, own⟩
      refine Course.trans called (Course.trans (closing e (called.owns t id owns) fun spared => ?_) ?_)
      · exact called.unretained t id owns (released spared)
      · exact Course.silent ⟨rfl, rfl, rfl⟩

private theorem forgetting (t : ThreadId) (s : State ω) :
    Tracks direct s ((s.setAttachment t { s.attachments t with handle? := none, failure? := none }).noting
      (.forgotten t)) := by
  have others (u : ThreadId) (other : u ≠ t) (id : HandleId) :
      ((s.setAttachment t { s.attachments t with handle? := none, failure? := none }).noting
        (.forgotten t)).Retains u id ↔ s.Retains u id :=
    State.retains_noting nofun (by simp [Event.forgets, Ne.symm other])
  have nothing (id : HandleId) := State.not_retains_forgotten
    (s.setAttachment t { s.attachments t with handle? := none, failure? := none }) t id
  have fewer (u : ThreadId) (id : HandleId) (retained : ((s.setAttachment t
      { s.attachments t with handle? := none, failure? := none }).noting (.forgotten t)).Retains u id) :
      s.Retains u id := by
    by_cases here : u = t
    · subst here
      exact (nothing id retained).elim
    · exact (others u here id).mp retained
  refine ⟨fun u busy => ?_, fun _ _ owns => owns, fun u id _ none retained => none (fewer u id retained),
    fun h => ?_, fun _ h u id retained => h u id (fewer u id retained)⟩
  · rw [State.attachments_noting]
    by_cases here : u = t
    · subst here
      rw [State.attachments_setAttachment_self, busy]
      rfl
    · rw [State.attachments_setAttachment_other _ _ here, busy]
  · refine h.setting (t := t) rfl others (fun id => ?_) fun attaching => ?_
    · constructor
      · intro impossible
        cases impossible
      · intro retained
        exact (nothing id retained).elim
    · rw [h.busy t attaching]
      rfl

private theorem detachRuntime (answers : Answers allowed (Tracks direct) answer) (uses : program.Uses allowed) :
    Keeps (Tracks direct) (Action.detachRuntime (program.serve answer level)) := by
  intro t s
  cases handle : (s.attachments t).handle? with
  | none =>
    rw [Action.runOn_detachRuntime_of_none _ handle]
    exact forgetting t s
  | some id =>
    rw [Action.runOn_detachRuntime_of_handle _ handle]
    exact Course.trans (forgetting t s)
      (detachHandle answers uses fun _ => State.not_retains_forgotten _ t id)

private theorem attaching {s : State ω} {t : ThreadId} (none : s.attachments t = .none) (b : BackendId) :
    Tracks direct s { s.setAttachment t .busy with installed? := some b } where
  attending u busy := by
    by_cases here : u = t
    · subst here
      exact s.attachments_setAttachment_self u .busy
    · exact (s.attachments_setAttachment_other _ here).trans busy
  owns _ _ owns := owns
  unretained _ _ _ unretained := unretained
  caches h := by
    refine h.setting (t := t) rfl (fun _ _ _ => Iff.rfl) (fun id => ⟨nofun, fun retained => ?_⟩) fun _ => rfl
    have cached := (h.cached t id).mpr retained
    rw [none] at cached
    cases cached
  alive _ h := h

private theorem not_retains_of_busy {s : State ω} {t : ThreadId} (h : s.Caches) (busy : s.attachments t = .busy)
    (id : HandleId) : ¬ s.Retains t id := by
  intro retained
  have cached := (h.cached t id).mpr retained
  rw [busy] at cached
  cases cached

/-- A handle that is opened was nobody's and is not detached. -/
theorem opened_new (s : State ω) (t : ThreadId) :
    ¬ s.Owns t ⟨s.handles.length⟩ ∧ ¬ s.Detached ⟨s.handles.length⟩ := by
  constructor
  · rintro ⟨h, found, -⟩
    rw [List.getElem?_eq_none (Nat.le_refl _)] at found
    cases found
  · rintro ⟨h, found, -⟩
    rw [List.getElem?_eq_none (Nat.le_refl _)] at found
    cases found

private theorem attachThread (answers : Answers allowed (Tracks direct) answer) (uses : program.Uses allowed)
    {t : ThreadId} {s : State ω} (none : s.attachments t = .none) :
    Tracks direct s ((Action.attachThread (program.serve answer level)).runOn t s).2 := by
  obtain ⟨b, begun⟩ := Action.runOn_beginAttach none
  have started : Tracks direct s { s.setAttachment t .busy with installed? := some b } := attaching none b
  have marked : ({ s.setAttachment t .busy with installed? := some b } : State ω).attachments =
      (s.setAttachment t .busy).attachments := rfl
  generalize ({ s.setAttachment t .busy with installed? := some b } : State ω) = s₁ at begun started marked
  have worked : Tracks direct s₁ ((program.serve answer level .none b .attach).runOn t s₁).2 :=
    serve answers uses .none b .attach t s₁
  cases served : (program.serve answer level .none b .attach).runOn t s₁ with
  | mk result e =>
  rw [served] at worked
  have busy : e.attachments t = .busy := by
    apply worked.attending
    rw [marked, State.attachments_setAttachment_self]
  have free : s.attachments t ≠ .busy := by
    rw [none]
    nofun
  have called : Tracks direct s e := Course.trans started worked
  -- When the call has come back, the thread stops attaching, so the rest by itself is no such step.
  cases result with
  | ok v =>
    obtain ⟨l, ran⟩ := Action.runOn_attachThread_ok begun served busy
    rw [ran]
    have retains (u : ThreadId) (id : HandleId) : State.Retains { ((e.opening b t).setAttachment t
        ⟨some ⟨e.handles.length⟩, .none, false⟩).noting (.opened ⟨e.handles.length⟩) with log := l } u id ↔
        e.Retains u id ∨ u = t ∧ id = ⟨e.handles.length⟩ := e.retains_opening b t u id
    obtain ⟨unowned, undetached⟩ := opened_new e t
    refine ⟨Attending.of_set (e := e.opening b t) free marked worked.attending rfl, ?_, ?_, fun h => ?_, ?_⟩
    · exact fun u id owns => (e.owns_opening b t u id).mpr (.inl (called.owns u id owns))
    · intro u id owns unretained retained
      obtain before | ⟨rfl, rfl⟩ := (retains u id).mp retained
      · exact called.unretained u id owns unretained before
      · exact unowned (called.owns u _ owns)
    · have caches := called.caches h
      refine caches.setting (t := t) (a := ⟨some ⟨e.handles.length⟩, .none, false⟩) rfl ?_ (fun id => ?_) nofun
      · intro u other id
        exact (retains u id).trans (by simp [other])
      · have nothing := not_retains_of_busy caches busy id
        exact Iff.trans (by simp [nothing, eq_comm]) (retains t id).symm
    · intro spared h u id retained detached
      have there : e.Detached id := (e.detached_opening b t id).mp detached
      obtain before | ⟨-, rfl⟩ := (retains u id).mp retained
      · exact called.alive spared h u id before there
      · exact undetached there
  | error reason =>
    obtain ⟨l, ran⟩ := Action.runOn_attachThread_error begun served busy
    rw [ran]
    refine ⟨Attending.of_set (e := e) free marked worked.attending rfl, called.owns, called.unretained,
      fun h => ?_, called.alive⟩
    have caches := called.caches h
    refine caches.setting (t := t) rfl (fun _ _ _ => Iff.rfl) (fun id => ⟨nofun, fun retained => ?_⟩) nofun
    exact (not_retains_of_busy caches busy id retained).elim

private theorem keepsTo (answers : Answers allowed (Tracks direct) answer) (uses : program.Uses allowed)
    (directly : ∀ id, allowed (.detachHandle id) → direct) :
    (program.serve answer level).KeepsTo allowed (Tracks direct) where
  currentRuntime := Keeps.currentRuntime_of_attachThread fun none => attachThread answers uses none
  detachRuntime := detachRuntime answers uses
  cross id _ _ := Keeps.cross fun b => serve answers uses (some id) b _
  invokeStatic id _ _ _ :=
    Keeps.invokeStatic (fun b => serve answers uses (some id) b _) fun b _ => serve answers uses (some id) b _
  detachHandle id ok _ _ := detachHandle answers uses fun spared => (spared (directly id ok)).elim

/-- The answers to the requests of a program keep track of what is retained. -/
theorem answers (uses : program.Uses allowed) (directly : ∀ id, allowed (.detachHandle id) → direct)
    (level : Nat) : Answers allowed (Tracks direct) (program.answers level) :=
  HostProgram.answers_keep (fun _ _ _ answers => keepsTo answers uses directly) level (Nat.le_refl level)

/-- The host that a program makes keeps track of what is retained. -/
theorem host (uses : program.Uses allowed) (directly : ∀ id, allowed (.detachHandle id) → direct)
    (level : Nat) : (program.host level).KeepsTo allowed (Tracks direct) :=
  HostProgram.host_keepsTo (fun _ _ answers => keepsTo answers uses directly) level

end Tracks

end HostBridge
