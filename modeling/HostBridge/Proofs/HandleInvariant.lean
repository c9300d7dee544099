import HostBridge.Proofs.Attaching
import HostBridge.Proofs.Course

/-!
# The handles of threads, and what happens to them at the border

Whenever control is outside the bridge, the live handles are exactly the cached ones, a thread that is
attaching has neither a handle nor a failure, and no thread has been asked to attach twice since it was
last told to detach. Every change at the border keeps this: an attach that begins, succeeds or fails, and
a thread that is told to detach.
-/

namespace HostBridge

variable {ω : Type}

/-- A handle of a thread that has not been detached. -/
def State.Live (s : State ω) (t : ThreadId) (id : HandleId) : Prop :=
  ∃ h, s.handles[id.index]? = some h ∧ h.owner = t ∧ h.detached = false

namespace State

/-- A handle that was opened is live, and the others stay as they were. -/
theorem live_opening (s : State ω) (b : BackendId) (t u : ThreadId) (id : HandleId) :
    (s.opening b t).Live u id ↔ s.Live u id ∨ u = t ∧ id = ⟨s.handles.length⟩ := by
  unfold Live opening
  rcases Nat.lt_trichotomy id.index s.handles.length with older | same | beyond
  · have other : id ≠ ⟨s.handles.length⟩ := by
      intro he
      rw [he] at older
      exact Nat.lt_irrefl _ older
    simp [List.getElem?_append_left older, other]
  · have this : id = ⟨s.handles.length⟩ := by
      cases id
      exact congrArg HandleId.mk same
    have absent : s.handles[id.index]? = none := List.getElem?_eq_none (Nat.le_of_eq same.symm)
    have present : (s.handles ++ [⟨b, t, false⟩])[id.index]? = some ⟨b, t, false⟩ := by
      rw [same]
      exact List.getElem?_concat_length
    rw [absent, present]
    constructor
    · rintro ⟨h, found, owner, -⟩
      cases found
      exact .inr ⟨owner.symm, this⟩
    · rintro (⟨h, found, -⟩ | ⟨owner, -⟩)
      · cases found
      · exact ⟨_, rfl, owner.symm, rfl⟩
  · have other : id ≠ ⟨s.handles.length⟩ := by
      intro he
      rw [he] at beyond
      exact Nat.lt_irrefl _ beyond
    have absent : s.handles[id.index]? = none := List.getElem?_eq_none (Nat.le_of_lt beyond)
    have later : (s.handles ++ [⟨b, t, false⟩])[id.index]? = none :=
      List.getElem?_eq_none (by rw [List.length_append]; exact Nat.succ_le_of_lt beyond)
    simp [absent, later, other]

private theorem live_closing (s : State ω) (closed : HandleId) (u : ThreadId) (id : HandleId) :
    (s.closing closed).Live u id ↔ s.Live u id ∧ id ≠ closed := by
  have index : id = closed ↔ closed.index = id.index := by
    cases id
    cases closed
    simp [eq_comm]
  unfold Live closing
  by_cases he : closed.index = id.index
  · simp [he, index]
  · simp [he, index]

end State

/-- Attaching is not one of the calls that need a handle. -/
theorem Call.isAttach_of_isPrimitive {call : Call} (primitive : call.isPrimitive = true) :
    call.isAttach = false := by
  cases call <;> first | rfl | cases primitive

namespace Event

/-- Is it a call to attach a thread? -/
def attaches (t : ThreadId) : Event → Bool
  | .called c => c.thread = t && c.call.isAttach
  | _ => false

/-- Was a thread told to detach? -/
def forgets (t : ThreadId) : Event → Bool
  | .forgotten u => u = t
  | _ => false

end Event

/-- How often a thread was asked to attach since it was last told to detach. -/
def attempts (t : ThreadId) (journal : List Event) : Nat :=
  (journal.takeWhile fun e => !e.forgets t).countP (Event.attaches t)

private theorem attempts_cons_of_other {t : ThreadId} {e : Event} (journal : List Event)
    (attaches : e.attaches t = false) (forgets : e.forgets t = false) :
    attempts t (e :: journal) = attempts t journal := by
  simp [attempts, attaches, forgets]

private theorem attempts_cons_of_attaches {t : ThreadId} {e : Event} (journal : List Event)
    (attaches : e.attaches t = true) (forgets : e.forgets t = false) :
    attempts t (e :: journal) = attempts t journal + 1 := by
  simp [attempts, attaches, forgets]

private theorem attempts_cons_of_forgets {t : ThreadId} {e : Event} (journal : List Event)
    (forgets : e.forgets t = true) : attempts t (e :: journal) = 0 := by
  simp [attempts, forgets]

/-- A stretch of the journal without being told to detach has no more attempts than counted at its end. -/
theorem countP_le_attempts {t : ThreadId} (window earlier : List Event)
    (kept : ∀ e ∈ window, e.forgets t = false) :
    window.countP (Event.attaches t) ≤ attempts t (window ++ earlier) := by
  have all : ∀ e ∈ window, (!e.forgets t) = true := by
    intro e he
    rw [kept e he, Bool.not_false]
  rw [attempts, List.takeWhile_append_of_pos all, List.countP_append]
  exact Nat.le_add_right _ _

/-! ### The invariant -/

/-- What holds whenever control is outside the bridge. -/
structure State.Ordered (s : State ω) : Prop where
  cached : ∀ t id, (s.attachments t).handle? = some id ↔ s.Live t id
  busy : ∀ t, (s.attachments t).attaching = true → s.attachments t = .busy
  once : ∀ t earlier, earlier <:+ s.journal → attempts t earlier ≤ 1
  fresh : ∀ t, s.attachments t = .none → attempts t s.journal = 0

namespace State.Ordered

variable {s s' : State ω}

/-- At the start nothing is attached and nothing has happened. -/
theorem initial (store : Config.Store) (world : ω) : (State.initial store world).Ordered where
  cached t id := by simp [State.initial, Attachment.none, State.Live]
  busy t h := by simp [State.initial, Attachment.none] at h
  once t earlier h := by
    rw [List.suffix_nil.mp h]
    exact Nat.zero_le 1
  fresh t _ := rfl

/-- Silent changes do not matter. -/
theorem of_silent (h : s.Ordered) (silent : s.Silent s') : s'.Ordered where
  cached t id := by
    rw [silent.attachments, State.Live, silent.handles]
    exact h.cached t id
  busy t := by
    rw [silent.attachments]
    exact h.busy t
  once t := by
    rw [silent.journal]
    exact h.once t
  fresh t := by
    rw [silent.attachments, silent.journal]
    exact h.fresh t

private theorem once_cons (h : s.Ordered) {t : ThreadId} {e : Event}
    (here : attempts t (e :: s.journal) ≤ 1) :
    ∀ earlier, earlier <:+ e :: s.journal → attempts t earlier ≤ 1 := by
  intro earlier suffix
  rcases List.suffix_cons_iff.mp suffix with rfl | older
  · exact here
  · exact h.once t earlier older

/-- Events that neither attach a thread nor tell one to detach do not matter. -/
theorem noting (h : s.Ordered) {e : Event} (attaches : ∀ t, e.attaches t = false)
    (forgets : ∀ t, e.forgets t = false) : (s.noting e).Ordered := by
  have same (t : ThreadId) : attempts t (e :: s.journal) = attempts t s.journal :=
    attempts_cons_of_other s.journal (attaches t) (forgets t)
  refine ⟨h.cached, h.busy, fun t => h.once_cons ?_, fun t none => ?_⟩
  · rw [same t]
    exact h.once t _ List.suffix_rfl
  · rw [State.journal_noting, same t]
    exact h.fresh t none

/-- A thread that has attached nothing has no live handle. -/
theorem not_live (h : s.Ordered) {t : ThreadId} (none : (s.attachments t).handle? = .none)
    (id : HandleId) : ¬ s.Live t id := by
  intro live
  have cached := (h.cached t id).mpr live
  rw [none] at cached
  cases cached

/-- A thread has at most one live handle. -/
theorem unique (h : s.Ordered) {t : ThreadId} {id id' : HandleId} (live : s.Live t id)
    (live' : s.Live t id') : id = id' := by
  have cached := (h.cached t id).mpr live
  have cached' := (h.cached t id').mpr live'
  exact Option.some.inj (cached.symm.trans cached')

private theorem changed (h : s.Ordered) {t : ThreadId} {e : Event} (noted : s'.journal = e :: s.journal)
    (attaches : ∀ u, u ≠ t → e.attaches u = false) (forgets : ∀ u, u ≠ t → e.forgets u = false)
    (attached : ∀ u, u ≠ t → s'.attachments u = s.attachments u)
    (live : ∀ u, u ≠ t → ∀ id, s'.Live u id ↔ s.Live u id)
    (cached : ∀ id, (s'.attachments t).handle? = some id ↔ s'.Live t id)
    (busy : (s'.attachments t).attaching = true → s'.attachments t = .busy)
    (once : attempts t (e :: s.journal) ≤ 1)
    (fresh : s'.attachments t = .none → attempts t (e :: s.journal) = 0) : s'.Ordered := by
  have same (u : ThreadId) (hu : u ≠ t) : attempts u (e :: s.journal) = attempts u s.journal :=
    attempts_cons_of_other s.journal (attaches u hu) (forgets u hu)
  refine ⟨fun u => ?_, fun u => ?_, fun u => ?_, fun u => ?_⟩
  · by_cases hu : u = t
    · subst hu
      exact cached
    · intro id
      rw [attached u hu, live u hu]
      exact h.cached u id
  · by_cases hu : u = t
    · subst hu
      exact busy
    · rw [attached u hu]
      exact h.busy u
  · rw [noted]
    refine h.once_cons ?_
    by_cases hu : u = t
    · subst hu
      exact once
    · rw [same u hu]
      exact h.once u _ List.suffix_rfl
  · rw [noted]
    by_cases hu : u = t
    · subst hu
      exact fresh
    · rw [attached u hu, same u hu]
      exact h.fresh u

/-- A thread with nothing attached may begin to attach. -/
theorem attaching (h : s.Ordered) {t : ThreadId} (none : s.attachments t = .none) {c : Crossing}
    (thread : c.thread = t) (attach : c.call.isAttach = true) :
    ((s.setAttachment t .busy).noting (.called c)).Ordered := by
  have self : ((s.setAttachment t .busy).noting (.called c)).attachments t = .busy :=
    s.attachments_setAttachment_self t .busy
  refine h.changed (t := t) rfl ?_ (fun _ _ => rfl) ?_ (fun _ _ _ => Iff.rfl) ?_ ?_ ?_ ?_
  · intro u hu
    simp [Event.attaches, thread, Ne.symm hu]
  · exact fun u hu => s.attachments_setAttachment_other _ hu
  · intro id
    rw [self]
    exact ⟨fun cached => (nomatch cached), fun live => (h.not_live (by rw [none]; rfl) id live).elim⟩
  · exact fun _ => self
  · have first : attempts t (.called c :: s.journal) = 1 := by
      rw [attempts_cons_of_attaches _ (by simp [Event.attaches, thread, attach]) rfl, h.fresh t none]
    exact Nat.le_of_eq first
  · intro absent
    rw [self] at absent
    cases absent

/-- An attach that succeeds opens a handle for the thread. -/
theorem attached (h : s.Ordered) {t : ThreadId} (busy : s.attachments t = .busy) (b : BackendId) :
    (((s.opening b t).setAttachment t ⟨some ⟨s.handles.length⟩, none, false⟩).noting
      (.opened ⟨s.handles.length⟩)).Ordered := by
  have self : (((s.opening b t).setAttachment t ⟨some ⟨s.handles.length⟩, none, false⟩).noting
      (.opened ⟨s.handles.length⟩)).attachments t = ⟨some ⟨s.handles.length⟩, none, false⟩ :=
    (s.opening b t).attachments_setAttachment_self t _
  refine h.changed (t := t) rfl (fun _ _ => rfl) (fun _ _ => rfl) ?_ ?_ ?_ ?_ ?_ ?_
  · exact fun u hu => (s.opening b t).attachments_setAttachment_other _ hu
  · intro u hu id
    refine (s.live_opening b t u id).trans ?_
    simp [hu]
  · intro id
    rw [self]
    refine Iff.trans ?_ (s.live_opening b t t id).symm
    have absent := h.not_live (by rw [busy]; rfl) id
    simp [absent, eq_comm]
  · intro still
    rw [self] at still
    cases still
  · rw [attempts_cons_of_other _ rfl rfl]
    exact h.once t _ List.suffix_rfl
  · intro absent
    rw [self] at absent
    cases absent

/-- An attach that fails leaves its fault behind. -/
theorem failed (h : s.Ordered) {t : ThreadId} (busy : s.attachments t = .busy) (fault : Fault)
    (c : Crossing) (fault? : Option Fault) :
    ((s.setAttachment t ⟨none, some fault, false⟩).noting (.returned c fault?)).Ordered := by
  have self : ((s.setAttachment t ⟨none, some fault, false⟩).noting
      (.returned c fault?)).attachments t = ⟨none, some fault, false⟩ :=
    s.attachments_setAttachment_self t _
  refine h.changed (t := t) rfl (fun _ _ => rfl) (fun _ _ => rfl) ?_ (fun _ _ _ => Iff.rfl) ?_ ?_ ?_ ?_
  · exact fun u hu => s.attachments_setAttachment_other _ hu
  · intro id
    rw [self]
    exact ⟨fun cached => (nomatch cached), fun live => (h.not_live (by rw [busy]; rfl) id live).elim⟩
  · intro still
    rw [self] at still
    cases still
  · rw [attempts_cons_of_other _ rfl rfl]
    exact h.once t _ List.suffix_rfl
  · intro absent
    rw [self] at absent
    cases absent

/-- A thread that is told to detach loses its handle and its failure. -/
theorem forgotten (h : s.Ordered) (t : ThreadId) (handles : List Handle)
    (gone : ∀ id, ¬ State.Live { s with handles } t id)
    (others : ∀ u, u ≠ t → ∀ id, State.Live { s with handles } u id ↔ s.Live u id) :
    ((State.setAttachment { s with handles } t
        { s.attachments t with handle? := none, failure? := none }).noting (.forgotten t)).Ordered := by
  have self := State.attachments_setAttachment_self { s with handles } t
    { s.attachments t with handle? := none, failure? := none }
  refine h.changed (t := t) rfl (fun _ _ => rfl) ?_ ?_ others ?_ ?_ ?_ ?_
  · intro u hu
    simp [Event.forgets, Ne.symm hu]
  · exact fun u hu => State.attachments_setAttachment_other _ _ hu
  · intro id
    rw [State.attachments_noting, self]
    exact ⟨fun cached => (nomatch cached), fun live => (gone id live).elim⟩
  · intro still
    rw [State.attachments_noting, self] at still ⊢
    have busy := h.busy t still
    rw [busy]
    rfl
  · rw [attempts_cons_of_forgets _ (by simp [Event.forgets])]
    exact Nat.zero_le 1
  · exact fun _ => attempts_cons_of_forgets _ (by simp [Event.forgets])

/-- A thread whose live handle is detached loses it, and no other thread does. -/
theorem forgotten_closing (h : s.Ordered) {t : ThreadId} {id : HandleId} (live : s.Live t id) :
    (((s.closing id).setAttachment t
        { s.attachments t with handle? := none, failure? := none }).noting (.forgotten t)).Ordered := by
  refine h.forgotten t (s.closing id).handles ?_ ?_
  · intro other still
    obtain ⟨before, ne⟩ := (s.live_closing id t other).mp still
    exact ne (h.unique before live)
  · intro u hu other
    refine (s.live_closing id u other).trans ⟨fun both => both.1, fun before => ⟨before, ?_⟩⟩
    rintro rfl
    obtain ⟨found, at_id, owner, -⟩ := live
    obtain ⟨found', at_id', owner', -⟩ := before
    rw [at_id] at at_id'
    cases at_id'
    exact hu (owner'.symm.trans owner)

end State.Ordered

end HostBridge
