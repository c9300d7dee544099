import HostBridge.Proofs.Attaching
import HostBridge.Proofs.Course

/-!
# Handles that are held, and the calls made through them

The journal tells which backend attached a handle on which thread, and whether the handle has been
detached since. A state is sound if its live handles are held, and if every call in the journal that needs
a handle was made through one that was held then, by its own thread and to its own backend.
-/

namespace HostBridge

variable {ω : Type}

/-- Detaching is not one of the calls that leave the handle attached. -/
theorem Call.isPrimitive_of_isDetach {call : Call} (detach : call.isDetach = true) :
    call.isPrimitive = false := by
  cases call <;> first | rfl | cases detach

/-- The calls that leave the handle attached do not detach. -/
theorem Call.isDetach_of_isPrimitive {call : Call} (primitive : call.isPrimitive = true) :
    call.isDetach = false := by
  cases call <;> first | rfl | cases primitive

/-- Is it a call to detach this handle? -/
def Event.detaches (id : HandleId) : Event → Bool
  | .called c => c.call.isDetach && c.through? = some id
  | _ => false

/-- The backend attached the handle on the thread, and the handle has not been detached since. -/
def Held (journal : List Event) (id : HandleId) (t : ThreadId) (b : BackendId) : Prop :=
  ∃ since c before, journal = since ++ .opened id :: .returned c none :: before ∧
    c.thread = t ∧ c.backend = b ∧ c.call.isAttach = true ∧ ∀ e ∈ since, e.detaches id = false

namespace Held

variable {journal : List Event} {id : HandleId} {t : ThreadId} {b : BackendId}

private theorem opened (c : Crossing) (before : List Event) (attach : c.call.isAttach = true) :
    Held (.opened id :: .returned c none :: before) id c.thread c.backend := by
  refine ⟨[], c, before, rfl, rfl, rfl, attach, ?_⟩
  intro e he
  cases he

/-- Whatever does not detach the handle leaves it held. -/
theorem append (held : Held journal id t b) {later : List Event}
    (kept : ∀ e ∈ later, e.detaches id = false) : Held (later ++ journal) id t b := by
  obtain ⟨since, c, before, split, thread, backend, attach, since_kept⟩ := held
  refine ⟨later ++ since, c, before, ?_, thread, backend, attach, ?_⟩
  · rw [split, List.append_assoc]
  · intro e he
    rcases List.mem_append.mp he with late | early
    · exact kept e late
    · exact since_kept e early

/-- One event that does not detach the handle leaves it held. -/
theorem cons (held : Held journal id t b) {e : Event} (kept : e.detaches id = false) :
    Held (e :: journal) id t b := by
  have all : ∀ e' ∈ [e], e'.detaches id = false := by
    intro e' he'
    rw [List.mem_singleton.mp he']
    exact kept
  exact held.append all

/-- A handle that has been detached since it was opened is not held. -/
theorem not_of_detaches {later earlier : List Event} {e : Event} (detaches : e.detaches id = true)
    (unopened : Event.opened id ∉ later) : ¬ Held (later ++ e :: earlier) id t b := by
  rintro ⟨since, c, before, split, -, -, -, kept⟩
  rcases List.append_eq_append_iff.mp split with ⟨between, rfl, rest⟩ | ⟨between, rfl, rest⟩
  · cases between with
    | nil =>
      cases rest
      cases detaches
    | cons first between =>
      cases rest
      have free := kept e (List.mem_append_right _ List.mem_cons_self)
      rw [detaches] at free
      cases free
  · cases between with
    | nil =>
      cases rest
      cases detaches
    | cons first between =>
      obtain ⟨rfl, -⟩ := List.cons.inj rest
      exact unopened (List.mem_append_right _ List.mem_cons_self)

end Held

/-- The handle was held when a class was looked up for this method call, and the lookup itself called
back to detach it. -/
def LostInLookup (journal : List Event) (id : HandleId) (c : Crossing) : Prop :=
  (∃ target method args, c.call = .invoke target method args) ∧
  ∃ lookUp within before, journal = .returned lookUp none :: (within ++ .called lookUp :: before) ∧
    (∃ name, lookUp.call = .staticClass name) ∧ lookUp.through? = some id ∧
    lookUp.thread = c.thread ∧ lookUp.backend = c.backend ∧
    Held before id c.thread c.backend ∧ ∃ e ∈ within, e.detaches id = true

/-- The call was made through a handle that is its thread's and its backend's, and that was held after
these earlier events. Only where lookups are not direct may the handle have been lost in one. -/
def Crossing.Grounded (direct : Prop) (s : State ω) (earlier : List Event) (c : Crossing) : Prop :=
  ∃ id h, c.through? = some id ∧ s.handles[id.index]? = some h ∧ h.owner = c.thread ∧
    h.backend = c.backend ∧
    (Held earlier id c.thread c.backend ∨ ¬ direct ∧ LostInLookup earlier id c)

/-- Every call of a journal that needs a handle is grounded. -/
def Grounds (direct : Prop) (s : State ω) (journal : List Event) : Prop :=
  ∀ later c earlier, journal = later ++ .called c :: earlier → c.call.isPrimitive = true →
    c.Grounded direct s earlier

private theorem Grounds.cons {direct : Prop} {s : State ω} {journal : List Event}
    (h : Grounds direct s journal) {e : Event}
    (here : ∀ c, e = .called c → c.call.isPrimitive = true → c.Grounded direct s journal) :
    Grounds direct s (e :: journal) := by
  intro later c earlier split primitive
  cases later with
  | nil =>
    obtain ⟨same, rfl⟩ := List.cons.inj split
    exact here c same primitive
  | cons first later =>
    obtain ⟨-, split⟩ := List.cons.inj split
    exact h later c earlier split primitive

namespace State

/-- Handles are never lost, keep owner and backend, and stay detached once they are; nothing is struck
from the journal. -/
structure Grows (s s' : State ω) : Prop where
  handles : ∀ (id : HandleId) h, s.handles[id.index]? = some h →
    ∃ h', s'.handles[id.index]? = some h' ∧ h'.owner = h.owner ∧ h'.backend = h.backend ∧
      (h.detached = true → h'.detached = true)
  journal : s.journal <:+ s'.journal

/-- The live handles are held, and every call that needs a handle is grounded. -/
structure Sound (direct : Prop) (s : State ω) : Prop where
  held : ∀ (id : HandleId) h, s.handles[id.index]? = some h → h.detached = false →
    Held s.journal id h.owner h.backend
  made : Grounds direct s s.journal

/-- The handles may grow and the journal too. -/
theorem Grows.of_eq {s s' : State ω} (handles : s'.handles = s.handles)
    (journal : s.journal <:+ s'.journal) : s.Grows s' where
  handles id h found := ⟨h, by rw [handles, found], rfl, rfl, fun detached => detached⟩
  journal := journal

/-- Growing goes on. -/
theorem Grows.trans {s s' s'' : State ω} (first : s.Grows s') (second : s'.Grows s'') :
    s.Grows s'' where
  handles id h found := by
    obtain ⟨h', found', owner', backend', detached'⟩ := first.handles id h found
    obtain ⟨h'', found'', owner'', backend'', detached''⟩ := second.handles id h' found'
    exact ⟨h'', found'', owner''.trans owner', backend''.trans backend',
      fun detached => detached'' (detached' detached)⟩
  journal := first.journal.trans second.journal

/-- Opening a handle leaves the others. -/
theorem grows_opening (s : State ω) (b : BackendId) (t : ThreadId) (e : Event) :
    s.Grows ((s.opening b t).noting e) where
  handles id h found := by
    refine ⟨h, ?_, rfl, rfl, fun detached => detached⟩
    exact (List.getElem?_append_left (List.getElem?_eq_some_iff.mp found).1).trans found
  journal := List.suffix_cons e _

/-- Closing a handle only marks it. -/
theorem grows_closing (s : State ω) (id : HandleId) : s.Grows (s.closing id) where
  handles other h found := by
    by_cases same : id.index = other.index
    · refine ⟨{ h with detached := true }, ?_, rfl, rfl, fun _ => rfl⟩
      simp [closing, same, found]
    · refine ⟨h, ?_, rfl, rfl, fun detached => detached⟩
      simp [closing, same, found]
  journal := List.suffix_rfl

/-- Two events and then closing a handle let the state grow. -/
theorem grows_closing_noting (s : State ω) (e e' : Event) (id : HandleId) :
    s.Grows (((s.noting e).noting e').closing id) := by
  have noted : s.Grows ((s.noting e).noting e') :=
    .of_eq rfl ((List.suffix_cons e _).trans (List.suffix_cons e' _))
  exact noted.trans (grows_closing _ id)

private theorem Grows.grounds {s s' : State ω} (grows : s.Grows s') {direct : Prop} {journal : List Event}
    (h : Grounds direct s journal) : Grounds direct s' journal := by
  intro later c earlier split primitive
  obtain ⟨id, handle, through, found, owner, backend, held⟩ := h later c earlier split primitive
  obtain ⟨handle', found', owner', backend', -⟩ := grows.handles id handle found
  exact ⟨id, handle', through, found', owner'.trans owner, backend'.trans backend, held⟩

namespace Sound

variable {direct : Prop} {s s' : State ω}

/-- At the start there are no handles and no calls. -/
theorem initial (store : Config.Store) (world : ω) : (State.initial store world).Sound direct where
  held id h found := by cases found
  made later c earlier split := by
    have absent := congrArg List.length split
    simp [State.initial] at absent

/-- Only the handles and the journal matter. -/
theorem of_eq (h : s.Sound direct) (handles : s'.handles = s.handles)
    (journal : s'.journal = s.journal) : s'.Sound direct where
  held id handle found live := by
    rw [handles] at found
    rw [journal]
    exact h.held id handle found live
  made := by
    rw [journal]
    exact (State.Grows.of_eq handles (journal ▸ List.suffix_rfl)).grounds h.made

/-- A change that is noted by one event: the live handles have to be held after it, and a call has to
be grounded. -/
theorem changed (h : s.Sound direct) {e : Event} (grows : s.Grows s')
    (noted : s'.journal = e :: s.journal)
    (held : ∀ (id : HandleId) handle, s'.handles[id.index]? = some handle → handle.detached = false →
      Held (e :: s.journal) id handle.owner handle.backend)
    (grounded : ∀ c, e = .called c → c.call.isPrimitive = true → c.Grounded direct s s.journal) :
    s'.Sound direct where
  held id handle found live := by
    rw [noted]
    exact held id handle found live
  made := by
    rw [noted]
    exact grows.grounds (h.made.cons grounded)

/-- An event that detaches nothing may be noted, if it is grounded where it is a call. -/
theorem noting (h : s.Sound direct) {e : Event} (kept : ∀ id, e.detaches id = false)
    (grounded : ∀ c, e = .called c → c.call.isPrimitive = true → c.Grounded direct s s.journal) :
    (s.noting e).Sound direct := by
  refine h.changed (.of_eq rfl (List.suffix_cons e _)) rfl ?_ grounded
  intro id handle found live
  exact (h.held id handle found live).cons (kept id)

/-- A handle may be opened for the thread and by the backend that an attach has just returned on. -/
theorem opening (h : s.Sound direct) {c : Crossing} {before : List Event}
    (returned : s.journal = .returned c none :: before) (attach : c.call.isAttach = true) :
    ((s.opening c.backend c.thread).noting (.opened ⟨s.handles.length⟩)).Sound direct := by
  refine h.changed (grows_opening s c.backend c.thread _) rfl ?_ ?_
  · intro id handle found live
    rcases Nat.lt_or_ge id.index s.handles.length with older | newer
    · have found : s.handles[id.index]? = some handle := by
        rw [← found]
        exact (List.getElem?_append_left older).symm
      exact (h.held id handle found live).cons rfl
    · have last : id.index = s.handles.length := by
        have bound := (List.getElem?_eq_some_iff.mp found).1
        have length : (s.handles ++ [(⟨c.backend, c.thread, false⟩ : Handle)]).length =
            s.handles.length + 1 := List.length_append
        exact Nat.le_antisymm (Nat.le_of_lt_succ (Nat.lt_of_lt_of_eq bound length)) newer
      have same : some (⟨c.backend, c.thread, false⟩ : Handle) = some handle := by
        rw [← found, last]
        exact List.getElem?_concat_length.symm
      cases same
      cases id
      cases last
      rw [returned]
      exact Held.opened c before attach
  · intro c' called
    cases called

/-- A handle may be marked as detached after a call to detach it. -/
theorem closing (h : s.Sound direct) {id : HandleId} {c : Crossing} {fault? : Option Fault}
    (detach : c.call.isDetach = true) (through : c.through? = some id) :
    (((s.noting (.called c)).noting (.returned c fault?)).closing id).Sound direct where
  held other handle found live := by
    by_cases same : id.index = other.index
    · cases before : s.handles[other.index]? with
      | none => simp [State.closing, same, before] at found
      | some old =>
        simp [State.closing, same, before] at found
        rw [← found] at live
        cases live
    · have found : s.handles[other.index]? = some handle := by
        simpa [State.closing, same] using found
      have ne : id ≠ other := fun eq => same (congrArg HandleId.index eq)
      have kept : (Event.called c).detaches other = false := by
        simp [Event.detaches, through, ne]
      exact ((h.held other handle found live).cons kept).cons rfl
  made := by
    refine (s.grows_closing_noting (.called c) (.returned c fault?) id).grounds (Grounds.cons (h.made.cons ?_) ?_)
    · rintro c' same primitive
      cases same
      rw [Call.isPrimitive_of_isDetach detach] at primitive
      cases primitive
    · rintro c' same
      cases same

end Sound

end State

end HostBridge
