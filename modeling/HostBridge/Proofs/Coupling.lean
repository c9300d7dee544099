import HostBridge.Proofs.Attaching
import HostBridge.Proofs.ThreadParts

/-!
# States that agree for a thread

Two states are coupled for a thread if all that is the thread's own is the same in both: what it has
attached, its part of the world, the calls that attached and detached it. Handles may be numbered
differently, so they are paired. The first of the two states is followed from a start, from which nothing
has changed that belongs to another thread.
-/

namespace HostBridge

variable {ω σ : Type} {part : ThreadId → ω → σ} {b : BackendId} {t u : ThreadId}

/-- Which handle of one state stands for which of another. -/
abbrev Pairing := HandleId → HandleId → Prop

/-- Nothing changed that belongs to a thread or to all threads. -/
structure Untouched (part : ThreadId → ω → σ) (u : ThreadId) (s s₁ : State ω) : Prop where
  installed : s₁.installed? = s.installed?
  owned : s₁.owned = s.owned
  world : part u s₁.world = part u s.world
  calls : s₁.callsOn u = s.callsOn u
  attachment : s₁.attachments u = s.attachments u
  handles : ∀ {id : HandleId} {h}, s.handles[id.index]? = some h → h.owner = u →
    s₁.handles[id.index]? = some h

namespace Untouched

variable {s s₁ s₂ : State ω}

/-- Nothing changed. -/
theorem refl (s : State ω) : Untouched part u s s where
  installed := rfl
  owned := rfl
  world := rfl
  calls := rfl
  attachment := rfl
  handles found _ := found

private theorem trans (first : Untouched part u s s₁) (second : Untouched part u s₁ s₂) :
    Untouched part u s s₂ where
  installed := second.installed.trans first.installed
  owned := second.owned.trans first.owned
  world := second.world.trans first.world
  calls := second.calls.trans first.calls
  attachment := second.attachment.trans first.attachment
  handles found own := second.handles (first.handles found own) own

end Untouched

/-- Two attachments are the same up to the pairing of handles. -/
structure Attachment.Alike (ρ : Pairing) (a a' : Attachment) : Prop where
  handle : Option.Rel ρ a.handle? a'.handle?
  failure : a.failure? = a'.failure?
  attaching : a.attaching = a'.attaching

/-- Two states agree on what belongs to a thread, whose handles are paired, and from a start to the first of
them nothing changed that belongs to another thread. -/
structure Coupled (part : ThreadId → ω → σ) (b : BackendId) (t : ThreadId) (ρ : Pairing)
    (start s s' : State ω) : Prop where
  installed : s.installed? = some b ∧ s'.installed? = some b
  owned : s.owned = s'.owned
  world : part t s.world = part t s'.world
  calls : s.callsOn t = s'.callsOn t
  attachment : (s.attachments t).Alike ρ (s'.attachments t)
  paired : ∀ {id id'}, ρ id id' → ∃ h, s.handles[id.index]? = some h ∧
    s'.handles[id'.index]? = some h ∧ h.owner = t ∧ h.backend = b
  matched : ∀ {id id' other other'}, ρ id id' → ρ other other' → (id = other ↔ id' = other')
  others : ∀ u, u ≠ t → Untouched part u start s

namespace State

private theorem callsOn_noting (s : State ω) {e : Event} (other : ∀ c, e ≠ .called c) :
    (s.noting e).callsOn t = s.callsOn t := by
  cases e with
  | called c => exact (other c rfl).elim
  | _ => rfl

private theorem callsOn_called_other (s : State ω) {c : Crossing} (other : c.thread ≠ u) :
    (s.noting (.called c)).callsOn u = s.callsOn u := by
  simp [callsOn, other]

private theorem callsOn_called_congr {s s' : State ω} (same : s.callsOn t = s'.callsOn t) (b : BackendId)
    (call : Call) (through? through?' : Option HandleId) (level : Nat) :
    (s.noting (.called ⟨t, b, call, through?, level⟩)).callsOn t =
      (s'.noting (.called ⟨t, b, call, through?', level⟩)).callsOn t := by
  simp only [callsOn] at same
  cases attaches : call.isPrimitive <;> simp [callsOn, attaches, same]

private theorem handles_opening_of_some {s : State ω} {id : HandleId} {h : Handle}
    (found : s.handles[id.index]? = some h) (b : BackendId) (t : ThreadId) :
    (s.opening b t).handles[id.index]? = some h := by
  obtain ⟨there, -⟩ := List.getElem?_eq_some_iff.mp found
  rw [opening, List.getElem?_append_left there, found]

private theorem handles_opening_self (s : State ω) (b : BackendId) (t : ThreadId) :
    (s.opening b t).handles[s.handles.length]? = some ⟨b, t, false⟩ := by
  simp [opening]

private theorem handles_closing_other (s : State ω) {id other : HandleId} (different : id ≠ other) :
    (s.closing id).handles[other.index]? = s.handles[other.index]? := by
  have apart : id.index ≠ other.index := fun same => different (congrArg HandleId.mk same)
  simp [closing, apart]

private theorem handles_closing_self {s : State ω} {id : HandleId} {h : Handle}
    (found : s.handles[id.index]? = some h) :
    (s.closing id).handles[id.index]? = some { h with detached := true } := by
  simp [closing, found]

end State

namespace Untouched

variable {s : State ω}

private theorem noting (s : State ω) {e : Event} (other : ∀ c, e = .called c → c.thread ≠ u) :
    Untouched part u s (s.noting e) where
  installed := rfl
  owned := rfl
  world := rfl
  calls := by
    cases e with
    | called c => exact s.callsOn_called_other (other c rfl)
    | _ => rfl
  attachment := rfl
  handles found _ := found

private theorem setAttachment (s : State ω) (hu : u ≠ t) (a : Attachment) :
    Untouched part u s (s.setAttachment t a) where
  installed := rfl
  owned := rfl
  world := rfl
  calls := rfl
  attachment := s.attachments_setAttachment_other a hu
  handles found _ := found

private theorem opening (s : State ω) (b : BackendId) (t : ThreadId) : Untouched part u s (s.opening b t) where
  installed := rfl
  owned := rfl
  world := rfl
  calls := rfl
  attachment := rfl
  handles found _ := State.handles_opening_of_some found b t

private theorem closing {id : HandleId} {h : Handle} (found : s.handles[id.index]? = some h) (hu : u ≠ h.owner) :
    Untouched part u s (s.closing id) where
  installed := rfl
  owned := rfl
  world := rfl
  calls := rfl
  attachment := rfl
  handles {other _} there own := by
    have different : id ≠ other := by
      rintro rfl
      rw [found] at there
      cases there
      exact hu own.symm
    rw [s.handles_closing_other different, there]

end Untouched

private theorem Attachment.Alike.mono {ρ ρ₁ : Pairing} (more : Subrelation ρ ρ₁) {a a' : Attachment}
    (alike : a.Alike ρ a') : a.Alike ρ₁ a' := by
  obtain ⟨handle?, failure?, attaching⟩ := a
  obtain ⟨handle?', failure?', attaching'⟩ := a'
  obtain ⟨handle, failure, attaching⟩ := alike
  cases handle with
  | some pair => exact ⟨.some (more pair), failure, attaching⟩
  | none => exact ⟨.none, failure, attaching⟩

/-- An attachment without a handle is alike only to itself. -/
theorem Attachment.Alike.eq_of_unattached {ρ : Pairing} {a a' : Attachment} (alike : a.Alike ρ a')
    (unattached : a.handle? = .none) : a' = a := by
  obtain ⟨handle?, failure?, attaching⟩ := a
  obtain ⟨handle?', failure?', attaching'⟩ := a'
  obtain ⟨handle, failure, attaching⟩ := alike
  cases unattached
  cases handle
  cases failure
  cases attaching
  rfl

/-- The handle of an attachment is paired with that of every one alike. -/
theorem Attachment.Alike.handle_of_some {ρ : Pairing} {a a' : Attachment} (alike : a.Alike ρ a')
    {id : HandleId} (attached : a.handle? = some id) : ∃ id', ρ id id' ∧ a'.handle? = some id' := by
  have handle := alike.handle
  rw [attached] at handle
  cases attached' : a'.handle? with
  | none =>
    rw [attached'] at handle
    cases handle
  | some id' =>
    rw [attached'] at handle
    cases handle with
    | some pair => exact ⟨id', pair, rfl⟩

/-- The handles of a pairing, and one more pair. -/
def Pairing.add (ρ : Pairing) (id id' : HandleId) : Pairing :=
  fun i i' => ρ i i' ∨ (i = id ∧ i' = id')

namespace Coupled

variable {ρ : Pairing} {start s s' : State ω}

private theorem untouched_trans (h : Coupled part b t ρ start s s') {s₁ : State ω}
    (next : ∀ u, u ≠ t → Untouched part u s s₁) (u : ThreadId) (hu : u ≠ t) : Untouched part u start s₁ :=
  (h.others u hu).trans (next u hu)

/-- Any state may be followed from itself. -/
theorem restart (h : Coupled part b t ρ start s s') : Coupled part b t ρ s s s' :=
  { h with others := fun _ _ => Untouched.refl s }

/-- What is followed from the first state may be followed from where that was followed from. -/
theorem onward (h : Coupled part b t ρ start s s') {ρ₁ : Pairing} {e e' : State ω}
    (later : Coupled part b t ρ₁ s e e') : Coupled part b t ρ₁ start e e' :=
  { later with others := h.untouched_trans later.others }

/-- If nothing that belongs to the thread changes in the first state, they stay coupled. -/
theorem of_untouched (h : Coupled part b t ρ start s s') {s₁ : State ω} (same : Untouched part t s s₁) :
    Coupled part b t ρ s₁ s₁ s' where
  installed := ⟨same.installed.trans h.installed.1, h.installed.2⟩
  owned := same.owned.trans h.owned
  world := same.world.trans h.world
  calls := same.calls.trans h.calls
  attachment := by
    rw [same.attachment]
    exact h.attachment
  paired pair := by
    obtain ⟨handle, found, found', own, through⟩ := h.paired pair
    exact ⟨handle, same.handles found own, found', own, through⟩
  matched := h.matched
  others u _ := Untouched.refl s₁

/-- Coupled states may note the same call, through whatever handle. -/
theorem called (h : Coupled part b t ρ start s s') (b' : BackendId) (call : Call)
    (through? through?' : Option HandleId) (level : Nat) :
    Coupled part b t ρ start (s.noting (.called ⟨t, b', call, through?, level⟩))
      (s'.noting (.called ⟨t, b', call, through?', level⟩)) :=
  { h with
    calls := State.callsOn_called_congr h.calls b' call through? through?' level
    others := h.untouched_trans fun u hu => Untouched.noting s fun c same => by
      cases same
      exact hu.symm }

/-- Coupled states may note something that is no call. -/
theorem noting (h : Coupled part b t ρ start s s') (e e' : Event) (other : ∀ c, e ≠ .called c)
    (other' : ∀ c, e' ≠ .called c) : Coupled part b t ρ start (s.noting e) (s'.noting e') :=
  { h with
    calls := by rw [s.callsOn_noting other, s'.callsOn_noting other', h.calls]
    others := h.untouched_trans fun u _ => Untouched.noting s fun c same => (other c same).elim }

/-- Coupled states may write to the log. -/
theorem logging (h : Coupled part b t ρ start s s') (l l' : List LogEntry) :
    Coupled part b t ρ start { s with log := l } { s' with log := l' } :=
  { h with others := fun u hu => { h.others u hu with } }

/-- The worlds change in the part of the thread, to the same. -/
theorem working (h : Coupled part b t ρ start s s') {w w' : ω} (same : SamePart part t start.world w w') :
    Coupled part b t ρ start { s with world := w } { s' with world := w' } :=
  { h with
    world := same.own
    others := fun u hu => { h.others u hu with world := same.others u hu } }

/-- The worlds of both states have the same part for the thread. -/
theorem samePart (h : Coupled part b t ρ start s s') : SamePart part t start.world s.world s'.world where
  own := h.world
  others u hu := (h.others u hu).world

/-- The thread has the same attached in both states. -/
theorem attaching (h : Coupled part b t ρ start s s') {a a' : Attachment} (alike : a.Alike ρ a') :
    Coupled part b t ρ start (s.setAttachment t a) (s'.setAttachment t a') :=
  { h with
    attachment := by
      rw [State.attachments_setAttachment_self, State.attachments_setAttachment_self]
      exact alike
    others := h.untouched_trans fun u hu => Untouched.setAttachment s hu a }

/-- Coupled states may open a handle each, and the two handles are paired. -/
theorem opening (h : Coupled part b t ρ start s s') :
    Coupled part b t (ρ.add ⟨s.handles.length⟩ ⟨s'.handles.length⟩) start (s.opening b t)
      (s'.opening b t) := by
  -- Handles of a pair are there already, so the new ones are none of them.
  have fresh {id id'} (pair : ρ id id') : id ≠ ⟨s.handles.length⟩ ∧ id' ≠ ⟨s'.handles.length⟩ := by
    obtain ⟨handle, found, found', -, -⟩ := h.paired pair
    constructor
    · rintro rfl
      simp at found
    · rintro rfl
      simp at found'
  refine { h with attachment := h.attachment.mono .inl, paired := ?_, matched := ?_, others := ?_ }
  · rintro id id' (pair | ⟨rfl, rfl⟩)
    · obtain ⟨handle, found, found', own, through⟩ := h.paired pair
      exact ⟨handle, State.handles_opening_of_some found b t, State.handles_opening_of_some found' b t, own,
        through⟩
    · exact ⟨⟨b, t, false⟩, s.handles_opening_self b t, s'.handles_opening_self b t, rfl, rfl⟩
  · rintro id id' other other' (pair | ⟨rfl, rfl⟩) (pair' | ⟨rfl, rfl⟩)
    · exact h.matched pair pair'
    · exact ⟨fun same => ((fresh pair).1 same).elim, fun same => ((fresh pair).2 same).elim⟩
    · exact ⟨fun same => ((fresh pair').1 same.symm).elim, fun same => ((fresh pair').2 same.symm).elim⟩
    · exact ⟨fun _ => rfl, fun _ => rfl⟩
  · exact h.untouched_trans fun u _ => Untouched.opening s b t

/-- Coupled states may close handles that are paired. -/
theorem closing (h : Coupled part b t ρ start s s') {id id' : HandleId} (pair : ρ id id') :
    Coupled part b t ρ start (s.closing id) (s'.closing id') := by
  obtain ⟨handle, found, found', own, through⟩ := h.paired pair
  refine { h with paired := ?_, others := ?_ }
  · intro other other' pair'
    have both := h.matched pair pair'
    by_cases same : id = other
    · cases same
      cases both.mp rfl
      exact ⟨{ handle with detached := true }, State.handles_closing_self found,
        State.handles_closing_self found', own, through⟩
    · have different : id' ≠ other' := fun same' => same (both.mpr same')
      rw [s.handles_closing_other same, s'.handles_closing_other different]
      exact h.paired pair'
  · exact h.untouched_trans fun u hu => Untouched.closing found (by rw [own]; exact hu)

end Coupled

end HostBridge
